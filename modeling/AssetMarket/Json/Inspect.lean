/-
**Going through a JSON text for a fault.**

Where a text cannot be read, this says what is wrong with it and where.  The text is gone through
from the left, and the first thing that does not fit is the fault; so a fault of shape in front is
reported before a fault of grammar behind it.

Main definitions:

* `Json.Cursor` — what is left of a text, and the place where that begins;
* `Json.Inspect` — a way through a text, which ends in a fault or behind some part of it;
* `Json.Inspect.fault?` — the fault of a whole text;
* `Json.Inspect.complaint`, `Json.Inspect.breaksDown` — what is said of it, if anything is.

Main results:

* `Json.Cursor.upTo_next_append_rest` — what is passed and what is left are all of the text.
-/

import AssetMarket.Json.Fault
import AssetMarket.Json.Token

set_option relaxedAutoImplicit false
set_option autoImplicit false

namespace AssetMarket

namespace Json

/-- What is left of a text, how many characters that are, and the place where they begin. -/
structure Cursor where
  rest : List Char
  left : Nat
  spot : Spot
  left_eq : left = rest.length

namespace Cursor

/-- The beginning of a text. -/
def ofText (s : String) : Cursor := ⟨s.toList, s.toList.length, .start, rfl⟩

/-- Behind the next character. -/
def next (c : Cursor) : Cursor :=
  match h : c.rest with
  | [] => c
  | x :: rest => ⟨rest, c.left - 1, c.spot.past x, by simp [c.left_eq, h]⟩

/-- Behind the characters of some sort. -/
def skipWhile (p : Char → Bool) (c : Cursor) : Cursor :=
  (c.rest.takeWhile p).foldl (fun c _ => c.next) c

/-- The place one byte further, where a complaint about the next character stands.  At the end it is
the end. -/
def ahead (c : Cursor) : Spot :=
  match c.rest with
  | [] => c.spot
  | x :: _ => c.spot.pastBytesOf x 1

/-- The characters in front of a later cursor. -/
def upTo (c later : Cursor) : List Char := c.rest.take (c.left - later.left)

theorem rest_next (c : Cursor) : c.next.rest = c.rest.tail := by
  unfold next
  split
  · rename_i h
    simp [h]
  · rename_i h
    simp [h]

theorem upTo_next_append_rest (c : Cursor) : c.upTo c.next ++ c.next.rest = c.rest := by
  rw [upTo, rest_next, c.left_eq, c.next.left_eq, rest_next]
  cases c.rest <;> simp

end Cursor

/-- A way through a text.  After a fault, the cursor stays where it was. -/
abbrev Inspect := ExceptT Fault (StateM Cursor)

namespace Inspect

/-! ### Faults -/

/-- A fault of grammar that is noticed at a place. -/
def failAt {α : Type} (spot : Spot) (e : GrammarError) : Inspect α := throw ⟨.grammar e, some spot⟩

/-- A fault of grammar in what has been passed. -/
def failHere {α : Type} (e : GrammarError) : Inspect α := do failAt (← get).spot e

/-- A fault of grammar in the next character. -/
def failAhead {α : Type} (e : GrammarError) : Inspect α := do failAt (← get).ahead e

/-- A fault of shape, the place of which is not known yet. -/
def blame {α : Type} (e : ShapeError) : Inspect α := throw ⟨.shape e, none⟩

/-- A fault without a place gets the one where the way ends. -/
def placed {α : Type} (way : Inspect α) : Inspect α :=
  tryCatch way fun f => do throw { f with spot := f.spot <|> some (← get).spot }

/-! ### Characters -/

/-- The next character, which stays. -/
def peek? : Inspect (Option Char) := return (← get).rest.head?

/-- Pass the next character. -/
def eat : Inspect Unit := modify Cursor.next

/-- Pass the characters of some sort, and return them. -/
def eatWhile (p : Char → Bool) : Inspect (List Char) := do
  let before ← get
  modify (Cursor.skipWhile p)
  return before.upTo (← get)

/-- Pass blanks. -/
def blanks : Inspect Unit := modify (Cursor.skipWhile Scanner.isSpace)

/-- Pass blanks; the character behind them stays, and it is a fault if there is none. -/
def nextOr (e : GrammarError) : Inspect Char := do
  blanks
  match ← peek? with
  | some c => return c
  | none => failHere e

/-- A number of steps that is never used up, if each step passes a character. -/
def enough : Inspect Nat := return (← get).left + 1

/-- The characters that a way passes. -/
def piece (way : Inspect Unit) : Inspect (List Char) := do
  let before ← get
  way
  return before.upTo (← get)

/-! ### Whole texts -/

/-- A way through a text, and nothing but blanks behind it. -/
def alone (way : Inspect Unit) : Inspect Unit := do
  way
  blanks
  if (← peek?).isSome then failAhead .trailingText

/-- The fault of a text, if the way through it finds one. -/
def fault? (way : Inspect Unit) (s : String) : Option Fault :=
  match (alone way).run (Cursor.ofText s) with
  | (.error f, _) => some f
  | (.ok (), _) => none

/-- What is said of a text in which the way through it finds a fault. -/
def complaint (way : Inspect Unit) (s : String) : String := (fault? way s).elim "" Fault.message

/-- Whether the first fault is that the reader of a text inside breaks down. -/
def breaksDown (way : Inspect Unit) (s : String) : Bool :=
  (fault? way s).any (·.cause = .shape .breakdown)

end Inspect

end Json

end AssetMarket
