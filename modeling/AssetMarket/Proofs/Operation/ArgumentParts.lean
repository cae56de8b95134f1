/-
**One way to split a list of arguments.**

The flags of a command line and the arguments that stand for themselves are found by two walks over
the same arguments.  That the two never come apart is seen from one splitting, which knows of
neither: a key takes the argument behind it, if there is one and it is no key, and every other
argument stands for itself.  The parts of a splitting put together are the arguments, so that each
argument has one place in one part.  What either walk finds is read off the parts.

Main definitions:

* `ArgumentPart` — a key alone, a key with its value, or an argument that stands for itself;
* `Splits` — the splitting, from left to right;
* `LastGives` — the value of the last part that has a key.

Main results:

* `existsUnique_splits`, `Splits.flatMap_arguments` — there is one splitting, and nothing is lost;
* `Splits.ofArguments_eq`, `Splits.positionals_eq` — what the two walks find;
* `Flags.value?_eq_some_iff` — of a flag that is repeated the last value holds;
* `arguments_split_once` — **both walks follow the one splitting**.
-/

import Mathlib.Logic.ExistsUnique
import AssetMarket.Operation.Arguments

set_option relaxedAutoImplicit false
set_option autoImplicit false

namespace AssetMarket

/-! ### Parts -/

/-- A part of a list of arguments. -/
inductive ArgumentPart where
  /-- A key that no value follows. -/
  | switch (name : String)
  /-- A key and the value behind it. -/
  | setting (name value : String)
  /-- An argument that stands for itself. -/
  | operand (argument : String)
  deriving DecidableEq, Repr

namespace ArgumentPart

/-- The arguments that make up a part. -/
def arguments : ArgumentPart → List String
  | .switch name => ["--" ++ name]
  | .setting name value => ["--" ++ name, value]
  | .operand argument => [argument]

/-- The flag that a part gives, with its value. -/
def flag? : ArgumentPart → Option (String × String)
  | .switch name => some (name, "true")
  | .setting name value => some (name, value)
  | .operand _ => none

/-- The argument that stands for itself. -/
def operand? : ArgumentPart → Option String
  | .switch _ => none
  | .setting _ _ => none
  | .operand argument => some argument

end ArgumentPart

/-- An argument that begins with two hyphens. -/
def IsKey (s : String) : Prop := ∃ name, s = "--" ++ name

/-- The parts of a list of arguments, from left to right. -/
inductive Splits : List String → List ArgumentPart → Prop where
  | nil : Splits [] []
  | switch {key name : String} {args : List String} {parts : List ArgumentPart} :
      key = "--" ++ name → (∀ next ∈ args.head?, IsKey next) → Splits args parts →
      Splits (key :: args) (.switch name :: parts)
  | setting {key name value : String} {args : List String} {parts : List ArgumentPart} :
      key = "--" ++ name → ¬ IsKey value → Splits args parts →
      Splits (key :: value :: args) (.setting name value :: parts)
  | operand {argument : String} {args : List String} {parts : List ArgumentPart} :
      ¬ IsKey argument → Splits args parts → Splits (argument :: args) (.operand argument :: parts)

/-- The last part that gives a flag gives it this value. -/
def LastGives (parts : List ArgumentPart) (name value : String) : Prop :=
  ∃ front part back, parts = front ++ part :: back ∧ part.flag? = some (name, value) ∧
    ∀ later ∈ back, ∀ other, later.flag? ≠ some (name, other)

/-! ### Keys -/

section

variable {s name : String}

theorem flagName?_eq_some_iff : flagName? s = some name ↔ s = "--" ++ name := by
  have hchars : s = "--" ++ name ↔ s.toList = '-' :: '-' :: name.toList := by
    rw [← String.toList_inj, String.toList_append]
    rfl
  rw [hchars, flagName?]
  split
  next rest hrest =>
    rw [hrest, Option.some.injEq, List.cons.injEq, List.cons.injEq]
    constructor
    · rintro rfl
      exact ⟨rfl, rfl, String.toList_ofList.symm⟩
    · rintro ⟨-, -, rfl⟩
      exact String.ofList_toList
  next hno => exact ⟨nofun, fun h => absurd h (hno _)⟩

theorem isSome_flagName?_iff : (flagName? s).isSome = true ↔ IsKey s := by
  rw [Option.isSome_iff_exists]
  exact exists_congr fun _ => flagName?_eq_some_iff

theorem flagName?_eq_none_iff : flagName? s = none ↔ ¬ IsKey s := by
  rw [← isSome_flagName?_iff, Option.not_isSome_iff_eq_none]

theorem key_inj {name' : String} (h : s = "--" ++ name) (h' : s = "--" ++ name') :
    name = name' := by
  rw [← flagName?_eq_some_iff] at h h'
  exact Option.some.inj (h.symm.trans h')

end

/-! ### The splitting -/

section

variable {args : List String} {parts parts' : List ArgumentPart}

theorem exists_splits : ∀ args : List String, ∃ parts, Splits args parts
  | [] => ⟨[], .nil⟩
  | [s] => by
      by_cases hs : IsKey s
      · obtain ⟨name, hname⟩ := hs
        exact ⟨[.switch name], .switch hname nofun .nil⟩
      · exact ⟨[.operand s], .operand hs .nil⟩
  | s :: next :: rest => by
      obtain ⟨parts, hparts⟩ := exists_splits (next :: rest)
      by_cases hs : IsKey s
      · obtain ⟨name, hname⟩ := hs
        by_cases hnext : IsKey next
        · exact ⟨.switch name :: parts,
            .switch hname (fun _ h => (Option.some.inj h) ▸ hnext) hparts⟩
        · -- the value is taken with the key, so the rest is split behind both
          obtain ⟨parts, hparts⟩ := exists_splits rest
          exact ⟨.setting name next :: parts, .setting hname hnext hparts⟩
      · exact ⟨.operand s :: parts, .operand hs hparts⟩

theorem Splits.unique (h : Splits args parts) (h' : Splits args parts') : parts' = parts := by
  induction h generalizing parts' with
  | nil => cases h' with | nil => rfl
  | switch hkey hnext _ ih =>
      cases h' with
      | switch hkey' _ hrest => rw [key_inj hkey' hkey, ih hrest]
      | setting _ hvalue _ => exact absurd (hnext _ rfl) hvalue
      | operand hnot _ => exact absurd ⟨_, hkey⟩ hnot
  | setting hkey hvalue _ ih =>
      cases h' with
      | switch _ hnext _ => exact absurd (hnext _ rfl) hvalue
      | setting hkey' _ hrest => rw [key_inj hkey' hkey, ih hrest]
      | operand hnot _ => exact absurd ⟨_, hkey⟩ hnot
  | operand hnot _ ih =>
      cases h' with
      | switch hkey _ _ => exact absurd ⟨_, hkey⟩ hnot
      | setting hkey _ _ => exact absurd ⟨_, hkey⟩ hnot
      | operand _ hrest => rw [ih hrest]

theorem existsUnique_splits (args : List String) : ∃! parts, Splits args parts := by
  obtain ⟨parts, hparts⟩ := exists_splits args
  exact ⟨parts, hparts, fun _ => hparts.unique⟩

/-- The parts put together are the arguments. -/
theorem Splits.flatMap_arguments (h : Splits args parts) :
    parts.flatMap ArgumentPart.arguments = args := by
  induction h with
  | nil => rfl
  | switch hkey _ _ ih => rw [List.flatMap_cons, ih, hkey]; rfl
  | setting hkey _ _ ih => rw [List.flatMap_cons, ih, hkey]; rfl
  | operand _ _ ih => rw [List.flatMap_cons, ih]; rfl

end

/-! ### Steps of the two walks -/

section

variable {key name value s : String} {args : List String}

theorem Flags.ofArguments_switch (hkey : key = "--" ++ name)
    (hnext : ∀ next ∈ args.head?, IsKey next) :
    Flags.ofArguments (key :: args) = (name, "true") :: Flags.ofArguments args := by
  rw [← flagName?_eq_some_iff] at hkey
  cases args with
  | nil => simp [Flags.ofArguments, hkey, impliedValue]
  | cons next args =>
      simp [Flags.ofArguments, hkey, isSome_flagName?_iff.2 (hnext next rfl), impliedValue]

theorem Flags.ofArguments_setting (hkey : key = "--" ++ name) (hvalue : ¬ IsKey value) :
    Flags.ofArguments (key :: value :: args) = (name, value) :: Flags.ofArguments args := by
  rw [← flagName?_eq_some_iff] at hkey
  simp [Flags.ofArguments, hkey, flagName?_eq_none_iff.2 hvalue]

theorem Flags.ofArguments_operand (hnot : ¬ IsKey s) :
    Flags.ofArguments (s :: args) = Flags.ofArguments args := by
  cases args with
  | nil => simp [Flags.ofArguments, flagName?_eq_none_iff.2 hnot]
  | cons next args => simp [Flags.ofArguments, flagName?_eq_none_iff.2 hnot]

theorem positionals_switch (hkey : key = "--" ++ name)
    (hnext : ∀ next ∈ args.head?, IsKey next) : positionals (key :: args) = positionals args := by
  rw [← flagName?_eq_some_iff] at hkey
  cases args with
  | nil => simp [positionals, hkey]
  | cons next args => simp [positionals, hkey, isSome_flagName?_iff.2 (hnext next rfl)]

theorem positionals_setting (hkey : key = "--" ++ name) (hvalue : ¬ IsKey value) :
    positionals (key :: value :: args) = positionals args := by
  rw [← flagName?_eq_some_iff] at hkey
  simp [positionals, hkey, flagName?_eq_none_iff.2 hvalue]

theorem positionals_operand (hnot : ¬ IsKey s) :
    positionals (s :: args) = s :: positionals args := by
  cases args with
  | nil => simp [positionals, flagName?_eq_none_iff.2 hnot]
  | cons next args => simp [positionals, flagName?_eq_none_iff.2 hnot]

end

/-! ### What the two walks find -/

section

variable {args : List String} {parts : List ArgumentPart} {name value : String} {flags : Flags}

theorem Splits.ofArguments_eq (h : Splits args parts) :
    Flags.ofArguments args = parts.filterMap ArgumentPart.flag? := by
  induction h with
  | nil => rfl
  | switch hkey hnext _ ih => rw [Flags.ofArguments_switch hkey hnext, ih]; rfl
  | setting hkey hvalue _ ih => rw [Flags.ofArguments_setting hkey hvalue, ih]; rfl
  | operand hnot _ ih => rw [Flags.ofArguments_operand hnot, ih]; rfl

theorem Splits.positionals_eq (h : Splits args parts) :
    positionals args = parts.filterMap ArgumentPart.operand? := by
  induction h with
  | nil => rfl
  | switch hkey hnext _ ih => rw [positionals_switch hkey hnext, ih]; rfl
  | setting hkey hvalue _ ih => rw [positionals_setting hkey hvalue, ih]; rfl
  | operand hnot _ ih => rw [positionals_operand hnot, ih]; rfl

/-- Of a flag that is repeated the last value holds. -/
theorem Flags.value?_eq_some_iff : flags.value? name = some value ↔
    ∃ front back, flags = front ++ (name, value) :: back ∧ ∀ later ∈ back, later.1 ≠ name := by
  rw [Flags.value?, List.lookup_eq_some_iff]
  constructor
  · rintro ⟨back, front, hflags, hback⟩
    refine ⟨front.reverse, back.reverse, ?_, fun later hlater => ?_⟩
    · rw [← List.reverse_reverse flags, hflags]
      simp
    · exact (bne_iff_ne.1 (hback later (List.mem_reverse.1 hlater))).symm
  · rintro ⟨front, back, rfl, hback⟩
    refine ⟨back.reverse, front.reverse, by simp, fun later hlater => bne_iff_ne.2 ?_⟩
    exact (hback later (List.mem_reverse.1 hlater)).symm

/-- A flag is given if it stands among the flags. -/
theorem Flags.has_iff : flags.has name = true ↔ ∃ value, (name, value) ∈ flags := by
  rw [Flags.has]
  cases hvalue : flags.value? name with
  | none =>
      rw [Flags.value?, List.lookup_eq_none_iff] at hvalue
      refine ⟨nofun, ?_⟩
      rintro ⟨value, hmem⟩
      exact absurd rfl (bne_iff_ne.1 (hvalue _ (List.mem_reverse.2 hmem)))
  | some value =>
      obtain ⟨front, back, rfl, -⟩ := Flags.value?_eq_some_iff.1 hvalue
      exact ⟨fun _ => ⟨value, by simp⟩, fun _ => rfl⟩

theorem value?_filterMap_eq_some_iff :
    Flags.value? (parts.filterMap ArgumentPart.flag?) name = some value ↔
      LastGives parts name value := by
  rw [Flags.value?_eq_some_iff]
  constructor
  · rintro ⟨front, back, hflags, hback⟩
    obtain ⟨before, rest, rfl, -, hrest⟩ := List.filterMap_eq_append_iff.1 hflags
    obtain ⟨between, part, after, rfl, hbetween, hpart, hafter⟩ :=
      List.filterMap_eq_cons_iff.1 hrest
    refine ⟨before ++ between, part, after, by simp, hpart, fun later hlater other hother => ?_⟩
    refine hback (name, other) ?_ rfl
    rw [← hafter]
    exact List.mem_filterMap.2 ⟨later, hlater, hother⟩
  · rintro ⟨front, part, back, rfl, hpart, hback⟩
    refine ⟨front.filterMap ArgumentPart.flag?, back.filterMap ArgumentPart.flag?, ?_, ?_⟩
    · rw [List.filterMap_append, List.filterMap_cons_some hpart]
    · rintro ⟨key, other⟩ hlater rfl
      obtain ⟨later, hmem, hflag⟩ := List.mem_filterMap.1 hlater
      exact hback later hmem other hflag

end

/-- **Both walks follow the one splitting.**  There is one way to split a list of arguments.  Its
parts put together are the arguments, so that each of these has one place in one part; the arguments
that stand for themselves are those of the parts, in order; and the flags are the keys of the
parts, each with the value that the last part with this key gives it. -/
theorem arguments_split_once :
    (∀ args : List String, ∃! parts, Splits args parts) ∧
    ∀ (args : List String) (parts : List ArgumentPart), Splits args parts →
      parts.flatMap ArgumentPart.arguments = args ∧
      positionals args = parts.filterMap ArgumentPart.operand? ∧
      (∀ name : String, (Flags.ofArguments args).has name = true ↔
        ∃ part ∈ parts, ∃ value, part.flag? = some (name, value)) ∧
      ∀ name value : String, (Flags.ofArguments args).value? name = some value ↔
        LastGives parts name value := by
  refine ⟨existsUnique_splits, fun args parts h => ?_⟩
  rw [h.ofArguments_eq]
  refine ⟨h.flatMap_arguments, h.positionals_eq, fun name => ?_,
    fun name value => value?_filterMap_eq_some_iff⟩
  rw [Flags.has_iff]
  simp only [List.mem_filterMap]
  exact ⟨fun ⟨value, part, hmem, hpart⟩ => ⟨part, hmem, value, hpart⟩,
    fun ⟨part, hmem, value, hpart⟩ => ⟨value, part, hmem, hpart⟩⟩

/-- A key before a key, a repeated key whose last value is empty, two hyphens alone, and a key at the
end. -/
theorem arguments_split_once_repeated :
    positionals ["list", "--mint", "--price", "1", "--price", "", "--", "x", "--reserved"]
      = ["list"] ∧
    (Flags.ofArguments
      ["list", "--mint", "--price", "1", "--price", "", "--", "x", "--reserved"]).value? "price"
      = some "" := by
  have hnot (s : String) (h : flagName? s = none) : ¬ IsKey s := flagName?_eq_none_iff.1 h
  have hsplits : Splits ["list", "--mint", "--price", "1", "--price", "", "--", "x", "--reserved"]
      [.operand "list", .switch "mint", .setting "price" "1", .setting "price" "",
        .setting "" "x", .switch "reserved"] := by
    refine .operand (hnot _ rfl) (.switch (by decide) ?_ (.setting (by decide) (hnot _ rfl)
      (.setting (by decide) (hnot _ rfl) (.setting (by decide) (hnot _ rfl)
        (.switch (by decide) nofun .nil)))))
    rintro next ⟨⟩
    exact ⟨"price", by decide⟩
  obtain ⟨-, hsplit⟩ := arguments_split_once
  obtain ⟨-, hpositionals, -, hvalue⟩ := hsplit _ _ hsplits
  refine ⟨hpositionals, (hvalue _ _).2 ⟨[.operand "list", .switch "mint", .setting "price" "1"],
    .setting "price" "", [.setting "" "x", .switch "reserved"], rfl, rfl, ?_⟩⟩
  simp [ArgumentPart.flag?]

end AssetMarket
