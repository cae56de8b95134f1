/-
**What is written as JSON is read back.**

The tokens of a value lead the reader from the place where a value may stand to the place after that
value, whatever containers are open around it.

Main results:

* `Json.Reader.run_tokensOf` — the tokens of a value are read as that value;
* `Json.ofText?_compact` — **a value that is written is read back**.
-/

import AssetMarket.Proofs.Json.Scan

set_option relaxedAutoImplicit false
set_option autoImplicit false

namespace AssetMarket

namespace Json

namespace Reader

theorem run_of_step {r r' : Reader} {token : Token} (h : r.step token = some r')
    (tokens : List Token) : r.run (token :: tokens) = r'.run tokens := by
  rw [run, h]

/-- Where a value may stand, any token but the end of an array is the beginning of one. -/
theorem step_value {m : Mode} (hm : m = .value ∨ m = .firstItem) (frames : List Frame)
    {token : Token} (htoken : token ≠ .closeBracket) :
    step ⟨m, frames⟩ token = stepValue frames token := by
  rcases hm with rfl | rfl
  · rfl
  · cases frames with
    | nil => rfl
    | cons frame frames =>
        cases frame with
        | array items =>
            cases token with
            | closeBracket => exact absurd rfl htoken
            | _ => rfl
        | object members => rfl
        | member members name => rfl

mutual

/-- The tokens of a value are read as that value. -/
theorem run_tokensOf : ∀ (j : Json) (m : Mode) (_ : m = .value ∨ m = .firstItem)
    (frames : List Frame) (rest : List Token),
    run ⟨m, frames⟩ (tokensOf j ++ rest) = run ⟨.after j, frames⟩ rest
  | .null, m, hm, frames, rest => run_of_step (step_value hm frames (by nofun)) rest
  | .bool _, m, hm, frames, rest => run_of_step (step_value hm frames (by nofun)) rest
  | .int _, m, hm, frames, rest => run_of_step (step_value hm frames (by nofun)) rest
  | .decimal _, m, hm, frames, rest => run_of_step (step_value hm frames (by nofun)) rest
  | .text _, m, hm, frames, rest => run_of_step (step_value hm frames (by nofun)) rest
  | .array [], m, hm, frames, rest => by
      rw [tokensOf, List.cons_append, run_of_step (step_value hm frames (by nofun))]
      exact run_of_step rfl rest
  | .array (item :: items), m, hm, frames, rest => by
      rw [tokensOf, List.cons_append, run_of_step (step_value hm frames (by nofun)), List.append_assoc]
      exact run_tokensOfItems (item :: items) nofun .firstItem (.inr rfl) [] frames rest
  | .object [], m, hm, frames, rest => by
      rw [tokensOf, List.cons_append, run_of_step (step_value hm frames (by nofun))]
      exact run_of_step rfl rest
  | .object (member :: members), m, hm, frames, rest => by
      rw [tokensOf, List.cons_append, run_of_step (step_value hm frames (by nofun)), List.append_assoc]
      exact run_tokensOfMembers (member :: members) nofun .firstName (.inr rfl) [] frames rest

theorem run_tokensOfItems : ∀ (items : List Json) (_ : items ≠ []) (m : Mode)
    (_ : m = .value ∨ m = .firstItem) (acc : List Json) (frames : List Frame) (rest : List Token),
    run ⟨m, .array acc :: frames⟩ (tokensOfItems items ++ .closeBracket :: rest)
      = run ⟨.after (.array (acc.reverse ++ items)), frames⟩ rest
  | [], hne, _, _, _, _, _ => absurd rfl hne
  | [item], _, m, hm, acc, frames, rest => by
      rw [tokensOfItems, run_tokensOf item m hm, run_of_step rfl, List.reverse_cons]
  | item :: next :: items, _, m, hm, acc, frames, rest => by
      rw [tokensOfItems_cons, List.append_assoc, List.cons_append, run_tokensOf item m hm,
        run_of_step rfl,
        run_tokensOfItems (next :: items) nofun .value (.inl rfl) (item :: acc) frames rest,
        List.reverse_cons, List.append_assoc]
      rfl

theorem run_tokensOfMembers : ∀ (members : List (Option String × Json)) (_ : members ≠ [])
    (m : Mode) (_ : m = .name ∨ m = .firstName) (acc : List (Option String × Json))
    (frames : List Frame) (rest : List Token),
    run ⟨m, .object acc :: frames⟩ (tokensOfMembers members ++ .closeBrace :: rest)
      = run ⟨.after (.object (acc.reverse ++ members)), frames⟩ rest
  | [], hne, _, _, _, _, _ => absurd rfl hne
  | [member], _, m, hm, acc, frames, rest => by
      rw [tokensOfMembers, run_tokensOfMember member m hm, run_of_step rfl, List.reverse_cons]
  | member :: next :: members, _, m, hm, acc, frames, rest => by
      rw [tokensOfMembers_cons, List.append_assoc, List.cons_append,
        run_tokensOfMember member m hm, run_of_step rfl,
        run_tokensOfMembers (next :: members) nofun .name (.inl rfl) (member :: acc) frames rest,
        List.reverse_cons, List.append_assoc]
      rfl

theorem run_tokensOfMember : ∀ (member : Option String × Json) (m : Mode)
    (_ : m = .name ∨ m = .firstName) (acc : List (Option String × Json)) (frames : List Frame)
    (rest : List Token),
    run ⟨m, .object acc :: frames⟩ (tokensOfMember member ++ rest)
      = run ⟨.after member.2, .member acc member.1 :: frames⟩ rest
  | (name, value), m, hm, acc, frames, rest => by
      have hname : step ⟨m, .object acc :: frames⟩ (.text name)
          = some ⟨.colon, .member acc name :: frames⟩ := by
        rcases hm with rfl | rfl <;> rfl
      rw [tokensOfMember, List.cons_append, run_of_step hname, List.cons_append, run_of_step rfl,
        run_tokensOf value .value (.inl rfl)]

end

end Reader

/-- A text that is cut into the tokens of a value is read as that value. -/
theorem ofText?_of_tokens? {j : Json} {cs : List Char} (h : tokens? cs = some (tokensOf j)) :
    ofText? (String.ofList cs) = some j := by
  have hrun := Reader.run_tokensOf j .value (.inl rfl) [] []
  rw [List.append_nil] at hrun
  have hread : Reader.start.run (tokensOf j) = some ⟨.after j, []⟩ := hrun
  rw [ofText?, String.toList_ofList, h]
  show (Reader.start.run (tokensOf j)).bind (·.result?) = some j
  rw [hread]
  rfl

/-- **A value that is written is read back.** -/
theorem ofText?_compact {j : Json} (h : j.isPlain = true) : ofText? j.compact = some j :=
  ofText?_of_tokens? (tokens?_compactChars h)

end Json

end AssetMarket
