/-
**The shape of a prepared transaction.**

A prepared transaction has three parts: the creations of the records that are missing, in the order
in which the operation lists them, what is opened for the call, and the call itself.  Whether a
record is missing is decided by the ledger alone.

Main definitions:

* `LazyRecord.isMissing` — whether a record has a place and nothing is there;
* `Operation.missing` — the records that an operation needs and that are missing.

Main results:

* `LazyRecord.build_of_eval_creations` — creations are the calls of the missing records;
* `exists_build_of_map_build`, `filterMap_of_map_build` — instructions that were built from calls are
  like the calls;
* `Operation.parts_of_eval_prepare`, `Operation.forall_mem_parts` — **the parts of a prepared
  transaction**.
-/

import AssetMarket.Client
import AssetMarket.Operation.Preparation
import AssetMarket.Proofs.Operation.Assembly

set_option relaxedAutoImplicit false
set_option autoImplicit false

namespace AssetMarket

open Inquiry (eval eval_bind eval_liftM eval_bind_eq_ok_iff)

variable {read : Address → Option Bytes} {ctx : Context} {source : CreatorSource}
  {payer : Address}

namespace LazyRecord

/-- Whether a record has a place and nothing is there. -/
def isMissing (r : LazyRecord) (read : Address → Option Bytes) (market payer : Address) : Bool :=
  ((r.place payer).address market).toOption.any fun a => (read a).isNone

/-- A creation is the call of its record, and there is one exactly if the record is missing. -/
theorem eval_creation?_eq_ok_iff {r : LazyRecord} {create : Option Instruction} :
    (r.creation? ctx payer).eval read = .ok create ↔
      ∃ address i, (r.place payer).address ctx.market = .ok address ∧
        (r.call payer).build ctx.market = .ok i ∧
          create = if (read address).isSome then none else some i := by
  simp only [creation?, eval_bind_eq_ok_iff, eval_liftM]
  constructor
  · rintro ⟨address, haddress, i, hbuild, h⟩
    refine ⟨address, i, haddress, hbuild, ?_⟩
    cases hread : read address <;> simpa [hread, Except.bind, eq_comm] using h
  · rintro ⟨address, i, haddress, hbuild, rfl⟩
    refine ⟨address, haddress, i, hbuild, ?_⟩
    cases hread : read address <;> simp [hread, Except.bind]

/-- Creations are the calls of the missing records, in order. -/
theorem build_of_eval_creations {rs : List LazyRecord} {is : List Instruction}
    (h : (creations ctx payer rs).eval read = .ok is) :
    is.map .ok = ((rs.filter (·.isMissing read ctx.market payer)).map (·.call payer)).map
      (·.build ctx.market) := by
  induction rs generalizing is with
  | nil =>
      cases h
      rfl
  | cons r rs ih =>
      simp only [creations, eval_bind_eq_ok_iff] at h
      obtain ⟨create, hcreate, rest, hrest, h⟩ := h
      cases h
      obtain ⟨address, i, haddress, hbuild, rfl⟩ := eval_creation?_eq_ok_iff.1 hcreate
      cases hread : read address with
      | none =>
          have hmissing : r.isMissing read ctx.market payer = true := by
            simp [isMissing, haddress, hread, Except.toOption]
          simp [hmissing, ih hrest, hbuild]
      | some bytes =>
          -- What is there already is passed over by both sides.
          have hmissing : r.isMissing read ctx.market payer = false := by
            simp [isMissing, haddress, hread, Except.toOption]
          simp [hmissing, ih hrest]

end LazyRecord

theorem exists_build_of_map_build {market : Address} {calls : List Call} {is : List Instruction}
    (h : is.map .ok = calls.map (·.build market)) {i : Instruction} (hi : i ∈ is) :
    ∃ call ∈ calls, call.build market = .ok i := by
  have hmem : (.ok i : Except MarketError Instruction) ∈ is.map .ok := List.mem_map_of_mem hi
  rw [h] at hmem
  exact List.mem_map.1 hmem

/-- What holds of each instruction that was built from a call holds of a list of them. -/
theorem filterMap_of_map_build {β : Type} {market : Address} {f : Instruction → Option β}
    {g : Call → Option β} (hfg : ∀ call i, call.build market = .ok i → f i = g call)
    {calls : List Call} {is : List Instruction} (h : is.map .ok = calls.map (·.build market)) :
    is.filterMap f = calls.filterMap g := by
  induction calls generalizing is with
  | nil =>
      rw [List.map_nil, List.map_eq_nil_iff] at h
      rw [h]
      rfl
  | cons call calls ih =>
      cases is with
      | nil => cases h
      | cons i is =>
          rw [List.map_cons, List.map_cons] at h
          injection h with hbuild hrest
          rw [List.filterMap_cons, List.filterMap_cons, hfg call i hbuild.symm, ih hrest]

namespace Operation

/-- The records that an operation needs and that are missing. -/
def missing (op : Operation) (read : Address → Option Bytes) (market payer : Address) :
    List LazyRecord :=
  op.lazyRecords.filter (·.isMissing read market payer)

theorem toList_foldr_prepend (is : List Instruction) (set : InstructionSet) :
    (is.foldr (fun create set => set.prepend create) set).toList = is ++ set.toList := by
  induction is with
  | nil => rfl
  | cons i is ih => rw [List.foldr_cons, InstructionSet.toList_prepend, ih, List.cons_append]

/-- What holds of each part of a transaction holds of all of its instructions. -/
theorem forall_mem_parts {P : Instruction → Prop} {creations : List Instruction}
    {create : Option Instruction} {i : Instruction} (hcreations : ∀ j ∈ creations, P j)
    (hcreate : ∀ j ∈ create, P j) (hi : P i) : ∀ j ∈ creations ++ (create.toList ++ [i]), P j := by
  intro j hj
  simp only [List.mem_append, Option.mem_toList, List.mem_singleton] at hj
  rcases hj with hj | hj | rfl
  · exact hcreations j hj
  · exact hcreate j hj
  · exact hi

/-- What cannot be assembled cannot be prepared. -/
theorem eval_prepare_of_assemble_error {op : Operation} {e : MarketError}
    (h : (op.assemble ctx source payer).eval read = .error e) :
    (op.prepare ctx source payer).eval read = .error e := by
  rw [prepare, eval_bind, h]
  rfl

/-- **The parts of a prepared transaction.** -/
theorem parts_of_eval_prepare {op : Operation} {tx : Transaction}
    (h : (op.prepare ctx source payer).eval read = .ok tx) :
    ∃ creations call create i,
      creations.map .ok = ((op.missing read ctx.market payer).map (·.call payer)).map
        (·.build ctx.market) ∧
      Assembles read ctx source payer op call create ∧
      call.build ctx.market = .ok i ∧
      tx = { payer := payer, instructions := creations ++ (create.toList ++ [i]) } := by
  simp only [prepare, LazyKind.creations_lazyKinds, eval_bind_eq_ok_iff] at h
  obtain ⟨set, hset, creations, hcreations, h⟩ := h
  obtain ⟨call, create, i, hcall, hbuild, rfl⟩ := eval_assemble_eq_ok_iff.1 hset
  refine ⟨creations, call, create, i, LazyRecord.build_of_eval_creations hcreations, hcall, hbuild,
    ?_⟩
  cases h
  rw [Transaction.ofSet, toList_foldr_prepend, InstructionSet.toList]

end Operation

end AssetMarket
