/-
**Every event stands for itself.**

The event of an instruction is told from three things: the instruction, the signature and the time
of its transaction, and the coins that were moved under it.  Moves are added up, and a sum that
stops at the largest amount does not depend on the order in which it is made, so it does not matter
how the moves are grouped.  Nothing else of a transaction has an influence, and an instruction that
cannot be read takes away no event but its own.

Main definitions:

* `InnerInstruction.coinsFrom`, `InnerGroup.coinsFrom` — the coins that leave an account, exactly;
* `PastTransaction.ownEvent?` — the event at a position, if it is one of a program;
* `PastTransaction.replace` — a transaction with another instruction at a position.

Main results:

* `PastTransaction.toNat_transferredFrom` — a price is the exact sum, up to the largest amount;
* `PastTransaction.instructionEvent_of_perm` — what is moved decides, and not how it is grouped;
* `PastTransaction.events_eq_filterMap_range` — the events are those of the positions, in order;
* `PastTransaction.exists_eventsOf_replace` — an instruction has an influence on its own event only;
* `PastTransaction.events_independent` — **every event stands for itself**.
-/

import Mathlib.Data.List.Basic
import AssetMarket.Event.Decode

set_option relaxedAutoImplicit false
set_option autoImplicit false

namespace AssetMarket

/-! ### Coins -/

/-- The coins that an inner instruction takes from an account. -/
def InnerInstruction.coinsFrom (payer : Address) : InnerInstruction → Nat
  | .transfer source _ amount => if source = payer then amount.toNat else 0
  | .other _ => 0

/-- The coins that a group of inner instructions takes from an account. -/
def InnerGroup.coinsFrom (payer : Address) (group : InnerGroup) : Nat :=
  (group.instructions.map (·.coinsFrom payer)).sum

theorem InnerInstruction.sum_amountFrom? (payer : Address) (is : List InnerInstruction) :
    ((is.filterMap (amountFrom? payer)).map UInt64.toNat).sum
      = (is.map (·.coinsFrom payer)).sum := by
  induction is with
  | nil => rfl
  | cons i is ih =>
      rw [List.map_cons, List.sum_cons, ← ih]
      cases i with
      | other program =>
          rw [List.filterMap_cons_none rfl, coinsFrom, Nat.zero_add]
      | transfer source destination amount =>
          by_cases h : source = payer
          · have hamount : amountFrom? payer (.transfer source destination amount) = some amount :=
              if_pos h
            rw [List.filterMap_cons_some hamount, List.map_cons, List.sum_cons, coinsFrom, if_pos h]
          · have hamount : amountFrom? payer (.transfer source destination amount) = none :=
              if_neg h
            rw [List.filterMap_cons_none hamount, coinsFrom, if_neg h, Nat.zero_add]

namespace PastTransaction

variable {tx tx' : PastTransaction} {i j : Nat}

theorem sum_innerAt (tx : PastTransaction) (index : Nat) (payer : Address) :
    ((tx.innerAt index).map (·.coinsFrom payer)).sum
      = (tx.inner.map fun group =>
          if group.index.toNat = index then group.coinsFrom payer else 0).sum := by
  rw [innerAt]
  induction tx.inner with
  | nil => rfl
  | cons group groups ih =>
      by_cases h : group.index.toNat = index
      · rw [List.filter_cons_of_pos (by simpa using h), List.flatMap_cons, List.map_append,
          List.sum_append, ih, List.map_cons, List.sum_cons, if_pos h]
        rfl
      · rw [List.filter_cons_of_neg (by simpa using h), ih, List.map_cons, List.sum_cons, if_neg h,
          Nat.zero_add]

/-- A price is the exact sum of all moves out of an account, up to the largest amount. -/
theorem toNat_transferredFrom (tx : PastTransaction) (index : Nat) (payer : Address) :
    (tx.transferredFrom index payer).toNat
      = min (2 ^ 64 - 1) (tx.inner.map fun group =>
          if group.index.toNat = index then group.coinsFrom payer else 0).sum := by
  rw [transferredFrom_eq_sum, InnerInstruction.sum_amountFrom?, sum_innerAt]

theorem transferredFrom_of_perm (h : (tx.innerAt i).Perm (tx'.innerAt j)) :
    tx.transferredFrom i = tx'.transferredFrom j := by
  funext payer
  have hamounts := (h.filterMap (InnerInstruction.amountFrom? payer)).map UInt64.toNat
  rw [← UInt64.toNat_inj, transferredFrom_eq_sum, transferredFrom_eq_sum, hamounts.sum_nat]

/-! ### What an event depends on -/

/-- What is moved under an instruction decides its event, and not how the moves are grouped or in
which order they come. -/
theorem instructionEvent_of_perm (hsignature : tx.signature = tx'.signature)
    (htime : tx.blockTime = tx'.blockTime) (hmoves : (tx.innerAt i).Perm (tx'.innerAt j))
    (instruction : PastInstruction) :
    tx.instructionEvent i instruction = tx'.instructionEvent j instruction := by
  simp only [instructionEvent, eventOf, hsignature, htime, transferredFrom_of_perm hmoves]

theorem eventAt_of_perm {instruction : PastInstruction}
    (hsignature : tx.signature = tx'.signature) (htime : tx.blockTime = tx'.blockTime)
    (hi : tx.instructions[i]? = some instruction) (hj : tx'.instructions[j]? = some instruction)
    (hmoves : (tx.innerAt i).Perm (tx'.innerAt j)) : tx.eventAt i = tx'.eventAt j := by
  rw [eventAt, eventAt, hi, hj]
  exact instructionEvent_of_perm hsignature htime hmoves instruction

/-! ### The events of a program -/

/-- The event at a position, if the instruction there is one of the program and can be read. -/
def ownEvent? (tx : PastTransaction) (program : Address) (index : Nat) : Option Event :=
  if tx.instructions[index]?.any (·.program = program) then (tx.eventAt index).toOption.join
  else none

/-- A transaction with another instruction at a position. -/
def replace (tx : PastTransaction) (index : Nat) (instruction : PastInstruction) :
    PastTransaction :=
  { tx with instructions := tx.instructions.set index instruction }

theorem eventFor?_eq_ownEvent? {program : Address} {instruction : PastInstruction} {index : Nat}
    (h : tx.instructions[index]? = some instruction) :
    tx.eventFor? program (instruction, index) = tx.ownEvent? program index := by
  rw [eventFor?, ownEvent?, eventAt, h]
  by_cases hprogram : instruction.program = program
  · simp only [hprogram, if_true, Option.any_some, decide_true]
    cases tx.instructionEvent index instruction <;> rfl
  · simp [hprogram]

/-- What the instructions are has no influence on the event of a given one. -/
theorem eventFor?_replace (tx : PastTransaction) (index : Nat) (instruction : PastInstruction) :
    (tx.replace index instruction).eventFor? = tx.eventFor? := rfl

/-- The events of a transaction are those of its positions, in order. -/
theorem events_eq_filterMap_range (tx : PastTransaction) (program : Address) :
    tx.events program = (List.range tx.instructions.length).filterMap (tx.ownEvent? program) := by
  calc tx.events program
      = tx.instructions.zipIdx.filterMap (tx.ownEvent? program ∘ Prod.snd) :=
        List.filterMap_congr fun _ hentry =>
          eventFor?_eq_ownEvent? (List.mem_zipIdx_iff_getElem?.1 hentry)
    _ = (List.range tx.instructions.length).filterMap (tx.ownEvent? program) := by
        rw [← List.filterMap_map, List.zipIdx_map_snd, List.range_eq_range']

/-- An instruction has an influence on its own event only: what is decoded before it and after it
is the same for all that could stand in its place. -/
theorem exists_events_replace {index : Nat} (h : index < tx.instructions.length)
    (program : Address) :
    ∃ before after, ∀ instruction, (tx.replace index instruction).events program
      = before ++ (((tx.replace index instruction).ownEvent? program index).toList ++ after) := by
  refine ⟨(tx.instructions.take index).zipIdx.filterMap (tx.eventFor? program),
    ((tx.instructions.drop (index + 1)).zipIdx (index + 1)).filterMap (tx.eventFor? program), ?_⟩
  intro instruction
  have hplace : (tx.replace index instruction).instructions[index]? = some instruction :=
    List.getElem?_set_self h
  have hlength : (tx.instructions.take index).length = index := by
    rw [List.length_take]
    omega
  have hlist : (tx.replace index instruction).instructions
      = tx.instructions.take index ++ instruction :: tx.instructions.drop (index + 1) := by
    rw [replace, List.set_eq_take_append_cons_drop, if_pos h]
  rw [← eventFor?_eq_ownEvent? hplace, events, hlist, eventFor?_replace, List.zipIdx_append,
    List.zipIdx_cons, hlength, Nat.zero_add, List.filterMap_append]
  cases hown : tx.eventFor? program (instruction, index) with
  | none => exact congrArg _ (List.filterMap_cons_none hown)
  | some event => exact congrArg _ (List.filterMap_cons_some hown)

theorem exists_eventsOf_replace {index : Nat} (h : index < tx.instructions.length)
    (program : Address) (front back : List PastTransaction) :
    ∃ before after, ∀ instruction,
      eventsOf program (front ++ tx.replace index instruction :: back)
        = before ++ (((tx.replace index instruction).ownEvent? program index).toList ++ after) := by
  obtain ⟨before, after, hevents⟩ := exists_events_replace h program
  refine ⟨eventsOf program front ++ before, after ++ eventsOf program back, ?_⟩
  intro instruction
  simp only [eventsOf, List.flatMap_append, List.flatMap_cons, hevents, List.append_assoc]

/-! ### All of it -/

/-- **Every event stands for itself.**  An instruction makes the same event, no event or the same
complaint in any two transactions of one signature and time, if what was moved under it is the same,
however it is grouped and ordered.  The coins that left an account under an instruction are the
exact sum over all groups of its position, or the largest amount if the sum is beyond it.  The
events of several transactions are those of the program's instructions that can be read, in order,
and whatever stands in the place of an instruction, all other events remain. -/
theorem events_independent :
    (∀ (tx tx' : PastTransaction) (i j : Nat) (instruction : PastInstruction),
      tx.signature = tx'.signature → tx.blockTime = tx'.blockTime →
      tx.instructions[i]? = some instruction → tx'.instructions[j]? = some instruction →
      (tx.innerAt i).Perm (tx'.innerAt j) → tx.eventAt i = tx'.eventAt j) ∧
    (∀ (tx : PastTransaction) (index : Nat) (payer : Address),
      (tx.transferredFrom index payer).toNat
        = min (2 ^ 64 - 1) (tx.inner.map fun group =>
            if group.index.toNat = index then group.coinsFrom payer else 0).sum) ∧
    (∀ (program : Address) (txs : List PastTransaction),
      eventsOf program txs = txs.flatMap fun tx =>
        (List.range tx.instructions.length).filterMap (tx.ownEvent? program)) ∧
    ∀ (program : Address) (front back : List PastTransaction) (tx : PastTransaction) (index : Nat),
      index < tx.instructions.length →
      ∃ before after, ∀ instruction,
        eventsOf program (front ++ tx.replace index instruction :: back)
          = before
            ++ (((tx.replace index instruction).ownEvent? program index).toList ++ after) := by
  refine ⟨?_, toNat_transferredFrom, ?_, ?_⟩
  · intro tx tx' i j instruction hsignature htime hi hj hmoves
    exact eventAt_of_perm hsignature htime hi hj hmoves
  · intro program txs
    simp only [eventsOf, events_eq_filterMap_range]
  · intro program front back tx index h
    exact exists_eventsOf_replace h program front back

/-- A purchase, as the ledger keeps it. -/
def keptPurchase : PastInstruction :=
  ⟨Address.marketplace, (List.range 14).map Address.ofNumber, Method.purchase.opcode ++ [1, 2, 3, 4]⟩

/-- A purchase by itself, with all its moves in one group. -/
def together : PastTransaction :=
  ⟨"signature", some 3, [keptPurchase],
    [⟨0, [.transfer (.ofNumber 0) (.ofNumber 20) 5, .other Address.tokenProgram,
      .transfer (.ofNumber 0) (.ofNumber 21) 7]⟩]⟩

/-- The same purchase after an instruction that cannot be read, with its moves in two groups and
some under a position that is not there. -/
def scattered : PastTransaction :=
  ⟨"signature", some 3, [⟨Address.marketplace, [], [1, 2, 3]⟩, keptPurchase],
    [⟨1, [.transfer (.ofNumber 0) (.ofNumber 21) 7]⟩,
     ⟨9, [.transfer (.ofNumber 0) (.ofNumber 20) 100]⟩,
     ⟨1, [.other Address.tokenProgram, .transfer (.ofNumber 0) (.ofNumber 20) 5]⟩]⟩

/-- Both make the same event, at a price of twelve, and it remains whatever stands before it. -/
theorem events_independent_scattered :
    (together.innerAt 0).Perm (scattered.innerAt 1) ∧
      together.eventAt 0 = scattered.eventAt 1 ∧
      scattered.events Address.marketplace = [⟨"signature", some 3, .ofNumber 0, "QPHXB9jL",
        .purchase (.ofNumber 8) (.ofNumber 0) (.ofNumber 6) 12⟩] ∧
      (scattered.transferredFrom 1 (.ofNumber 0)).toNat = 12 ∧
      ∃ before after, ∀ instruction,
        eventsOf Address.marketplace [scattered.replace 0 instruction]
          = before
            ++ (((scattered.replace 0 instruction).ownEvent? Address.marketplace 0).toList
              ++ after) := by
  obtain ⟨hsame, hprice, hevents, hothers⟩ := events_independent
  have hmoves : (together.innerAt 0).Perm (scattered.innerAt 1) := by decide +kernel
  have hlist := hevents Address.marketplace [scattered]
  rw [eventsOf, List.flatMap_singleton, List.flatMap_singleton] at hlist
  refine ⟨hmoves, hsame together scattered 0 1 keptPurchase rfl rfl rfl rfl hmoves, ?_, ?_, ?_⟩
  · rw [hlist]
    decide +kernel
  · rw [hprice]
    decide +kernel
  · exact hothers Address.marketplace [] [] scattered 0 (by decide)

end PastTransaction

end AssetMarket
