/-
**Whether a prepared transaction is accepted.**

A transaction creates the records that were missing when it was prepared.  At the ledger for which
it was prepared all of them are still missing, so it is accepted, as long as no two of them have the
same address.  At a later ledger it can be refused for one reason only: somebody else has created
one of them in the meantime.  Once it has been accepted all records of the operation are there, and
no later preparation creates any.

Main definitions:

* `Operation.Apart` — the records that an operation needs have different addresses;
* `Operation.Provided` — the records that an operation needs are there.

Main results:

* `Operation.of_blocked` — **what stands in the way of a transaction has come later**;
* `Operation.accepts_of_prepare` — **a transaction is accepted where it was prepared**;
* `Operation.provided_of_submit`, `Operation.Provided.of_run` — what it needs is there from then on;
* `Operation.Provided.countWithOpcode_eq_zero` — after that nothing is created any more.
-/

import AssetMarket.Proofs.Ledger.Run
import AssetMarket.Proofs.Operation.Creation

set_option relaxedAutoImplicit false
set_option autoImplicit false

namespace AssetMarket

open Inquiry (eval eval_liftM eval_bind_eq_ok_iff)

theorem MemoryLedger.data?_eq_none_iff {l : MemoryLedger} {a : Address} :
    l.data? a = none ↔ a ∉ l.accounts := by
  rw [data?, Option.map_eq_none_iff, Std.ExtTreeMap.mem_iff_isSome_getElem?,
    Option.not_isSome_iff_eq_none]

/-- A record is created only if it has an address. -/
theorem LazyRecord.exists_address?_of_eval_creations {read : Address → Option Bytes}
    {ctx : Context} {payer : Address} {rs : List LazyRecord} {is : List Instruction}
    (h : (creations ctx payer rs).eval read = .ok is) :
    ∀ r ∈ rs, ∃ a, r.address? ctx.market payer = some a := by
  induction rs generalizing is with
  | nil =>
      intro r hr
      cases hr
  | cons r rs ih =>
      simp only [creations, eval_bind_eq_ok_iff] at h
      obtain ⟨create, hcreate, rest, hrest, -⟩ := h
      obtain ⟨a, -, haddress, -⟩ := eval_creation?_eq_ok_iff.1 hcreate
      exact List.forall_mem_cons.2 ⟨⟨a, address?_eq_some_iff.2 haddress⟩, ih hrest⟩

namespace Operation

/-- The records that an operation needs have different addresses. -/
def Apart (op : Operation) (market payer : Address) : Prop :=
  (op.lazyRecords.filterMap (·.address? market payer)).Nodup

/-- The records that an operation needs are there. -/
def Provided (op : Operation) (l : MemoryLedger) (market payer : Address) : Prop :=
  ∀ r ∈ op.lazyRecords, ∃ a, (r.place payer).address market = .ok a ∧ a ∈ l.accounts

variable {l l' : MemoryLedger} {ctx : Context} {source : CreatorSource} {payer : Address}
  {op : Operation} {tx : Transaction}

theorem mem_missing_iff {market : Address} {r : LazyRecord} :
    r ∈ op.missing l.data? market payer ↔
      r ∈ op.lazyRecords ∧ ∃ a, (r.place payer).address market = .ok a ∧ a ∉ l.accounts := by
  rw [missing, List.mem_filter, LazyRecord.isMissing]
  cases (r.place payer).address market with
  | error e => simp [Except.toOption]
  | ok a => simp [Except.toOption, MemoryLedger.data?_eq_none_iff]

/-- An operation that creates no record of its own creates those that are missing. -/
theorem created_eq_missing (hown : op.ownRecord? = none) (read : Address → Option Bytes)
    (market : Address) : op.created read market payer = op.missing read market payer := by
  rw [created, hown, Option.toList_none, List.append_nil]

/-! ### Refusal -/

/-- **What stands in the way of a transaction has come later.**  A transaction that was prepared
for one ledger is blocked at another by a record that was missing there and is not missing here. -/
theorem of_blocked (hown : op.ownRecord? = none) (hapart : op.Apart ctx.market payer)
    (hprepare : (op.prepare ctx source payer).eval l.data? = .ok tx)
    (hmarket : l'.market = ctx.market) {a : Address} (hblocked : l'.Blocked tx a) :
    a ∈ l'.accounts ∧
      ∃ r ∈ op.missing l.data? ctx.market payer, (r.place payer).address ctx.market = .ok a := by
  have htargets := targets_of_prepare hmarket hprepare
  rw [created_eq_missing hown] at htargets
  have hnodup : (l'.targets tx.instructions).Nodup := by
    rw [htargets]
    exact hapart.sublist ((List.filter_sublist).filterMap _)
  obtain ⟨k, hk, htaken⟩ := hblocked
  constructor
  · rcases htaken with hmem | ⟨j, hjk, hj⟩
    · exact hmem
    · -- no two of its own records stand in each other's way
      have heq := MemoryLedger.nodup_targets_iff.1 hnodup a j k hj hk
      omega
  · have hmem : a ∈ l'.targets tx.instructions := MemoryLedger.mem_targets_iff.2 ⟨k, hk⟩
    rw [htargets, List.mem_filterMap] at hmem
    obtain ⟨r, hr, haddress⟩ := hmem
    exact ⟨r, hr, LazyRecord.address?_eq_some_iff.1 haddress⟩

/-! ### Acceptance -/

theorem not_blocked (hown : op.ownRecord? = none) (hapart : op.Apart ctx.market payer)
    (hprepare : (op.prepare ctx source payer).eval l.data? = .ok tx)
    (hmarket : l.market = ctx.market) : ¬ ∃ a, l.Blocked tx a := by
  rintro ⟨a, hblocked⟩
  obtain ⟨hmem, r, hr, haddress⟩ := of_blocked hown hapart hprepare hmarket hblocked
  obtain ⟨-, b, haddress', hnot⟩ := mem_missing_iff.1 hr
  rw [haddress, Except.ok.injEq] at haddress'
  exact hnot (haddress' ▸ hmem)

/-- **A transaction is accepted where it was prepared.** -/
theorem accepts_of_prepare (hown : op.ownRecord? = none) (hapart : op.Apart ctx.market payer)
    (hprepare : (op.prepare ctx source payer).eval l.data? = .ok tx)
    (hmarket : l.market = ctx.market) : l.Accepts tx := by
  obtain ⟨signature, l', hanswered, -⟩ :=
    MemoryLedger.submit_of_not_blocked (not_blocked hown hapart hprepare hmarket)
  exact ⟨signature, l', hanswered⟩

/-! ### What there is afterwards -/

theorem exists_address_of_prepare {read : Address → Option Bytes}
    (hprepare : (op.prepare ctx source payer).eval read = .ok tx) :
    ∀ r ∈ op.lazyRecords, ∃ a, (r.place payer).address ctx.market = .ok a := by
  simp only [prepare, LazyKind.creations_lazyKinds, eval_bind_eq_ok_iff] at hprepare
  obtain ⟨set, -, creations, hcreations, -⟩ := hprepare
  intro r hr
  obtain ⟨a, ha⟩ := LazyRecord.exists_address?_of_eval_creations hcreations r hr
  exact ⟨a, LazyRecord.address?_eq_some_iff.1 ha⟩

/-- A record that was there stays, and one that was missing has been created. -/
theorem provided_of_submit {signature : String}
    (hprepare : (op.prepare ctx source payer).eval l.data? = .ok tx)
    (hmarket : l.market = ctx.market) (hsubmit : l.submit tx = .ok (signature, l')) :
    op.Provided l' ctx.market payer := by
  intro r hr
  obtain ⟨a, haddress⟩ := exists_address_of_prepare hprepare r hr
  refine ⟨a, haddress, ?_⟩
  -- what was there stays, and what was missing is among the targets of the transaction
  by_cases hmem : a ∈ l.accounts
  · have hrun : MemoryLedger.Run l _ l' :=
      .accepted (MemoryLedger.requests_submit_eq_answered_iff.2 hsubmit) .done
    exact hrun.mem_accounts hmem
  · have hmissing : r ∈ op.missing l.data? ctx.market payer :=
      mem_missing_iff.2 ⟨hr, a, haddress, hmem⟩
    have htarget : a ∈ l.targets tx.instructions := by
      rw [targets_of_prepare hmarket hprepare, List.mem_filterMap]
      exact ⟨r, List.mem_append_left _ hmissing, LazyRecord.address?_eq_some_iff.2 haddress⟩
    have hadded := (MemoryLedger.extends_of_submit hsubmit).added a
    exact (hadded.2 (MemoryLedger.mem_targets_iff.1 htarget)).1

namespace Provided

theorem of_run {market : Address} {log : List (String × Transaction)}
    (h : op.Provided l market payer) (hrun : MemoryLedger.Run l log l') :
    op.Provided l' market payer := by
  intro r hr
  obtain ⟨a, haddress, hmem⟩ := h r hr
  exact ⟨a, haddress, hrun.mem_accounts hmem⟩

theorem missing_eq_nil {market : Address} (h : op.Provided l market payer) :
    op.missing l.data? market payer = [] := by
  rw [List.eq_nil_iff_forall_not_mem]
  intro r hr
  obtain ⟨hlazy, a, haddress, hnot⟩ := mem_missing_iff.1 hr
  obtain ⟨b, haddress', hmem⟩ := h r hlazy
  rw [haddress, Except.ok.injEq] at haddress'
  exact hnot (haddress' ▸ hmem)

/-- Where all records are there, nothing is created any more. -/
theorem countWithOpcode_eq_zero (h : op.Provided l ctx.market payer) (hown : op.ownRecord? = none)
    (hprepare : (op.prepare ctx source payer).eval l.data? = .ok tx) {m : Method}
    (hm : m ∈ Method.creators) : tx.countWithOpcode m.opcode = 0 := by
  have hnone : tx.instructions.filter (·.initializes ctx.market) = [] := by
    have hcalls := map_filter_initializes_of_prepare hprepare
    rwa [created_eq_missing hown, h.missing_eq_nil, List.map_nil, List.map_eq_nil_iff] at hcalls
  rw [Transaction.countWithOpcode, List.countP_eq_zero]
  intro i hi hbegins
  rw [(prepared_of_eval_prepare hprepare).opcode_isPrefixOf_eq hi] at hbegins
  exact List.filter_eq_nil_iff.1 hnone i hi (Instruction.initializes_eq_true_iff.2 ⟨m, hm, hbegins⟩)

end Provided

end Operation

end AssetMarket
