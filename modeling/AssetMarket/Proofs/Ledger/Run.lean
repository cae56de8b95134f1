/-
**What happens to a ledger over time.**

Clients submit transactions to a ledger, and whoever sets it up puts accounts and past transactions
there.  A `Run` is any such course of events, with the transactions that were accepted and the
signatures they were answered with.  What a single event does not take away, no run takes away:
accounts stay, an address receives its record once and for all, and a signature that was given out
is confirmed ever after.

Main definitions:

* `MemoryLedger.Confirms` — a ledger confirms a signature;
* `MemoryLedger.Run` — a course of events, with the transactions that were accepted;
* `MemoryLedger.Accepts`, `MemoryLedger.Refuses` — what comes of a transaction.

Main results:

* `MemoryLedger.isKnown_signatureOf_iff` — a signature is known if its number has been reached;
* `MemoryLedger.Run.mem_accounts` — no account goes away;
* `MemoryLedger.Run.targets`, `MemoryLedger.Run.once` — **no address receives a record twice**;
* `MemoryLedger.Run.map_signature` — signatures are numbered without a gap;
* `MemoryLedger.Run.confirms_of_mem`, `MemoryLedger.Run.mem_of_confirms` — which are confirmed;
* `MemoryLedger.submit_all_or_nothing` — **a submission is carried out as a whole or not at all**.
-/

import AssetMarket.Proofs.Ledger.Submission
import AssetMarket.Proofs.Text.Numeral

set_option relaxedAutoImplicit false
set_option autoImplicit false

namespace AssetMarket

namespace MemoryLedger

/-! ### Signatures -/

section

variable {l : MemoryLedger} {count n : Nat}

theorem toList_signatureOf (n : Nat) :
    (signatureOf n).toList = "memory-".toList ++ Nat.toDigits 10 n := by
  have htext : signatureOf n = "memory-" ++ toString n := rfl
  rw [htext, String.toList_append, Nat.toString_eq_ofList_toDigits]
  exact congrArg ("memory-".toList ++ ·) String.toList_ofList

theorem numberOf?_signatureOf (count n : Nat) :
    numberOf? count (signatureOf n) = if n ≤ count then some n else none := by
  have hmark : "memory-".toList.isPrefixOf (signatureOf n).toList = true := by
    rw [toList_signatureOf, List.isPrefixOf_iff_prefix]
    exact List.prefix_append _ _
  rw [numberOf?, if_pos hmark, toList_signatureOf, List.drop_left, Text.natural_toDigits]
  by_cases h : n ≤ count
  · rw [if_pos h, if_pos (by omega)]
    rfl
  · rw [if_neg h, if_neg (by omega)]
    rfl

/-- A ledger that has not got as far reads the same numbers, as far as it has got. -/
theorem numberOf?_of_le {count' : Nat} {signature : String} (h : numberOf? count signature = some n)
    (hn : n ≤ count') : numberOf? count' signature = some n := by
  have hread {cs : List Char} {bound : Nat} {r : Except NumeralError Nat}
      (hr : Text.natural 10 bound cs = r) (hsome : r.toOption = some n) :
      (Text.natural 10 (count' + 1) cs).toOption = some n := by
    cases r with
    | error e => cases hsome
    | ok m =>
        cases hsome
        rw [Text.natural_of_lt (by decide) hr (by omega)]
        rfl
  rw [numberOf?] at h ⊢
  split at h
  case isTrue hmark => exact (if_pos hmark).trans (hread rfl h)
  case isFalse => cases h

theorem le_of_numberOf? {signature : String} (h : numberOf? count signature = some n) :
    n ≤ count := by
  rw [numberOf?] at h
  split at h
  case isTrue =>
    cases hr : Text.natural 10 (count + 1) (signature.toList.drop "memory-".toList.length) with
    | error e => rw [hr] at h; cases h
    | ok m =>
        rw [hr] at h
        cases h
        exact Nat.lt_succ_iff.1 (Text.natural_lt (by omega) hr)
  case isFalse => cases h

theorem signatureOf_injective {m n : Nat} (h : signatureOf m = signatureOf n) : m = n := by
  have hread := numberOf?_signatureOf (max m n) m
  rw [h, numberOf?_signatureOf, if_pos (by omega), if_pos (by omega)] at hread
  exact (Option.some.inj hread).symm

/-- A signature is known if its number has been reached. -/
theorem isKnown_signatureOf_iff :
    l.isKnown (signatureOf n) = true ↔ 1 ≤ n ∧ n ≤ l.submitted.length := by
  rw [isKnown, numberOf?_signatureOf]
  by_cases h : n ≤ l.submitted.length
  · simp [h]
  · simp [h]

/-- The ledger confirms a signature, with whatever certainty. -/
def Confirms (l : MemoryLedger) (signature : String) : Prop :=
  ∀ commitment, requests.confirm signature commitment l = (.answered (), l)

theorem confirms_iff {signature : String} : l.Confirms signature ↔ l.isKnown signature = true := by
  have hreply (commitment : Commitment) :
      requests.confirm signature commitment l = (.ofResult (l.confirm signature), l) := rfl
  simp only [Confirms, hreply, confirm]
  by_cases h : l.isKnown signature = true
  · simp [h, Reply.ofResult]
  · simp only [h, Reply.ofResult]
    exact ⟨fun hall => absurd (hall .confirmed) (by simp), fun hknown => absurd hknown (by simp)⟩

theorem confirms_signatureOf_iff :
    l.Confirms (signatureOf n) ↔ 1 ≤ n ∧ n ≤ l.submitted.length :=
  confirms_iff.trans isKnown_signatureOf_iff

end

/-! ### Runs -/

/-- A course of events at a ledger.  The log has the transactions that were accepted, oldest first,
with their signatures. -/
inductive Run : MemoryLedger → List (String × Transaction) → MemoryLedger → Prop
  | done {l : MemoryLedger} : Run l [] l
  | accepted {l l₁ l₂ : MemoryLedger} {tx : Transaction} {signature : String}
      {log : List (String × Transaction)}
      (hsubmit : requests.submit tx l = (.answered signature, l₁)) (rest : Run l₁ log l₂) :
      Run l ((signature, tx) :: log) l₂
  | refused {l l₁ l₂ : MemoryLedger} {tx : Transaction} {e : QueryError}
      {log : List (String × Transaction)}
      (hsubmit : requests.submit tx l = (.failed e, l₁)) (rest : Run l₁ log l₂) : Run l log l₂
  | insertAccount {l l₂ : MemoryLedger} {log : List (String × Transaction)} (a : Address)
      (account : StoredAccount) (rest : Run (l.insertAccount a account) log l₂) : Run l log l₂
  | insertTransaction {l l₂ : MemoryLedger} {log : List (String × Transaction)}
      (tx : PastTransaction) (rest : Run (l.insertTransaction tx) log l₂) : Run l log l₂

theorem requests_submit_eq_answered_iff {l l' : MemoryLedger} {tx : Transaction}
    {signature : String} :
    requests.submit tx l = (.answered signature, l') ↔ l.submit tx = .ok (signature, l') := by
  show replyToSubmit tx l = _ ↔ _
  rw [replyToSubmit]
  cases l.submit tx with
  | error e => simp
  | ok result => simp [Prod.ext_iff]

theorem requests_submit_eq_failed_iff {l l' : MemoryLedger} {tx : Transaction} {e : QueryError} :
    requests.submit tx l = (.failed e, l') ↔ l.submit tx = .error e ∧ l' = l := by
  show replyToSubmit tx l = _ ↔ _
  rw [replyToSubmit]
  cases l.submit tx with
  | error e => simp [eq_comm]
  | ok result => simp

namespace Run

variable {l l' l'' : MemoryLedger} {log log' : List (String × Transaction)}

theorem trans (h : Run l log l') (h' : Run l' log' l'') : Run l (log ++ log') l'' := by
  induction h with
  | done => exact h'
  | accepted hsubmit _ ih => exact .accepted hsubmit (ih h')
  | refused hsubmit _ ih => exact .refused hsubmit (ih h')
  | insertAccount a account _ ih => exact .insertAccount a account (ih h')
  | insertTransaction tx _ ih => exact .insertTransaction tx (ih h')

theorem market_eq (h : Run l log l') : l'.market = l.market := by
  induction h with
  | done => rfl
  | accepted hsubmit _ ih =>
      rw [ih, (extends_of_submit (requests_submit_eq_answered_iff.1 hsubmit)).market]
  | refused hsubmit _ ih => rw [ih, (requests_submit_eq_failed_iff.1 hsubmit).2]
  | insertAccount a account _ ih => rw [ih]; rfl
  | insertTransaction tx _ ih => rw [ih]; rfl

/-- No account goes away. -/
theorem mem_accounts (h : Run l log l') {a : Address} (ha : a ∈ l.accounts) : a ∈ l'.accounts := by
  induction h with
  | done => exact ha
  | accepted hsubmit _ ih =>
      refine ih ?_
      have hext := extends_of_submit (requests_submit_eq_answered_iff.1 hsubmit)
      rw [Std.ExtTreeMap.mem_iff_isSome_getElem?, Option.isSome_iff_exists] at ha ⊢
      obtain ⟨account, hget⟩ := ha
      exact ⟨account, hext.kept a account hget⟩
  | refused hsubmit _ ih =>
      refine ih ?_
      rwa [(requests_submit_eq_failed_iff.1 hsubmit).2]
  | insertAccount b account _ ih =>
      exact ih (Std.ExtTreeMap.mem_insert.2 (.inr ha))
  | insertTransaction tx _ ih => exact ih ha

theorem submitted_eq (h : Run l log l') : l'.submitted = l.submitted ++ log.map (·.2) := by
  induction h with
  | done => rw [List.map_nil, List.append_nil]
  | accepted hsubmit _ ih =>
      have hext := extends_of_submit (requests_submit_eq_answered_iff.1 hsubmit)
      rw [ih, hext.submitted, List.append_assoc, List.map_cons, List.singleton_append]
  | refused hsubmit _ ih => rw [ih, (requests_submit_eq_failed_iff.1 hsubmit).2]
  | insertAccount a account _ ih => rw [ih]; rfl
  | insertTransaction tx _ ih => rw [ih]; rfl

/-- Signatures are numbered without a gap. -/
theorem map_signature (h : Run l log l') :
    log.map (·.1) = (List.range' (l.submitted.length + 1) log.length).map signatureOf := by
  induction h with
  | done => rfl
  | accepted hsubmit _ ih =>
      have hok := requests_submit_eq_answered_iff.1 hsubmit
      rw [List.map_cons, ih, (submit_eq_ok_iff.1 hok).2.1, (extends_of_submit hok).submitted,
        List.length_append, List.length_singleton, List.length_cons, List.range'_succ,
        List.map_cons]
  | refused hsubmit _ ih => rw [ih, (requests_submit_eq_failed_iff.1 hsubmit).2]
  | insertAccount a account _ ih => exact ih
  | insertTransaction tx _ ih => exact ih

/-- **No address receives a record twice**, and none that was taken before receives one. -/
theorem targets (h : Run l log l') :
    (l.targets (log.flatMap (·.2.instructions))).Nodup ∧
      ∀ a ∈ l.targets (log.flatMap (·.2.instructions)), a ∉ l.accounts := by
  induction h with
  | done => exact ⟨.nil, fun a ha => nomatch ha⟩
  | @accepted l l₁ l₂ tx signature log hsubmit rest ih =>
      have hok := requests_submit_eq_answered_iff.1 hsubmit
      have hext := extends_of_submit hok
      obtain ⟨hfree, hnodup⟩ := conflict?_eq_none_iff_targets.1 (submit_eq_ok_iff.1 hok).1
      rw [targets_congr hext.market] at ih
      rw [List.flatMap_cons, targets_append]
      -- what this transaction creates is there from now on, so none of the later ones creates it
      have hlater : ∀ a ∈ l.targets tx.instructions, a ∈ l₁.accounts := by
        intro a ha
        exact ((hext.added a).2 (mem_targets_iff.1 ha)).1
      refine ⟨List.nodup_append.2 ⟨hnodup, ih.1, ?_⟩, ?_⟩
      · rintro a ha b hb rfl
        exact ih.2 a hb (hlater a ha)
      · intro a ha
        rcases List.mem_append.1 ha with ha | ha
        · exact hfree a ha
        · intro hmem
          exact ih.2 a ha ((Run.accepted hsubmit .done).mem_accounts hmem)
  | refused hsubmit _ ih =>
      rw [(requests_submit_eq_failed_iff.1 hsubmit).2] at ih
      exact ih
  | insertAccount b account _ ih =>
      refine ⟨ih.1, fun a ha hmem => ih.2 a ha ?_⟩
      exact Std.ExtTreeMap.mem_insert.2 (.inr hmem)
  | insertTransaction tx _ ih => exact ih

/-- What a run creates was not there before, and is created by one instruction. -/
theorem once (h : Run l log l') {a : Address} {j : Nat}
    (hj : CreatesAt l.market (log.flatMap (·.2.instructions)) j a) :
    a ∉ l.accounts ∧
      ∀ k, CreatesAt l.market (log.flatMap (·.2.instructions)) k a → j = k := by
  obtain ⟨hnodup, hfree⟩ := h.targets
  exact ⟨hfree a (mem_targets_iff.2 ⟨j, hj⟩), fun k hk => nodup_targets_iff.1 hnodup a j k hj hk⟩

theorem nodup_signature (h : Run l log l') : (log.map (·.1)).Nodup := by
  rw [h.map_signature]
  exact List.Nodup.map (fun m n h => signatureOf_injective h) List.nodup_range'

theorem mem_signature_iff (h : Run l log l') {signature : String} :
    signature ∈ log.map (·.1) ↔
      ∃ n, signature = signatureOf n ∧ l.submitted.length < n ∧ n ≤ l'.submitted.length := by
  have hlength : l'.submitted.length = l.submitted.length + log.length := by
    rw [h.submitted_eq, List.length_append, List.length_map]
  rw [h.map_signature, List.mem_map]
  constructor
  · rintro ⟨n, hn, rfl⟩
    rw [List.mem_range'_1] at hn
    exact ⟨n, rfl, by omega, by omega⟩
  · rintro ⟨n, rfl, hlt, hle⟩
    exact ⟨n, List.mem_range'_1.2 ⟨by omega, by omega⟩, rfl⟩

/-- A signature is confirmed once it has been given, and not before. -/
theorem confirms_of_mem (h : Run l log l') {signature : String} (hmem : signature ∈ log.map (·.1)) :
    l'.Confirms signature ∧ ¬ l.Confirms signature := by
  obtain ⟨n, rfl, hlt, hle⟩ := h.mem_signature_iff.1 hmem
  rw [confirms_signatureOf_iff, confirms_signatureOf_iff]
  omega

/-- No signature is confirmed that does not spell the number of one that has been given. -/
theorem mem_of_confirms (h : Run l log l') {signature : String} (hafter : l'.Confirms signature) :
    l.Confirms signature ∨
      ∃ n, numberOf? l'.submitted.length signature = some n ∧ signatureOf n ∈ log.map (·.1) := by
  rw [confirms_iff, isKnown, Option.any_eq_true] at hafter
  obtain ⟨n, hread, hone⟩ := hafter
  rw [decide_eq_true_eq] at hone
  by_cases hold : n ≤ l.submitted.length
  · refine .inl (confirms_iff.2 ?_)
    rw [isKnown, numberOf?_of_le hread hold]
    exact decide_eq_true hone
  · exact .inr ⟨n, hread, h.mem_signature_iff.2 ⟨n, rfl, by omega, le_of_numberOf? hread⟩⟩

end Run

/-! ### All or nothing -/

/-- A transaction is accepted. -/
def Accepts (l : MemoryLedger) (tx : Transaction) : Prop :=
  ∃ signature l', requests.submit tx l = (.answered signature, l')

/-- A transaction is refused because an address is taken, and the ledger is what it was. -/
def Refuses (l : MemoryLedger) (tx : Transaction) (a : Address) : Prop :=
  requests.submit tx l = (.failed (.alreadyInitialized a.text), l)

theorem accepts_iff {l : MemoryLedger} {tx : Transaction} :
    l.Accepts tx ↔ ∃ signature l', l.submit tx = .ok (signature, l') := by
  simp only [Accepts, requests_submit_eq_answered_iff]

theorem submit_of_blocked {l : MemoryLedger} {tx : Transaction} (h : ∃ a, l.Blocked tx a) :
    ∃ a, l.Blocked tx a ∧ l.Refuses tx a := by
  obtain ⟨a, ha⟩ := h
  cases hconflict : l.conflict? tx with
  | none => exact absurd ha (conflict?_eq_none_iff.1 hconflict a)
  | some b =>
      refine ⟨b, blocked_of_conflict? hconflict, requests_submit_eq_failed_iff.2 ⟨?_, rfl⟩⟩
      exact submit_eq_error_iff.2 ⟨b, hconflict, rfl⟩

theorem submit_of_not_blocked {l : MemoryLedger} {tx : Transaction} (h : ¬ ∃ a, l.Blocked tx a) :
    ∃ signature l', requests.submit tx l = (.answered signature, l') ∧ l.Extends tx l' := by
  have hnone := conflict?_eq_none_iff.2 (not_exists.1 h)
  have hok := submit_eq_ok_iff.2 ⟨hnone, rfl, rfl⟩
  exact ⟨_, _, requests_submit_eq_answered_iff.2 hok, extends_of_submit hok⟩

/-- **A submission is carried out as a whole or not at all.**  It is refused exactly if it needs an
address that is taken, and then the ledger is what it was; otherwise it is answered with a
signature and only adds its records.  In the course of a run no two signatures are the same, each
is confirmed at any time after it was given and not before, and so are no others, up to how a number
may be spelt. -/
theorem submit_all_or_nothing :
    (∀ (l : MemoryLedger) (tx : Transaction),
      ((∃ a, l.Blocked tx a) → ∃ a, l.Blocked tx a ∧ l.Refuses tx a) ∧
      ((¬ ∃ a, l.Blocked tx a) →
        ∃ signature l', requests.submit tx l = (.answered signature, l') ∧ l.Extends tx l')) ∧
    ∀ (l l' : MemoryLedger) (log : List (String × Transaction)), Run l log l' →
      (log.map (·.1)).Nodup ∧
      (∀ signature ∈ log.map (·.1), l'.Confirms signature ∧ ¬ l.Confirms signature) ∧
      ∀ signature, l'.Confirms signature → l.Confirms signature ∨
        ∃ n, numberOf? l'.submitted.length signature = some n ∧ signatureOf n ∈ log.map (·.1) :=
  ⟨fun _ _ => ⟨submit_of_blocked, submit_of_not_blocked⟩,
    fun _ _ _ hrun => ⟨hrun.nodup_signature, fun _ => hrun.confirms_of_mem,
      fun _ => hrun.mem_of_confirms⟩⟩

/-- The same creation twice in one transaction is refused; once, it is carried out and confirmed. -/
theorem submit_all_or_nothing_twice :
    let l := MemoryLedger.empty Address.marketplace
    let i : Instruction :=
      { program := Address.marketplace
        accounts := [.signer (.ofNumber 1), .writable (.ofNumber 2)]
        data := Method.initUser.opcode }
    (∃ a, l.Blocked ⟨.ofNumber 1, [i, i]⟩ a ∧ l.Refuses ⟨.ofNumber 1, [i, i]⟩ a) ∧
    ∃ signature l', requests.submit ⟨.ofNumber 1, [i]⟩ l = (.answered signature, l') ∧
      l.Extends ⟨.ofNumber 1, [i]⟩ l' ∧ l'.Confirms signature ∧ ¬ l.Confirms signature := by
  intro l i
  have hcreates : i.Creates l.market (.ofNumber 2) :=
    ⟨by decide +kernel, rfl, .inl (by decide +kernel)⟩
  have htwice : ∃ a, l.Blocked ⟨.ofNumber 1, [i, i]⟩ a :=
    ⟨.ofNumber 2, 1, ⟨i, rfl, hcreates⟩, .inr ⟨0, by decide, i, rfl, hcreates⟩⟩
  have honce : ¬ ∃ a, l.Blocked ⟨.ofNumber 1, [i]⟩ a :=
    not_exists.2 (conflict?_eq_none_iff.1 (by decide +kernel))
  obtain ⟨signature, l', hsubmit, hext⟩ := (submit_all_or_nothing.1 l ⟨.ofNumber 1, [i]⟩).2 honce
  have hrun := submit_all_or_nothing.2 l l' [(signature, _)] (.accepted hsubmit .done)
  exact ⟨(submit_all_or_nothing.1 l _).1 htwice, signature, l', hsubmit, hext,
    hrun.2.1 signature (List.mem_singleton_self _)⟩

end MemoryLedger

end AssetMarket
