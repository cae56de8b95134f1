/-
**What a ledger remembers of the transactions that were put into it.**

A ledger in memory starts as a snapshot and is then used: past transactions and accounts are put into
it, and transactions are submitted.  Of the first nothing is forgotten that matters here.  Whatever
is put in, under a signature the last transaction is found that had it, and the list of an account
has the signatures of all transactions that named it, each where it came in for the first time.

Main definitions:

* `latest?` — the last transaction with a signature;
* `firstNaming` — the position at which a signature first came with an account;
* `MemoryLedger.Received` — a ledger with all transactions that were put into it, oldest first;
* `MemoryLedger.Follows` — lists and stored transactions are those of a history.

Main results:

* `latest?_eq_some_iff` — what comes behind the last transaction has other signatures;
* `MemoryLedger.Follows.insertTransaction` — one more transaction makes one more step of a history;
* `MemoryLedger.Follows.indexed` — lists and stored transactions of a history go together;
* `MemoryLedger.follows_of_received` — **a ledger follows the history of its transactions**.
-/

import AssetMarket.Ledger.Snapshot
import AssetMarket.Proofs.Ledger.Index

set_option relaxedAutoImplicit false
set_option autoImplicit false

namespace AssetMarket

/-! ### Histories -/

/-- The last of some transactions that has a signature. -/
def latest? (txs : List PastTransaction) (s : String) : Option PastTransaction :=
  txs.reverse.find? (·.signature == s)

/-- The position of the first transaction that has a signature and names an account; if there is
none, the position behind all. -/
def firstNaming (txs : List PastTransaction) (a : Address) (s : String) : Nat :=
  txs.findIdx fun tx => tx.signature == s && tx.names a

section

variable {txs : List PastTransaction} {tx : PastTransaction} {a : Address} {s : String}

theorem latest?_append_singleton :
    latest? (txs ++ [tx]) s = if tx.signature = s then some tx else latest? txs s := by
  rw [latest?, List.reverse_append, List.reverse_singleton, List.singleton_append]
  by_cases h : tx.signature = s
  · rw [List.find?_cons_of_pos (by simpa using h), if_pos h]
  · rw [List.find?_cons_of_neg (by simpa using h), if_neg h, latest?]

/-- What comes behind the last transaction of a signature has other signatures. -/
theorem latest?_eq_some_iff :
    latest? txs s = some tx ↔
      ∃ before after, txs = before ++ tx :: after ∧ tx.signature = s ∧
        ∀ later ∈ after, later.signature ≠ s := by
  rw [latest?, List.find?_eq_some_iff_append]
  constructor
  · rintro ⟨hs, after, before, hlist, hafter⟩
    refine ⟨before.reverse, after.reverse, ?_, by simpa using hs, ?_⟩
    · rw [← List.reverse_reverse txs, hlist, List.reverse_append, List.reverse_cons,
        List.append_assoc, List.singleton_append]
    · intro later hlater
      simpa using hafter later (List.mem_reverse.1 hlater)
  · rintro ⟨before, after, rfl, hs, hafter⟩
    refine ⟨by simpa using hs, after.reverse, before.reverse, ?_, ?_⟩
    · rw [List.reverse_append, List.reverse_cons, List.append_assoc, List.singleton_append]
    · intro later hlater
      simpa using hafter later (List.mem_reverse.1 hlater)

theorem exists_latest? (h : ∃ tx ∈ txs, tx.signature = s) : ∃ tx, latest? txs s = some tx := by
  obtain ⟨tx, htx, hs⟩ := h
  rw [latest?, ← Option.isSome_iff_exists, List.find?_isSome]
  exact ⟨tx, List.mem_reverse.2 htx, by simpa using hs⟩

theorem firstNaming_lt_length_iff :
    firstNaming txs a s < txs.length ↔ ∃ tx ∈ txs, tx.signature = s ∧ tx.names a = true := by
  simp [firstNaming, List.findIdx_lt_length]

/-- What has come in has come in, whatever follows. -/
theorem firstNaming_append (h : firstNaming txs a s < txs.length) (txs' : List PastTransaction) :
    firstNaming (txs ++ txs') a s = firstNaming txs a s := by
  unfold firstNaming at h ⊢
  rw [List.findIdx_append, if_pos h]

/-- What comes in now comes behind all that has come in before. -/
theorem length_le_firstNaming_append (h : ¬ firstNaming txs a s < txs.length)
    (txs' : List PastTransaction) : txs.length ≤ firstNaming (txs ++ txs') a s := by
  unfold firstNaming at h ⊢
  rw [List.findIdx_append, if_neg h]
  exact Nat.le_add_left _ _

end

namespace MemoryLedger

variable {l l' : MemoryLedger} {tx : PastTransaction} {txs : List PastTransaction} {a : Address}
  {s : String}

/-! ### One more transaction -/

/-- The lists and the stored transactions of a ledger are those of a history. -/
structure Follows (l : MemoryLedger) (txs : List PastTransaction) : Prop where
  transaction?_eq : ∀ s, l.transaction? s = latest? txs s
  mem_signatures_iff : ∀ a s,
    s ∈ l.signatures a ↔ ∃ tx ∈ txs, tx.signature = s ∧ tx.names a = true
  /-- The newest comes first. -/
  pairwise : ∀ a, (l.signatures a).Pairwise fun s t => firstNaming txs a t < firstNaming txs a s

namespace Follows

/-- In a history lists and stored transactions go together. -/
theorem indexed (h : l.Follows txs) : l.Indexed where
  signature_eq := by
    intro s tx hfound
    rw [h.transaction?_eq] at hfound
    obtain ⟨_, _, -, hsignature, -⟩ := latest?_eq_some_iff.1 hfound
    exact hsignature
  stored := by
    intro a s hs
    obtain ⟨tx, htx, hsignature, -⟩ := (h.mem_signatures_iff a s).1 hs
    rw [h.transaction?_eq]
    exact exists_latest? ⟨tx, htx, hsignature⟩
  listed := by
    intro s tx a hfound hnames
    rw [h.transaction?_eq] at hfound
    obtain ⟨before, after, rfl, hsignature, -⟩ := latest?_eq_some_iff.1 hfound
    exact (h.mem_signatures_iff a s).2
      ⟨tx, List.mem_append_right before List.mem_cons_self, hsignature, hnames⟩
  nodup := by
    intro a
    refine (h.pairwise a).imp ?_
    rintro s _ hlt rfl
    exact Nat.lt_irrefl _ hlt

theorem of_samePast (h : l.Follows txs) (hsame : SamePast l l') : l'.Follows txs where
  transaction?_eq := hsame.transaction?_eq ▸ h.transaction?_eq
  mem_signatures_iff := hsame.signatures_eq ▸ h.mem_signatures_iff
  pairwise := hsame.signatures_eq ▸ h.pairwise

/-- The order of a list is that of the longer history too. -/
theorem pairwise_append (h : l.Follows txs) (a : Address) (txs' : List PastTransaction) :
    (l.signatures a).Pairwise fun s t =>
      firstNaming (txs ++ txs') a t < firstNaming (txs ++ txs') a s := by
  refine (h.pairwise a).imp_of_mem fun {s t} hs ht hlt => ?_
  have hbefore := firstNaming_lt_length_iff.2 ((h.mem_signatures_iff a s).1 hs)
  have hbefore' := firstNaming_lt_length_iff.2 ((h.mem_signatures_iff a t).1 ht)
  rw [firstNaming_append hbefore, firstNaming_append hbefore']
  exact hlt

/-- One more transaction makes one more step of a history. -/
theorem insertTransaction (h : l.Follows txs) (tx : PastTransaction) :
    (l.insertTransaction tx).Follows (txs ++ [tx]) where
  transaction?_eq := by
    intro s
    rw [transaction?_insertTransaction, latest?_append_singleton, h.transaction?_eq]
  mem_signatures_iff := by
    intro a s
    simp only [mem_signatures_insertTransaction, h.mem_signatures_iff, List.mem_append,
      List.mem_singleton]
    constructor
    · rintro (⟨hnames, rfl⟩ | ⟨old, hold, hs, hnames⟩)
      · exact ⟨tx, .inr rfl, rfl, hnames⟩
      · exact ⟨old, .inl hold, hs, hnames⟩
    · rintro ⟨old, hold | rfl, hs, hnames⟩
      · exact .inr ⟨old, hold, hs, hnames⟩
      · exact .inl ⟨hnames, hs.symm⟩
  pairwise := by
    intro a
    rw [signatures_insertTransaction]
    split
    · rw [addSignature]
      split
      · exact h.pairwise_append a [tx]
      next hnew =>
        refine (h.pairwise_append a [tx]).cons fun t ht => ?_
        have hbefore := firstNaming_lt_length_iff.2 ((h.mem_signatures_iff a t).1 ht)
        rw [h.mem_signatures_iff, ← firstNaming_lt_length_iff] at hnew
        -- what was listed stands in the old history, and the new signature behind it
        calc firstNaming (txs ++ [tx]) a t
            = firstNaming txs a t := firstNaming_append hbefore [tx]
          _ < txs.length := hbefore
          _ ≤ firstNaming (txs ++ [tx]) a tx.signature := length_le_firstNaming_append hnew [tx]
    · exact h.pairwise_append a [tx]

theorem foldl_insertTransaction (h : l.Follows txs) (txs' : List PastTransaction) :
    (txs'.foldl MemoryLedger.insertTransaction l).Follows (txs ++ txs') := by
  induction txs' generalizing l txs with
  | nil => simpa using h
  | cons tx txs' ih =>
      rw [List.foldl_cons, ← List.singleton_append, ← List.append_assoc]
      exact ih (h.insertTransaction tx)

end Follows

theorem follows_empty (market : Address) : (empty market).Follows [] where
  transaction?_eq := transaction?_empty market
  mem_signatures_iff := by simp [signatures_empty]
  pairwise := fun a => signatures_empty market a ▸ .nil

/-! ### Snapshots -/

theorem samePast_of_restoreAccount {entry : SnapshotAccount}
    (h : restoreAccount l entry = .ok l') : SamePast l l' := by
  rw [restoreAccount] at h
  cases hdata : (Hex.decode entry.data).mapError fun e =>
      MarketError.invalidArgument "snapshot account data" e.message with
  | error e =>
      rw [hdata] at h
      cases h
  | ok data =>
      rw [hdata] at h
      cases h
      exact ⟨rfl, rfl⟩

theorem samePast_of_foldlM_restoreAccount {entries : List SnapshotAccount}
    (h : entries.foldlM restoreAccount l = .ok l') : SamePast l l' := by
  induction entries generalizing l with
  | nil =>
      cases h
      exact ⟨rfl, rfl⟩
  | cons entry entries ih =>
      rw [List.foldlM_cons] at h
      cases hentry : restoreAccount l entry with
      | error e =>
          rw [hentry] at h
          cases h
      | ok l₁ =>
          rw [hentry] at h
          exact (samePast_of_restoreAccount hentry).trans (ih h)

/-- A ledger that was read from a snapshot follows the transactions of the snapshot. -/
theorem follows_of_ofSnapshot {market : Address} {snapshot : Snapshot}
    (h : ofSnapshot market snapshot = .ok l) : l.Follows snapshot.transactions := by
  rw [ofSnapshot] at h
  cases hrestored : snapshot.accounts.foldlM restoreAccount (empty market) with
  | error e =>
      rw [hrestored] at h
      cases h
  | ok l₀ =>
      rw [hrestored] at h
      cases h
      have hsame := samePast_of_foldlM_restoreAccount hrestored
      exact ((follows_empty market).of_samePast hsame).foldl_insertTransaction snapshot.transactions

/-! ### Runs -/

/-- A ledger that was read from a snapshot and used since, with all past transactions that were put
into it, oldest first. -/
inductive Received (market : Address) : List PastTransaction → MemoryLedger → Prop
  | ofSnapshot {snapshot : Snapshot} {l : MemoryLedger}
      (h : MemoryLedger.ofSnapshot market snapshot = .ok l) :
      Received market snapshot.transactions l
  | insertTransaction {txs : List PastTransaction} {l : MemoryLedger} (h : Received market txs l)
      (tx : PastTransaction) : Received market (txs ++ [tx]) (l.insertTransaction tx)
  | insertAccount {txs : List PastTransaction} {l : MemoryLedger} (h : Received market txs l)
      (a : Address) (account : StoredAccount) : Received market txs (l.insertAccount a account)
  /-- A transaction was submitted, and accepted or not. -/
  | submit {txs : List PastTransaction} {l l' : MemoryLedger} (h : Received market txs l)
      {tx : Transaction} {reply : Reply String} (hsubmit : requests.submit tx l = (reply, l')) :
      Received market txs l'

/-- **A ledger follows the history of its transactions.** -/
theorem follows_of_received {market : Address} (h : Received market txs l) : l.Follows txs := by
  induction h with
  | ofSnapshot h => exact follows_of_ofSnapshot h
  | insertTransaction _ tx ih => exact ih.insertTransaction tx
  | insertAccount _ a account ih => exact ih.of_samePast ⟨rfl, rfl⟩
  | submit _ hsubmit ih => exact ih.of_samePast (samePast_of_submit hsubmit)

end MemoryLedger

end AssetMarket
