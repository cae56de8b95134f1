/-
**What a snapshot keeps.**

A snapshot has the accounts and the past transactions of a ledger, but not its lists of signatures;
those are made anew when the snapshot is read, as if the transactions had come in the order of their
signatures.  So all accounts and all past transactions are there again, and so are the lists as far
as stored transactions go, but what stands first in a list is the greatest signature and not the
newest.  A list is as it was exactly if it happened to be in that order and none of its transactions
has been replaced by one that no longer names the account.

Main definitions:

* `MemoryLedger.reloaded` — the ledger that a snapshot is read back as;
* `MemoryLedger.naming` — the stored transactions that name an account, greatest signature first.

Main results:

* `MemoryLedger.ofSnapshot_snapshot` — a snapshot can be read back;
* `MemoryLedger.signatures_reloaded_eq_iff` — which lists are as they were;
* `MemoryLedger.reload_answers` — **what a ledger answers that was read back**.
-/

import Mathlib.Data.List.Sort
import AssetMarket.Ledger.Snapshot
import AssetMarket.Proofs.Ledger.Index
import AssetMarket.Proofs.Text.Hex

set_option relaxedAutoImplicit false
set_option autoImplicit false

namespace AssetMarket

/-- A map that is filled from its own list of entries is the same map. -/
theorem insertMany_toList {α β : Type} [Ord α] [Std.TransOrd α] [Std.LawfulEqOrd α]
    [DecidableEq α] (m : Std.ExtTreeMap α β) :
    (∅ : Std.ExtTreeMap α β).insertMany m.toList = m := by
  refine Std.ExtTreeMap.ext_getElem? fun k => ?_
  cases h : m[k]? with
  | some v =>
      have hmem : (k, v) ∈ m.toList := Std.ExtTreeMap.mem_toList_iff_getElem?_eq_some.2 h
      exact Std.ExtTreeMap.getElem?_insertMany_list_of_mem Std.ReflOrd.compare_self
        Std.ExtTreeMap.distinct_keys_toList hmem
  | none =>
      have hnot : k ∉ m.toList.map Prod.fst := by
        rw [List.mem_map]
        rintro ⟨⟨k', v⟩, hmem, rfl⟩
        rw [Std.ExtTreeMap.mem_toList_iff_getElem?_eq_some.1 hmem] at h
        cases h
      rw [Std.ExtTreeMap.getElem?_insertMany_list_of_contains_eq_false (by simpa using hnot),
        Std.ExtTreeMap.getElem?_empty]

namespace MemoryLedger

/-! ### Reading a snapshot -/

variable {l : MemoryLedger} {a : Address} {s : String}

/-- The accounts of a snapshot are stored one after the other. -/
theorem foldlM_restoreAccount (entries : List (Address × StoredAccount)) (l : MemoryLedger) :
    (entries.map fun entry => (⟨entry.1, entry.2.owner, entry.2.balance,
        Hex.encode entry.2.data⟩ : SnapshotAccount)).foldlM restoreAccount l
      = .ok { l with accounts := l.accounts.insertMany entries } := by
  induction entries generalizing l with
  | nil => rw [List.map_nil, List.foldlM_nil, Std.ExtTreeMap.insertMany_nil]; rfl
  | cons entry entries ih =>
      have hrestore : restoreAccount l ⟨entry.1, entry.2.owner, entry.2.balance,
          Hex.encode entry.2.data⟩ = .ok (l.insertAccount entry.1 entry.2) := by
        rw [restoreAccount, Hex.decode_encode]
        rfl
      rw [List.map_cons, List.foldlM_cons, hrestore]
      show List.foldlM restoreAccount (l.insertAccount entry.1 entry.2) _ = _
      rw [ih, Std.ExtTreeMap.insertMany_cons]
      rfl

/-- Past transactions are kept under their signatures, and accounts do not change. -/
theorem foldl_insertTransaction (txs : List PastTransaction) (l : MemoryLedger) :
    (txs.foldl insertTransaction l).accounts = l.accounts ∧
      (txs.foldl insertTransaction l).transactions
        = l.transactions.insertMany (txs.map fun tx => (tx.signature, tx)) := by
  induction txs generalizing l with
  | nil => exact ⟨rfl, by simp⟩
  | cons tx txs ih =>
      obtain ⟨haccounts, htransactions⟩ := ih (l.insertTransaction tx)
      rw [List.foldl_cons, List.map_cons, Std.ExtTreeMap.insertMany_cons]
      exact ⟨haccounts, htransactions⟩

/-- The stored transactions, in the order of their signatures. -/
def history (l : MemoryLedger) : List PastTransaction := l.transactions.toList.map (·.2)

/-- The ledger that a snapshot is read back as. -/
def reloaded (l : MemoryLedger) : MemoryLedger :=
  l.history.foldl insertTransaction { market := l.market, accounts := l.accounts }

/-- A snapshot can be read back. -/
theorem ofSnapshot_snapshot (l : MemoryLedger) : ofSnapshot l.market l.snapshot = .ok l.reloaded := by
  have haccounts := foldlM_restoreAccount l.accounts.toList (empty l.market)
  rw [empty, insertMany_toList] at haccounts
  rw [ofSnapshot, snapshot, empty, haccounts]
  rfl

theorem ofSnapshot_of_run {market : Address} {log : List (String × Transaction)}
    (hrun : Run (empty market) log l) : ofSnapshot market l.snapshot = .ok l.reloaded := by
  have hmarket : l.market = market := hrun.market_eq
  rw [← hmarket]
  exact ofSnapshot_snapshot l

theorem mem_history_iff (h : l.Indexed) {tx : PastTransaction} :
    tx ∈ l.history ↔ l.transaction? tx.signature = some tx := by
  rw [history, List.mem_map]
  constructor
  · rintro ⟨⟨s, tx'⟩, hmem, rfl⟩
    have hfound : l.transaction? s = some tx' := Std.ExtTreeMap.mem_toList_iff_getElem?_eq_some.1 hmem
    rw [h.signature_eq s tx' hfound]
    exact hfound
  · intro hfound
    exact ⟨(tx.signature, tx), Std.ExtTreeMap.mem_toList_iff_getElem?_eq_some.2 hfound, rfl⟩

/-- The signatures of the history are the keys it is stored under. -/
theorem map_signature_history (h : l.Indexed) :
    l.history.map (fun tx => (tx.signature, tx)) = l.transactions.toList := by
  rw [history, List.map_map]
  refine (List.map_congr_left ?_).trans (List.map_id _)
  rintro ⟨s, tx⟩ hmem
  have hfound : l.transaction? s = some tx := Std.ExtTreeMap.mem_toList_iff_getElem?_eq_some.1 hmem
  exact Prod.ext (h.signature_eq s tx hfound) rfl

/-- The history is in the order of signatures. -/
theorem pairwise_history (h : l.Indexed) :
    l.history.Pairwise fun tx tx' => tx.signature < tx'.signature := by
  have hkeys : (l.history.map fun tx => (tx.signature, tx)).Pairwise
      fun entry entry' => compare entry.1 entry'.1 = .lt := by
    rw [map_signature_history h]
    exact Std.ExtTreeMap.ordered_keys_toList
  rw [List.pairwise_map] at hkeys
  exact hkeys.imp fun hlt => compareOfLessAndEq_eq_lt.1 hlt

theorem accounts_reloaded (l : MemoryLedger) : l.reloaded.accounts = l.accounts :=
  (foldl_insertTransaction l.history _).1

theorem transactions_reloaded (h : l.Indexed) : l.reloaded.transactions = l.transactions := by
  rw [reloaded, (foldl_insertTransaction l.history _).2, map_signature_history h]
  exact insertMany_toList l.transactions

/-! ### The lists that are made anew -/

/-- The signatures of the stored transactions that name an account, the greatest first. -/
def naming (l : MemoryLedger) (a : Address) : List String :=
  (l.history.filter (·.names a)).reverse.map (·.signature)

theorem signatures_reloaded (h : l.Indexed) : l.reloaded.signatures a = l.naming a := by
  have hnodup : (l.history.map (·.signature)).Nodup := by
    rw [List.Nodup, List.pairwise_map]
    refine (pairwise_history h).imp fun {tx tx'} hlt heq => ?_
    rw [heq] at hlt
    exact String.lt_irrefl _ hlt
  have hempty : signatures { market := l.market, accounts := l.accounts } a = [] :=
    signatures_empty l.market a
  rw [reloaded, signatures_foldl_insertTransaction hnodup, hempty, List.append_nil, naming]
  intro s _
  rw [hempty]
  exact List.not_mem_nil

theorem pairwise_naming (h : l.Indexed) : (l.naming a).Pairwise fun s t => t < s := by
  rw [naming, List.pairwise_map, List.pairwise_reverse]
  exact (pairwise_history h).filter _

theorem mem_naming_iff (h : l.Indexed) :
    s ∈ l.naming a ↔ ∃ tx, l.transaction? s = some tx ∧ tx.names a = true := by
  simp only [naming, List.mem_map, List.mem_reverse, List.mem_filter, mem_history_iff h]
  constructor
  · rintro ⟨tx, ⟨hfound, hnames⟩, rfl⟩
    exact ⟨tx, hfound, hnames⟩
  · rintro ⟨tx, hfound, hnames⟩
    have hs := h.signature_eq s tx hfound
    exact ⟨tx, ⟨hs ▸ hfound, hnames⟩, hs⟩

/-- A list is as it was exactly if it is in the order of signatures and each of its transactions
still names the account. -/
theorem signatures_reloaded_eq_iff (h : l.Indexed) :
    l.reloaded.signatures a = l.signatures a ↔
      (l.signatures a).Pairwise (fun s t => t < s) ∧
        ∀ s ∈ l.signatures a, ∃ tx, l.transaction? s = some tx ∧ tx.names a = true := by
  rw [signatures_reloaded h]
  constructor
  · intro hsame
    rw [← hsame]
    exact ⟨pairwise_naming h, fun s hs => (mem_naming_iff h).1 hs⟩
  · rintro ⟨hordered, hnames⟩
    -- both are in the same order, and what is stored is listed
    refine (pairwise_naming h).eq_of_mem_iff hordered fun s => ?_
    rw [mem_naming_iff h]
    constructor
    · rintro ⟨tx, hfound, htx⟩
      exact h.listed s tx a hfound htx
    · exact hnames s

/-- **What a ledger answers that was read back.**  After every run the snapshot of a ledger can be
read back, and the new ledger answers as the old one did for every account, balance, scan and
transaction.  The signatures of an account are those of the stored transactions that name it, the
greatest first; that is the list the old ledger had exactly if that list was in this order already
and each transaction that it lists still named the account. -/
theorem reload_answers {market : Address} {log : List (String × Transaction)}
    (hrun : Run (empty market) log l) :
    ∃ l', ofSnapshot market l.snapshot = .ok l' ∧
      (∀ a, (requests.account a l').1 = (requests.account a l).1) ∧
      (∀ a, (requests.balance a l').1 = (requests.balance a l).1) ∧
      (∀ owner size window,
        (requests.scan owner size window l').1 = (requests.scan owner size window l).1) ∧
      (∀ s, (requests.transaction s l').1 = (requests.transaction s l).1) ∧
      ∀ a, (requests.signatures a l').1 = .answered (l.naming a) ∧
        (l.naming a).Pairwise (fun s t => t < s) ∧
        (∀ s, s ∈ l.naming a ↔ ∃ tx, l.transaction? s = some tx ∧ tx.names a = true) ∧
        ((requests.signatures a l').1 = (requests.signatures a l).1 ↔
          (l.signatures a).Pairwise (fun s t => t < s) ∧
            ∀ s ∈ l.signatures a, ∃ tx, l.transaction? s = some tx ∧ tx.names a = true) := by
  have h : l.Indexed := indexed_of_run hrun (indexed_empty market)
  have haccounts := accounts_reloaded l
  refine ⟨l.reloaded, ofSnapshot_of_run hrun, ?_, ?_, ?_, ?_, ?_⟩
  · intro a
    simp only [requests, data?, haccounts]
  · intro a
    simp only [requests, balance, haccounts]
  · intro owner size window
    simp only [requests, scan, haccounts]
  · intro s
    simp only [requests, transaction?, transactions_reloaded h]
  · intro a
    have hlist : l.reloaded.signatures a = l.naming a := signatures_reloaded h
    simp only [requests, Reply.answered.injEq]
    exact ⟨hlist, pairwise_naming h, fun s => mem_naming_iff h, signatures_reloaded_eq_iff h⟩

/-- A past transaction of a single instruction, which names one account or none. -/
def sample (signature : String) (accounts : List Address) : PastTransaction :=
  ⟨signature, none, [⟨.ofNumber 7, accounts, []⟩], []⟩

/-- A transaction `b`, then a transaction `a`: `b` is found again, and so is a list of both. -/
theorem reload_answers_two :
    ∃ l l', Run (empty Address.marketplace) [] l ∧
      ofSnapshot Address.marketplace l.snapshot = .ok l' ∧
      (requests.transaction "b" l').1 = .answered (some (sample "b" [.ofNumber 1])) ∧
      (requests.signatures (.ofNumber 1) l').1 = .answered (l.naming (.ofNumber 1)) := by
  have hrun : Run (empty Address.marketplace) [] _ :=
    .insertTransaction (sample "b" [.ofNumber 1])
      (.insertTransaction (sample "a" [.ofNumber 1]) .done)
  obtain ⟨l', hreload, -, -, -, htransaction, hsignatures⟩ := reload_answers hrun
  refine ⟨_, l', hrun, hreload, ?_, (hsignatures _).1⟩
  rw [htransaction]
  exact congrArg Reply.answered (by decide +kernel)

/-- The newest transaction comes to stand behind an older one, and one whose successor no longer
names the account is not listed at all. -/
theorem reload_reorders :
    ∃ l l', Run (empty Address.marketplace) [] l ∧
      ofSnapshot Address.marketplace l.snapshot = .ok l' ∧
      l.signatures (.ofNumber 1) = ["c", "a", "b"] ∧ l'.signatures (.ofNumber 1) = ["b", "a"] := by
  have hrun : Run (empty Address.marketplace) [] _ :=
    .insertTransaction (sample "b" [.ofNumber 1])
      (.insertTransaction (sample "a" [.ofNumber 1])
        (.insertTransaction (sample "c" [.ofNumber 1])
          (.insertTransaction (sample "c" []) .done)))
  refine ⟨_, _, hrun, ofSnapshot_of_run hrun, ?_, ?_⟩
  · decide +kernel
  · decide +kernel

end MemoryLedger

end AssetMarket
