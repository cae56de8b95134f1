/-
**The index of past transactions.**

A ledger finds its past transactions in two ways: by signature, and for each account in a list of
the signatures that name it.  The two are kept up together, one transaction at a time, and a
signature may be used again: the later transaction takes the place of the earlier one, and lists
that have the signature already stay as they are.  What the two have to do with each other at any
time is the structure `MemoryLedger.Indexed`, which one more transaction keeps, and so every run.

Main definitions:

* `MemoryLedger.SamePast` — two ledgers have the same transactions and lists;
* `MemoryLedger.Indexed` — what is listed is stored, and what is stored is listed;
* `MemoryLedger.listed` — the transactions that the list of an account leads to.

Main results:

* `MemoryLedger.signatures_insertTransaction` — what one more transaction does to a list;
* `MemoryLedger.signatures_foldl_insertTransaction` — what many do whose signatures are new;
* `MemoryLedger.Indexed.count_listed` — a list leads once to each transaction that names its
  account;
* `MemoryLedger.indexed_of_run` — **stored transactions and lists go together after every run**.
-/

import AssetMarket.Proofs.Ledger.Run

set_option relaxedAutoImplicit false
set_option autoImplicit false

namespace AssetMarket

theorem PastTransaction.mem_accounts_iff {tx : PastTransaction} {a : Address} :
    a ∈ tx.accounts ↔ tx.names a = true := by
  simp [accounts, names]

namespace MemoryLedger

/-! ### Lists of signatures -/

section

variable {signature s : String} {signatures : List String}

theorem mem_addSignature :
    s ∈ addSignature signature signatures ↔ s = signature ∨ s ∈ signatures := by
  rw [addSignature]
  by_cases h : signature ∈ signatures
  · rw [if_pos h]
    constructor
    · exact .inr
    · rintro (rfl | hs)
      · exact h
      · exact hs
  · rw [if_neg h, List.mem_cons]

theorem nodup_addSignature (h : signatures.Nodup) : (addSignature signature signatures).Nodup := by
  rw [addSignature]
  by_cases hmem : signature ∈ signatures
  · rwa [if_pos hmem]
  · rw [if_neg hmem]
    exact h.cons hmem

/-- A signature that is added twice is added once. -/
theorem addSignature_idem :
    addSignature signature (addSignature signature signatures)
      = addSignature signature signatures := by
  have hmem : signature ∈ addSignature signature signatures := mem_addSignature.2 (.inl rfl)
  rw [addSignature, if_pos hmem]

/-- An account may be named again and again, its list changes once. -/
theorem getElem?_foldl_indexUnder {index : Std.ExtTreeMap Address (List String)}
    (as : List Address) (a : Address) :
    (as.foldl (indexUnder signature) index)[a]?.getD []
      = if a ∈ as then addSignature signature (index[a]?.getD []) else index[a]?.getD [] := by
  induction as generalizing index with
  | nil => rfl
  | cons b as ih =>
      rw [List.foldl_cons, ih, indexUnder, Std.ExtTreeMap.getElem?_insert]
      by_cases hba : b = a
      · subst hba
        simp [addSignature_idem]
      · have hne : ¬ compare b a = .eq := fun heq => hba (Std.LawfulEqOrd.eq_of_compare heq)
        simp [hne, Ne.symm hba]

end

/-! ### One more transaction -/

variable {l l' : MemoryLedger} {tx : PastTransaction} {a : Address} {s : String}

/-- What one more transaction does to a list. -/
theorem signatures_insertTransaction :
    (l.insertTransaction tx).signatures a
      = if tx.names a then addSignature tx.signature (l.signatures a) else l.signatures a := by
  rw [signatures, insertTransaction, getElem?_foldl_indexUnder]
  simp only [PastTransaction.mem_accounts_iff, signatures]

theorem transaction?_insertTransaction :
    (l.insertTransaction tx).transaction? s
      = if tx.signature = s then some tx else l.transaction? s := by
  rw [transaction?, insertTransaction, Std.ExtTreeMap.getElem?_insert]
  simp only [Std.LawfulEqOrd.compare_eq_iff_eq, transaction?]

theorem mem_signatures_insertTransaction :
    s ∈ (l.insertTransaction tx).signatures a ↔
      (tx.names a = true ∧ s = tx.signature) ∨ s ∈ l.signatures a := by
  rw [signatures_insertTransaction]
  by_cases h : tx.names a = true
  · simp [h, mem_addSignature]
  · simp [h]

/-- Transactions with signatures of their own come to stand at the front of the lists of those that
they name, the last one first. -/
theorem signatures_foldl_insertTransaction {txs : List PastTransaction}
    (hnodup : (txs.map (·.signature)).Nodup)
    (hnew : ∀ s ∈ txs.map (·.signature), s ∉ l.signatures a) :
    (txs.foldl insertTransaction l).signatures a
      = ((txs.filter (·.names a)).reverse.map (·.signature)) ++ l.signatures a := by
  induction txs generalizing l with
  | nil => rfl
  | cons tx txs ih =>
      rw [List.map_cons, List.nodup_cons] at hnodup
      rw [List.map_cons, List.forall_mem_cons] at hnew
      have hrest : ∀ s ∈ txs.map (·.signature), s ∉ (l.insertTransaction tx).signatures a := by
        intro s hs hmem
        rcases mem_signatures_insertTransaction.1 hmem with ⟨-, rfl⟩ | hold
        · exact hnodup.1 hs
        · exact hnew.2 s hs hold
      rw [List.foldl_cons, ih hnodup.2 hrest, signatures_insertTransaction]
      by_cases h : tx.names a = true
      · simp [h, addSignature, hnew.1]
      · simp [h]

/-! ### What has no influence -/

/-- Two ledgers have the same past transactions and the same lists.  Their accounts and what was
submitted to them may differ. -/
structure SamePast (l l' : MemoryLedger) : Prop where
  transactions : l'.transactions = l.transactions
  index : l'.index = l.index

namespace SamePast

theorem trans {l'' : MemoryLedger} (h : SamePast l l') (h' : SamePast l' l'') : SamePast l l'' :=
  ⟨h'.transactions.trans h.transactions, h'.index.trans h.index⟩

theorem transaction?_eq (h : SamePast l l') : l'.transaction? = l.transaction? := by
  funext s
  rw [transaction?, transaction?, h.transactions]

theorem signatures_eq (h : SamePast l l') : l'.signatures = l.signatures := by
  funext a
  rw [signatures, signatures, h.index]

end SamePast

/-- A submission stores no past transaction and changes no list. -/
theorem samePast_of_submit {tx : Transaction} {reply : Reply String}
    (h : requests.submit tx l = (reply, l')) : SamePast l l' := by
  cases reply with
  | answered signature =>
      have hext := extends_of_submit (requests_submit_eq_answered_iff.1 h)
      exact ⟨hext.transactions, hext.index⟩
  | failed e =>
      rw [(requests_submit_eq_failed_iff.1 h).2]
      exact ⟨rfl, rfl⟩
  | silent =>
      -- a ledger in memory always replies
      have hreply : (replyToSubmit tx l).1 = .silent := congrArg Prod.fst h
      rw [replyToSubmit] at hreply
      split at hreply
      · cases hreply
      · cases hreply

/-! ### Lists and stored transactions -/

/-- The lists of signatures and the stored transactions go together. -/
structure Indexed (l : MemoryLedger) : Prop where
  /-- A transaction is found by its own signature. -/
  signature_eq : ∀ s tx, l.transaction? s = some tx → tx.signature = s
  /-- What is listed is stored, though it may have been replaced since. -/
  stored : ∀ a, ∀ s ∈ l.signatures a, ∃ tx, l.transaction? s = some tx
  /-- What is stored is listed under all that it names. -/
  listed : ∀ s tx a, l.transaction? s = some tx → tx.names a = true → s ∈ l.signatures a
  nodup : ∀ a, (l.signatures a).Nodup

theorem transaction?_empty (market : Address) (s : String) :
    (empty market).transaction? s = none := Std.ExtTreeMap.getElem?_empty

theorem signatures_empty (market a : Address) : (empty market).signatures a = [] := by
  rw [signatures, empty, Std.ExtTreeMap.getElem?_empty]
  rfl

theorem indexed_empty (market : Address) : (empty market).Indexed := by
  have hnone (s : String) (tx : PastTransaction) : (empty market).transaction? s ≠ some tx := by
    rw [transaction?_empty]
    nofun
  have hnil (a : Address) (s : String) : s ∉ (empty market).signatures a := by
    rw [signatures_empty]
    exact List.not_mem_nil
  exact {
    signature_eq := fun s tx h => absurd h (hnone s tx)
    stored := fun a s h => absurd h (hnil a s)
    listed := fun s tx a h => absurd h (hnone s tx)
    nodup := fun a => signatures_empty market a ▸ .nil }

namespace Indexed

theorem of_samePast (h : l.Indexed) (hsame : SamePast l l') : l'.Indexed where
  signature_eq := hsame.transaction?_eq ▸ h.signature_eq
  stored := hsame.transaction?_eq ▸ hsame.signatures_eq ▸ h.stored
  listed := hsame.transaction?_eq ▸ hsame.signatures_eq ▸ h.listed
  nodup := hsame.signatures_eq ▸ h.nodup

theorem insertTransaction (h : l.Indexed) (tx : PastTransaction) :
    (l.insertTransaction tx).Indexed where
  signature_eq := by
    intro s tx' hfound
    rw [transaction?_insertTransaction] at hfound
    by_cases hs : tx.signature = s
    · rw [if_pos hs] at hfound
      cases hfound
      exact hs
    · rw [if_neg hs] at hfound
      exact h.signature_eq s tx' hfound
  stored := by
    intro a s hmem
    rw [transaction?_insertTransaction]
    by_cases hs : tx.signature = s
    · exact ⟨tx, if_pos hs⟩
    · rw [if_neg hs]
      rcases mem_signatures_insertTransaction.1 hmem with ⟨-, rfl⟩ | hold
      · exact absurd rfl hs
      · exact h.stored a s hold
  listed := by
    intro s tx' a hfound hnames
    rw [transaction?_insertTransaction] at hfound
    by_cases hs : tx.signature = s
    · rw [if_pos hs] at hfound
      cases hfound
      exact mem_signatures_insertTransaction.2 (.inl ⟨hnames, hs.symm⟩)
    · rw [if_neg hs] at hfound
      exact mem_signatures_insertTransaction.2 (.inr (h.listed s tx' a hfound hnames))
  nodup := by
    intro a
    rw [signatures_insertTransaction]
    split
    · exact nodup_addSignature (h.nodup a)
    · exact h.nodup a

end Indexed

/-! ### Following a list -/

/-- The transactions that the list of an account leads to, in the order of the list. -/
def listed (l : MemoryLedger) (a : Address) : List PastTransaction :=
  (l.signatures a).filterMap l.transaction?

namespace Indexed

theorem map_signature_listed (h : l.Indexed) (a : Address) :
    (l.listed a).map (·.signature) = l.signatures a := by
  have hentry (s : String) (hs : s ∈ l.signatures a) :
      (l.transaction? s).map (·.signature) = some s := by
    obtain ⟨tx, hfound⟩ := h.stored a s hs
    rw [hfound, Option.map_some, h.signature_eq s tx hfound]
  calc (l.listed a).map (·.signature)
      = (l.signatures a).filterMap fun s => (l.transaction? s).map (·.signature) :=
        List.map_filterMap
    _ = (l.signatures a).filterMap some := List.filterMap_congr hentry
    _ = l.signatures a := List.filterMap_some

theorem mem_listed_iff (h : l.Indexed) :
    tx ∈ l.listed a ↔ tx.signature ∈ l.signatures a ∧ l.transaction? tx.signature = some tx := by
  rw [MemoryLedger.listed, List.mem_filterMap]
  constructor
  · rintro ⟨s, hs, hfound⟩
    rw [h.signature_eq s tx hfound]
    exact ⟨hs, hfound⟩
  · rintro ⟨hs, hfound⟩
    exact ⟨tx.signature, hs, hfound⟩

/-- A list leads once to each stored transaction that names its account. -/
theorem count_listed (h : l.Indexed) (hfound : l.transaction? s = some tx)
    (hnames : tx.names a = true) : (l.listed a).count tx = 1 := by
  have hnodup : (l.listed a).Nodup :=
    .of_map (·.signature) (h.map_signature_listed a ▸ h.nodup a)
  refine List.count_eq_one_of_mem hnodup (h.mem_listed_iff.2 ?_)
  rw [h.signature_eq s tx hfound]
  exact ⟨h.listed s tx a hfound hnames, hfound⟩

end Indexed

/-! ### Runs -/

/-- **Stored transactions and lists go together after every run.** -/
theorem indexed_of_run {log : List (String × Transaction)} (hrun : Run l log l')
    (h : l.Indexed) : l'.Indexed := by
  induction hrun with
  | done => exact h
  | accepted hsubmit _ ih | refused hsubmit _ ih =>
      exact ih (h.of_samePast (samePast_of_submit hsubmit))
  | insertAccount a account _ ih => exact ih (h.of_samePast ⟨rfl, rfl⟩)
  | insertTransaction tx _ ih => exact ih (h.insertTransaction tx)

end MemoryLedger

end AssetMarket
