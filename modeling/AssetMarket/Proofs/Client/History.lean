/-
**What a client finds out about an account.**

To tell the events of an account, a client asks for the list of its signatures and then, one after
the other, for the transaction of each.  At a ledger in memory every entry of the list leads to a
transaction, and so the client comes once by every transaction that names the account.

A ledger may take note of what it is asked, and so the course of the requests is told with a state
that depends on what was asked before.

Main definitions:

* `Client.noted` — a ledger without faults that has taken note of some requests.

Main results:

* `Client.ends_eventsOfSignatures` — the transactions of a list are asked for in its order;
* `Client.ends_events_scripted` — a client asks for the list and for each entry once;
* `Client.events_of_received` — **the events of an account are those of its transactions**.
-/

import AssetMarket.Client.History
import AssetMarket.Ledger.Scripted
import AssetMarket.Proofs.Client.Scan
import AssetMarket.Proofs.Ledger.History

set_option relaxedAutoImplicit false
set_option autoImplicit false

namespace AssetMarket

namespace Client

/-! ### One transaction after the other -/

section

variable {σ : Type} {requests : Ledger σ} {s s' : σ} {signature : String}

theorem ends_eventsOfSignature (ctx : Context) {found : Option PastTransaction}
    (h : requests.transaction signature s = (.answered found, s')) :
    Ends (eventsOfSignature requests ctx signature) s
      (.ok (found.toList.flatMap (·.events ctx.market))) s' := by
  refine (ends_request h).bind ?_
  cases found with
  | none => exact ends_pure [] s'
  | some tx =>
      rw [Option.toList_some, List.flatMap_singleton]
      exact (ends_forM_warn (tx.remarks ctx.market ctx.verbose) s').bind
        (ends_pure (tx.events ctx.market) s')

/-- The transactions of a list are asked for in its order.  The state of the ledger may depend on
what has been asked before. -/
theorem ends_eventsOfSignatures (ctx : Context) {find : String → Option PastTransaction}
    {state : List String → σ}
    (h : ∀ asked signature, requests.transaction signature (state asked)
      = (.answered (find signature), state (asked ++ [signature])))
    (signatures asked : List String) :
    Ends (eventsOfSignatures requests ctx signatures) (state asked)
      (.ok ((signatures.filterMap find).flatMap (·.events ctx.market)))
      (state (asked ++ signatures)) := by
  induction signatures generalizing asked with
  | nil =>
      rw [List.append_nil]
      exact ends_pure [] (state asked)
  | cons signature rest ih =>
      have hfirst := ends_eventsOfSignature ctx (h asked signature)
      have hrest := ih (asked ++ [signature])
      rw [List.append_assoc, List.singleton_append] at hrest
      have hevents : (find signature).toList.flatMap (·.events ctx.market)
          ++ (rest.filterMap find).flatMap (·.events ctx.market)
          = ((signature :: rest).filterMap find).flatMap (·.events ctx.market) := by
        rw [← List.flatMap_append]
        cases hfound : find signature with
        | none => rw [List.filterMap_cons_none hfound, Option.toList_none, List.nil_append]
        | some tx =>
            rw [List.filterMap_cons_some hfound, Option.toList_some, List.singleton_append]
      rw [← hevents]
      exact hfirst.bind (hrest.bind (ends_pure _ _))

theorem ends_events (ctx : Context) {a : Address} (find : String → Option PastTransaction)
    (state : List String → σ) {signatures : List String}
    (hsignatures : requests.signatures a s = (.answered signatures, state []))
    (h : ∀ asked signature, requests.transaction signature (state asked)
      = (.answered (find signature), state (asked ++ [signature]))) :
    Ends (events requests ctx a) s
      (.ok ((signatures.filterMap find).flatMap (·.events ctx.market))) (state signatures) :=
  (ends_await "signatures_for_address" hsignatures).bind
    (ends_eventsOfSignatures ctx h signatures [])

end

/-! ### At a ledger in memory -/

/-- At a ledger in memory the events are those of the transactions that are listed. -/
theorem ends_events_memory (ctx : Context) (a : Address) (l : MemoryLedger) :
    Ends (events MemoryLedger.requests ctx a) l
      (.ok ((l.listed a).flatMap (·.events ctx.market))) l :=
  ends_events ctx l.transaction? (fun _ => l) rfl fun _ _ => rfl

/-- A ledger without faults that has taken note of some requests. -/
def noted (l : MemoryLedger) (calls : List String) : ScriptedLedger := ⟨l, calls, []⟩

/-- A client asks for the list and then once for each entry, in the order of the list. -/
theorem ends_events_scripted (ctx : Context) (a : Address) (l : MemoryLedger)
    (calls : List String) :
    Ends (events ScriptedLedger.requests ctx a) (noted l calls)
      (.ok ((l.listed a).flatMap (·.events ctx.market)))
      (noted l (calls ++ [RequestKind.signatures.name ++ " " ++ a.text]
        ++ (l.signatures a).map (RequestKind.transaction.name ++ " " ++ ·))) := by
  refine ends_events ctx l.transaction?
    (fun asked => noted l (calls ++ [RequestKind.signatures.name ++ " " ++ a.text]
      ++ asked.map (RequestKind.transaction.name ++ " " ++ ·))) ?_ ?_
  · rw [List.map_nil, List.append_nil]
    rfl
  · intro asked signature
    rw [List.map_append, ← List.append_assoc]
    rfl

/-! ### All of it -/

/-- **The events of an account are those of its transactions.**  At every ledger that was read from
a snapshot and used since, the list of an account has each signature once.  Each entry leads to the
last transaction that was put in under it, every stored transaction that names the account is
listed, and a signature is listed exactly if it ever came with a transaction that named the account.
What came first in this way stands last.  A client that wants the events of the account asks for the
list and then once for each of its entries, in order; so it comes once by each stored transaction
that names the account, and has the events of the transactions that it came by, one after the
other. -/
theorem events_of_received {market : Address} {txs : List PastTransaction} {l : MemoryLedger}
    (hreceived : MemoryLedger.Received market txs l) (a : Address) :
    (l.signatures a).Nodup ∧
    (∀ s ∈ l.signatures a, ∃ before tx after, txs = before ++ tx :: after ∧ tx.signature = s ∧
      (∀ later ∈ after, later.signature ≠ s) ∧ l.transaction? s = some tx) ∧
    (∀ s tx, l.transaction? s = some tx → tx.names a = true → s ∈ l.signatures a) ∧
    (∀ s, s ∈ l.signatures a ↔ ∃ tx ∈ txs, tx.signature = s ∧ tx.names a = true) ∧
    (l.signatures a).Pairwise (fun s t => firstNaming txs a t < firstNaming txs a s) ∧
    ∃ visited : List PastTransaction,
      visited.map (·.signature) = l.signatures a ∧
      (∀ tx ∈ visited, l.transaction? tx.signature = some tx) ∧
      (∀ s tx, l.transaction? s = some tx → tx.names a = true → visited.count tx = 1) ∧
      ∀ ctx : Context,
        Ends (events MemoryLedger.requests ctx a) l
          (.ok (visited.flatMap (·.events ctx.market))) l ∧
        ∀ calls, Ends (events ScriptedLedger.requests ctx a) (noted l calls)
          (.ok (visited.flatMap (·.events ctx.market)))
          (noted l (calls ++ [RequestKind.signatures.name ++ " " ++ a.text]
            ++ visited.map (RequestKind.transaction.name ++ " " ++ ·.signature))) := by
  have h : l.Follows txs := MemoryLedger.follows_of_received hreceived
  have hindexed : l.Indexed := h.indexed
  refine ⟨hindexed.nodup a, ?_, fun s tx => hindexed.listed s tx a, h.mem_signatures_iff a,
    h.pairwise a, l.listed a, hindexed.map_signature_listed a, ?_,
    fun s tx => hindexed.count_listed, ?_⟩
  · intro s hs
    obtain ⟨tx, hfound⟩ := hindexed.stored a s hs
    obtain ⟨before, after, hlist, hsignature, hafter⟩ :=
      latest?_eq_some_iff.1 (h.transaction?_eq s ▸ hfound)
    exact ⟨before, tx, after, hlist, hsignature, hafter, hfound⟩
  · intro tx htx
    exact (hindexed.mem_listed_iff.1 htx).2
  · intro ctx
    refine ⟨ends_events_memory ctx a l, fun calls => ?_⟩
    have hends := ends_events_scripted ctx a l calls
    rw [← hindexed.map_signature_listed a, List.map_map] at hends
    exact hends

/-- A transaction of a user who opened an account. -/
def opened (signature : String) (user : Address) : PastTransaction :=
  ⟨signature, none, [⟨Address.marketplace, [user, user, .ofNumber 9], Method.initUser.opcode ++ [254]⟩], []⟩

/-- The event of such a transaction. -/
def openedEvent (signature : String) (user : Address) : Event :=
  ⟨signature, none, user, "PcLYN6YP", .initUser⟩

/-- Two transactions of a user, then an account, a third transaction, and one of another user under
the signature of the first. -/
def reused : MemoryLedger :=
  ((([opened "b" (.ofNumber 1), opened "a" (.ofNumber 1)].foldl MemoryLedger.insertTransaction
    (.empty Address.marketplace)).insertAccount (.ofNumber 1) ⟨.ofNumber 2, 3, []⟩).insertTransaction
    (opened "c" (.ofNumber 1))).insertTransaction (opened "b" (.ofNumber 2))

/-- A signature that is used again stays where it was, and the new transaction is found under it. -/
theorem events_of_received_reused :
    MemoryLedger.Received Address.marketplace
        [opened "b" (.ofNumber 1), opened "a" (.ofNumber 1), opened "c" (.ofNumber 1),
          opened "b" (.ofNumber 2)] reused ∧
      reused.signatures (.ofNumber 1) = ["c", "a", "b"] ∧
      Ends (events MemoryLedger.requests Context.default (.ofNumber 1)) reused
        (.ok [openedEvent "c" (.ofNumber 1), openedEvent "a" (.ofNumber 1),
          openedEvent "b" (.ofNumber 2)]) reused := by
  have hsnapshot : MemoryLedger.ofSnapshot Address.marketplace
      ⟨[], [opened "b" (.ofNumber 1), opened "a" (.ofNumber 1)]⟩ = .ok _ := rfl
  have hreceived : MemoryLedger.Received Address.marketplace
      [opened "b" (.ofNumber 1), opened "a" (.ofNumber 1), opened "c" (.ofNumber 1),
        opened "b" (.ofNumber 2)] reused :=
    (((MemoryLedger.Received.ofSnapshot hsnapshot).insertAccount (.ofNumber 1)
      ⟨.ofNumber 2, 3, []⟩).insertTransaction (opened "c" (.ofNumber 1))).insertTransaction
      (opened "b" (.ofNumber 2))
  have hlist : reused.signatures (.ofNumber 1) = ["c", "a", "b"] := by decide +kernel
  obtain ⟨-, -, -, -, -, visited, hmap, hfound, -, hends⟩ :=
    events_of_received hreceived (.ofNumber 1)
  have hvisited : visited = [opened "c" (.ofNumber 1), opened "a" (.ofNumber 1),
      opened "b" (.ofNumber 2)] :=
    calc visited
        = visited.filterMap fun tx => reused.transaction? tx.signature := by
          rw [List.filterMap_congr hfound, List.filterMap_some]
      _ = (visited.map (·.signature)).filterMap reused.transaction? :=
          List.filterMap_map.symm
      _ = ["c", "a", "b"].filterMap reused.transaction? := congrArg _ (hmap.trans hlist)
      _ = _ := by decide +kernel
  have hevents : visited.flatMap (·.events Context.default.market)
      = [openedEvent "c" (.ofNumber 1), openedEvent "a" (.ofNumber 1),
          openedEvent "b" (.ofNumber 2)] := by
    rw [hvisited]
    decide +kernel
  exact ⟨hreceived, hlist, hevents ▸ (hends Context.default).1⟩

end Client

end AssetMarket
