/-
**Every record is at its own place.**

The address of a new record comes from the client, which derives it from the keys of the record; the
keys that are stored there come from the ledger, which reads them from an instruction.  Whatever
people order, one after the other, the two agree: each account that is new afterwards holds a blank
record from whose keys its address can be derived again, and no account that was there before has
changed.

Main definitions:

* `StoredAccount.HoldsBlank` — an account that holds a record as it was created, where it belongs;
* `MemoryLedger.AddsRecords` — what is new in a later state of a ledger are such accounts;
* `Order`, `Client.submitAll` — what people order, one after the other.

Main results:

* `LazyRecord.holdsBlank` — a record that is created is one like that;
* `Client.addsRecords_submit` — one order only adds records;
* `Client.addsRecords_submitAll` — **any number of orders only add records**.
-/

import AssetMarket.Proofs.Client.Course
import AssetMarket.Proofs.Operation.Creation
import AssetMarket.Proofs.Record.Codec

set_option relaxedAutoImplicit false
set_option autoImplicit false

namespace AssetMarket

/-! ### New accounts -/

/-- An account that holds a record as it was created: of one kind and no other, closed, and at the
address that the keys of the record lead to. -/
structure StoredAccount.HoldsBlank (account : StoredAccount) (market a : Address) (r : Record) :
    Prop where
  owner : account.owner = market
  kind : ∀ k : RecordKind,
    account.data.length = k.size ∧ k.hasHeader account.data = true ↔ k = r.kind
  decode : Record.decode r.kind account.data = .ok r
  ofLazy : r.kind ≠ .globalConfig
  closed : r.kind ∈ [RecordKind.listing, .offer, .auction] → r.isLive = false
  place : r.place.address market = .ok a

/-- A record that is created is blank and where it belongs. -/
theorem LazyRecord.holdsBlank {market payer a : Address} {r : LazyRecord}
    (haddress : (r.place payer).address market = .ok a) :
    (MemoryLedger.newAccount market (r.blank payer)).HoldsBlank market a (r.blank payer) := by
  have law := Record.lawfulCodec (r.blank payer).kind
  have hlength := law.length_encode _ rfl
  refine
    { owner := rfl
      kind := ?_
      decode := law.decode_encode _ rfl
      ofLazy := by cases r <;> exact nofun
      closed := by cases r <;> simp [blank, Record.kind, Record.isLive]
      place := by rw [place_blank, haddress] }
  intro k
  constructor
  · rintro ⟨hsize, -⟩
    exact RecordKind.size_injective (hsize.symm.trans hlength)
  · rintro rfl
    exact ⟨hlength, List.isPrefixOf_iff_prefix.2 (law.header_encode _ rfl)⟩

namespace MemoryLedger

/-- A later state of a ledger in which no account has changed and the new ones hold records. -/
structure AddsRecords (l l' : MemoryLedger) : Prop where
  market : l'.market = l.market
  kept : ∀ (a : Address) (account : StoredAccount),
    l.accounts[a]? = some account → l'.accounts[a]? = some account
  added : ∀ (a : Address) (account : StoredAccount), l'.accounts[a]? = some account →
    a ∉ l.accounts → ∃ r, account.HoldsBlank l.market a r

namespace AddsRecords

variable {l l' l'' : MemoryLedger}

theorem refl (l : MemoryLedger) : AddsRecords l l where
  market := rfl
  kept _ _ h := h
  added a account h hnot := by
    refine absurd ?_ hnot
    rw [Std.ExtTreeMap.mem_iff_isSome_getElem?, h]
    rfl

theorem trans (h : AddsRecords l l') (h' : AddsRecords l' l'') : AddsRecords l l'' where
  market := h'.market.trans h.market
  kept a account hget := h'.kept a account (h.kept a account hget)
  added a account hget hnot := by
    cases hmiddle : l'.accounts[a]? with
    | none =>
        have hnew : a ∉ l'.accounts := by
          rw [Std.ExtTreeMap.mem_iff_isSome_getElem?, hmiddle]
          exact Bool.false_ne_true
        obtain ⟨r, hr⟩ := h'.added a account hget hnew
        exact ⟨r, h.market ▸ hr⟩
    | some account' =>
        -- what was new in the middle is still the same at the end
        have hsame := h'.kept a account' hmiddle
        rw [hget, Option.some.injEq] at hsame
        exact h.added a account (hsame ▸ hmiddle) hnot

end AddsRecords

end MemoryLedger

/-! ### Orders -/

/-- What somebody orders. -/
structure Order where
  payer : Address
  source : CreatorSource
  op : Operation

namespace Client

variable {ctx : Context}

/-- A client carries out orders, one after the other, and goes on after one that fails. -/
def submitAll (ctx : Context) (orders : List Order) (d : Desk MemoryLedger) : Desk MemoryLedger :=
  orders.foldl
    (fun d order => (submit MemoryLedger.requests ctx order.source order.payer order.op d).2) d

/-- A transaction that was prepared and accepted only adds records. -/
theorem addsRecords_of_submit {source : CreatorSource} {payer : Address} {op : Operation}
    {l l' : MemoryLedger} {tx : Transaction} {signature : String}
    (hmarket : l.market = ctx.market)
    (hprepare : (op.prepare ctx source payer).eval l.data? = .ok tx)
    (hsubmit : l.submit tx = .ok (signature, l')) : l.AddsRecords l' := by
  have hext := MemoryLedger.extends_of_submit hsubmit
  refine { market := hext.market, kept := hext.kept, added := ?_ }
  intro a account hget hnot
  have hmem : a ∈ l'.accounts := by
    rw [Std.ExtTreeMap.mem_iff_isSome_getElem?, hget]
    rfl
  -- a new account is the creation of an instruction, and that is the call of a record
  obtain ⟨k, i, hi, hcreates⟩ := (hext.added a).1 ⟨hmem, hnot⟩
  obtain ⟨r, hcreation⟩ := MemoryLedger.exists_creation?_iff.2 hcreates
  have haccount := MemoryLedger.accounts_of_creation hsubmit (List.mem_of_getElem? hi) hcreation
  rw [hget, Option.some.injEq] at haccount
  have hcreated : (a, r) ∈ l.creations tx :=
    List.mem_filterMap.2 ⟨i, List.mem_of_getElem? hi, hcreation⟩
  rw [Operation.creations_of_prepare hmarket hprepare, List.mem_filterMap] at hcreated
  obtain ⟨lazyRecord, -, hlocated⟩ := hcreated
  obtain ⟨haddress, rfl⟩ := Record.located?_eq_some_iff.1 hlocated
  rw [LazyRecord.place_blank] at haddress
  exact ⟨_, haccount ▸ LazyRecord.holdsBlank (hmarket ▸ haddress)⟩

/-- One order only adds records, whatever comes of it. -/
theorem addsRecords_submit (source : CreatorSource) (payer : Address) (op : Operation)
    {d : Desk MemoryLedger} (hmarket : d.ledger.market = ctx.market) :
    d.ledger.AddsRecords (submit MemoryLedger.requests ctx source payer op d).2.ledger := by
  rcases submit_cases ctx source payer op d.ledger with
    ⟨e, hends⟩ | ⟨tx, signature, l', hprepare, hsubmit, hends⟩
  · obtain ⟨console, hd⟩ := hends d.console
    rw [hd]
    exact .refl d.ledger
  · obtain ⟨console, hd⟩ := hends d.console
    rw [hd]
    exact addsRecords_of_submit hmarket hprepare hsubmit

/-- **Any number of orders only add records.**  No account that was there before has changed, and
each new one belongs to the market and holds a blank record of exactly one kind, at the address that
the keys of the record lead to. -/
theorem addsRecords_submitAll (orders : List Order) {d : Desk MemoryLedger}
    (hmarket : d.ledger.market = ctx.market) :
    d.ledger.AddsRecords (submitAll ctx orders d).ledger := by
  induction orders generalizing d with
  | nil => exact .refl d.ledger
  | cons order orders ih =>
      have hfirst := addsRecords_submit order.source order.payer order.op hmarket
      exact hfirst.trans (ih (hfirst.market.trans hmarket))

/-- A deposit creates the record of its user, and it cannot be created a second time. -/
theorem addsRecords_submitAll_deposit :
    let start : Desk MemoryLedger := ⟨.empty Address.marketplace, []⟩
    let orders : List Order :=
      [⟨.ofNumber 1, .recorded, .deposit 5⟩, ⟨.ofNumber 1, .recorded, .initUser⟩]
    let a := ((Place.user (.ofNumber 1)).site Address.marketplace).address
    ∃ account r, (submitAll .default orders start).ledger.accounts[a]? = some account ∧
      account.HoldsBlank Address.marketplace a r := by
  intro start orders a
  have hmarket : start.ledger.market = Context.default.market := rfl
  have hsome : (submitAll .default orders start).ledger.accounts[a]?.isSome := by decide +kernel
  have hnew : a ∉ start.ledger.accounts := Std.ExtTreeMap.not_mem_empty
  obtain ⟨account, haccount⟩ := Option.isSome_iff_exists.1 hsome
  obtain ⟨r, hr⟩ := (addsRecords_submitAll orders hmarket).added a account haccount hnew
  exact ⟨account, r, haccount, hr⟩

end Client

end AssetMarket
