/-
**Records are created when they are first needed, and not again.**

An operation may need records that nobody has created yet.  Its transaction creates them on the way;
a person never has to.  If nobody interferes the transaction is accepted at the first attempt, and
whatever happens at the ledger later, the next transaction for the same operation creates nothing.

Main results:

* `Client.eval_of_run` — what a client prepares is what the accounts determine;
* `Client.submit_creates_once` — **an operation that can be prepared is accepted at once, and its
  records are there ever after**.
-/

import AssetMarket.Proofs.Client.Course
import AssetMarket.Proofs.Operation.Acceptance

set_option relaxedAutoImplicit false
set_option autoImplicit false

namespace AssetMarket

namespace Client

variable {ctx : Context} {source : CreatorSource} {payer : Address} {op : Operation}

theorem eval_of_run {α : Type} {x : Inquiry α} {d : Desk MemoryLedger} {r : Except MarketError α}
    (h : (x.run MemoryLedger.requests d).1 = r) : x.eval d.ledger.data? = r :=
  (x.run_requests d).1.symm.trans h

/-- **An operation that can be prepared is accepted at once**, with the transaction that was
prepared, unless it is itself there to create a record.  From then on the records that it needs are
there, and no later preparation creates any. -/
theorem submit_creates_once {d : Desk MemoryLedger} {tx : Transaction}
    (hmarket : d.ledger.market = ctx.market) (hown : op.ownRecord? = none)
    (hapart : op.Apart ctx.market payer)
    (hprepare : ((op.prepare ctx source payer).run MemoryLedger.requests d).1 = .ok tx) :
    ∃ signature d',
      submit MemoryLedger.requests ctx source payer op d
        = (.ok { signature, transaction := tx, retried := false }, d') ∧
      d.ledger.Extends tx d'.ledger ∧
      op.Provided d'.ledger ctx.market payer ∧
      ∀ (log : List (String × Transaction)) (later : Desk MemoryLedger) (tx' : Transaction),
        MemoryLedger.Run d'.ledger log later.ledger →
        ((op.prepare ctx source payer).run MemoryLedger.requests later).1 = .ok tx' →
        ∀ m ∈ Method.creators, tx'.countWithOpcode m.opcode = 0 := by
  have heval := eval_of_run hprepare
  obtain ⟨signature, l', hsubmit⟩ :=
    MemoryLedger.accepts_iff.1 (Operation.accepts_of_prepare hown hapart heval hmarket)
  obtain ⟨console, hends⟩ := ends_submit_of_accepted heval hsubmit d.console
  have hprovided := Operation.provided_of_submit heval hmarket hsubmit
  refine ⟨signature, ⟨l', console⟩, hends, MemoryLedger.extends_of_submit hsubmit, hprovided, ?_⟩
  intro log later tx' hrun hprepare' m hm
  exact (hprovided.of_run hrun).countWithOpcode_eq_zero hown (eval_of_run hprepare') hm

/-- The first offer of a person for an asset, which creates two records, and the next one. -/
theorem submit_creates_once_makeOffer :
    let offer (price : UInt64) := Operation.makeOffer (.ofNumber 2) price
    let start : Desk MemoryLedger := ⟨.empty Address.marketplace, []⟩
    ∃ tx signature d',
      submit MemoryLedger.requests .default .recorded (.ofNumber 1) (offer 5) start
        = (.ok { signature, transaction := tx, retried := false }, d') ∧
      d'.ledger.submitted = [tx] ∧
      (offer 5).Provided d'.ledger Address.marketplace (.ofNumber 1) ∧
      ∀ tx', (((offer 5).prepare .default .recorded (.ofNumber 1)).run MemoryLedger.requests d').1
          = .ok tx' → tx'.countWithOpcode Method.initOffer.opcode = 0 := by
  intro offer start
  have hprepares : (((offer 5).prepare .default .recorded (.ofNumber 1)).run MemoryLedger.requests
      start).1.isOk := by
    decide +kernel
  have hmarket : start.ledger.market = Context.default.market := rfl
  have hown : (offer 5).ownRecord? = none := rfl
  have hapart : (offer 5).Apart Context.default.market (.ofNumber 1) := by
    unfold Operation.Apart
    decide +kernel
  cases hprepare : (((offer 5).prepare .default .recorded (.ofNumber 1)).run MemoryLedger.requests
      start).1 with
  | error e =>
      rw [hprepare] at hprepares
      cases hprepares
  | ok tx =>
      obtain ⟨signature, d', hsubmit, hext, hprovided, hlater⟩ :=
        submit_creates_once hmarket hown hapart hprepare
      refine ⟨tx, signature, d', hsubmit, hext.submitted, hprovided, ?_⟩
      intro tx' hprepare'
      exact hlater [] d' tx' .done hprepare' .initOffer (by decide)

end Client

end AssetMarket
