/-
**Submitting while others do the same.**

Between the time when a transaction is prepared and the time when it is submitted, somebody else may
create one of the records that it creates.  Then it is refused, as a whole, and prepared once more.
This is enough: the record is there to stay, so the second transaction does without it, and if
nobody interferes again it is accepted.  However the others' transactions fall between the client's
requests, no record is created twice.

Main definitions:

* `SharedLedger` — a ledger in memory that others use at the same time;
* `SharedLedger.requests` — such a ledger as a client sees it.

Main results:

* `SharedLedger.exists_ends_run` — an inquiry while others go on;
* `Client.exists_ends_submit` — a submission while others go on;
* `Client.submit_tolerates_races` — **a race for a record is never lost**.
-/

import AssetMarket.Proofs.Client.Initialization
import AssetMarket.Proofs.Operation.Failure

set_option relaxedAutoImplicit false
set_option autoImplicit false

namespace AssetMarket

open Client (Ends)

/-! ### Ledgers that others use -/

namespace MemoryLedger

/-- The ledger after others have submitted some transactions, whatever came of them. -/
def afterOthers (l : MemoryLedger) (txs : List Transaction) : MemoryLedger :=
  txs.foldl (fun l tx => (requests.submit tx l).2) l

theorem exists_run_afterOthers (l : MemoryLedger) (txs : List Transaction) :
    ∃ log, Run l log (l.afterOthers txs) := by
  induction txs generalizing l with
  | nil => exact ⟨[], .done⟩
  | cons tx txs ih =>
      obtain ⟨log, hlog⟩ := ih (requests.submit tx l).2
      cases hreply : l.submit tx with
      | error e =>
          have hsubmit := requests_submit_eq_failed_iff.2 ⟨hreply, rfl⟩
          rw [hsubmit] at hlog
          refine ⟨log, .refused hsubmit ?_⟩
          rwa [afterOthers, List.foldl_cons, hsubmit]
      | ok accepted =>
          obtain ⟨signature, l'⟩ := accepted
          have hsubmit := requests_submit_eq_answered_iff.2 hreply
          rw [hsubmit] at hlog
          refine ⟨(signature, tx) :: log, .accepted hsubmit ?_⟩
          rwa [afterOthers, List.foldl_cons, hsubmit]

end MemoryLedger

/-- A ledger in memory that others use at the same time as a client. -/
structure SharedLedger where
  ledger : MemoryLedger
  /-- What the others submit ahead of each of the next requests, up to the client's submission. -/
  before : List (List Transaction)
  /-- What the others submit right after each of the client's submissions.  Then they are quiet
  until it has submitted once more. -/
  after : List (List Transaction)

namespace SharedLedger

/-- The others' turn ahead of a request. -/
def turn (s : SharedLedger) : SharedLedger :=
  { s with ledger := s.ledger.afterOthers (s.before.headD []), before := s.before.tail }

/-- The others' turn after a submission. -/
def turnAfter (s : SharedLedger) : SharedLedger :=
  { ledger := s.ledger.afterOthers (s.after.headD []), before := [], after := s.after.tail }

/-- A request to the ledger, after the others' turn. -/
def ask {α : Type} (request : MemoryLedger → Reply α × MemoryLedger) (s : SharedLedger) :
    Reply α × SharedLedger :=
  ((request s.turn.ledger).1, { s.turn with ledger := (request s.turn.ledger).2 })

/-- The requests to a ledger that others use. -/
def requests : Ledger SharedLedger :=
  { account := fun a => ask (MemoryLedger.requests.account a)
    scan := fun owner size window => ask (MemoryLedger.requests.scan owner size window)
    balance := fun a => ask (MemoryLedger.requests.balance a)
    signatures := fun a => ask (MemoryLedger.requests.signatures a)
    transaction := fun signature => ask (MemoryLedger.requests.transaction signature)
    submit := fun tx s =>
      let answer := ask (MemoryLedger.requests.submit tx) s
      (answer.1, answer.2.turnAfter)
    confirm := fun signature commitment =>
      ask (MemoryLedger.requests.confirm signature commitment) }

/-- One state of a ledger comes after another. -/
def Reaches (s s' : SharedLedger) : Prop := ∃ log, MemoryLedger.Run s.ledger log s'.ledger

section

variable {s s' s'' : SharedLedger}

theorem Reaches.trans (h : Reaches s s') (h' : Reaches s' s'') : Reaches s s'' := by
  obtain ⟨log, hlog⟩ := h
  obtain ⟨log', hlog'⟩ := h'
  exact ⟨_, hlog.trans hlog'⟩

theorem Reaches.market_eq (h : Reaches s s') : s'.ledger.market = s.ledger.market := by
  obtain ⟨log, hlog⟩ := h
  exact hlog.market_eq

theorem reaches_turn (s : SharedLedger) : Reaches s s.turn :=
  s.ledger.exists_run_afterOthers (s.before.headD [])

theorem reaches_turnAfter (s : SharedLedger) : Reaches s s.turnAfter :=
  s.ledger.exists_run_afterOthers (s.after.headD [])

/-- Those who have nothing left to submit change nothing. -/
theorem turn_eq_self (h : s.before = []) : s.turn = s := by
  obtain ⟨ledger, before, after⟩ := s
  cases h
  rfl

/-! ### Requests -/

theorem requests_account (a : Address) (s : SharedLedger) :
    requests.account a s = (.answered (s.turn.ledger.data? a), s.turn) := rfl

theorem requests_submit (tx : Transaction) (s : SharedLedger) :
    requests.submit tx s = ((ask (MemoryLedger.requests.submit tx) s).1,
      (ask (MemoryLedger.requests.submit tx) s).2.turnAfter) := rfl

theorem exists_submit_answered {tx : Transaction} {signature : String} {l : MemoryLedger}
    (h : s.turn.ledger.submit tx = .ok (signature, l)) :
    ∃ s', requests.submit tx s = (.answered signature, s') ∧ s'.before = [] ∧ Reaches s s' ∧
      s'.ledger.Confirms signature := by
  have hsubmit := MemoryLedger.requests_submit_eq_answered_iff.2 h
  have hask : ask (MemoryLedger.requests.submit tx) s
      = (.answered signature, { s.turn with ledger := l }) := by
    rw [ask, hsubmit]
  have hown : MemoryLedger.Run s.turn.ledger [(signature, tx)] l := .accepted hsubmit .done
  obtain ⟨log, hlog⟩ := reaches_turnAfter { s.turn with ledger := l }
  refine ⟨turnAfter { s.turn with ledger := l }, ?_, rfl, ?_, ?_⟩
  · rw [requests_submit, hask]
  · exact (reaches_turn s).trans ⟨_, hown.trans hlog⟩
  · exact ((hown.trans hlog).confirms_of_mem (by simp)).1

theorem exists_submit_refused {tx : Transaction} {e : QueryError}
    (h : s.turn.ledger.submit tx = .error e) :
    ∃ s', requests.submit tx s = (.failed e, s') ∧ s'.before = [] ∧ Reaches s s' := by
  have hsubmit := MemoryLedger.requests_submit_eq_failed_iff.2 ⟨h, rfl⟩
  have hask : ask (MemoryLedger.requests.submit tx) s = (.failed e, s.turn) := by
    rw [ask, hsubmit]
  refine ⟨turnAfter s.turn, ?_, rfl, (reaches_turn s).trans (reaches_turnAfter s.turn)⟩
  rw [requests_submit, hask]

theorem requests_confirm {signature : String} (hquiet : s.before = [])
    (h : s.ledger.Confirms signature) (commitment : Commitment) :
    requests.confirm signature commitment s = (.answered (), s) := by
  show ask (MemoryLedger.requests.confirm signature commitment) s = _
  rw [ask, turn_eq_self hquiet, h commitment]

/-! ### Inquiries -/

/-- While others go on an inquiry ends all the same, and fails in no way that is not its own. -/
theorem exists_ends_run {α : Type} {x : Inquiry α} (hx : x.OwnFailures) (s : SharedLedger) :
    ∃ r s', Ends (x.run requests) s r s' ∧ Reaches s s' ∧
      ∀ e, r = .error e → e.ofRequest = false := by
  induction hx generalizing s with
  | done a => exact ⟨_, s, Client.ends_pure a s, ⟨[], .done⟩, nofun⟩
  | @fail e h =>
      refine ⟨_, s, Client.ends_throw e s, ⟨[], .done⟩, ?_⟩
      rintro e' ⟨⟩
      exact MarketError.ofRequest_of_ofPreparation h
  | @say line next _ ih =>
      obtain ⟨r, s', hends, hrest⟩ := ih s
      exact ⟨r, s', (Client.ends_tell .out line s).bind hends, hrest⟩
  | @look purpose address next _ ih =>
      -- the look finds what is there after the others' turn
      obtain ⟨r, s', hends, hreaches, hown⟩ := ih (s.turn.ledger.data? address) s.turn
      refine ⟨r, s', ?_, (reaches_turn s).trans hreaches, hown⟩
      exact (Client.ends_await purpose.name (requests_account address s)).bind hends

/-- While nobody interferes an inquiry ends as it evaluates. -/
theorem ends_run_of_quiet {α : Type} (x : Inquiry α) (h : s.before = []) :
    Ends (x.run requests) s (x.eval s.ledger.data?) s := by
  induction x with
  | done a => exact Client.ends_pure a s
  | fail e => exact Client.ends_throw e s
  | say line next ih => exact (Client.ends_tell .out line s).bind ih
  | look purpose address next ih =>
      have hlook := requests_account address s
      rw [turn_eq_self h] at hlook
      exact (Client.ends_await purpose.name hlook).bind (ih _)

end

end SharedLedger

/-! ### Submissions -/

namespace Client

open MemoryLedger (Run)

variable {ctx : Context} {source : CreatorSource} {payer : Address} {op : Operation}

/-- A result whose signature the ledger confirms is the result of the submission. -/
theorem ends_submit_shared {s s' : SharedLedger} {result : Submitted}
    (h : Ends (submitPrepared SharedLedger.requests ctx source payer op) s (.ok result) s')
    (hquiet : s'.before = []) (hconfirms : s'.ledger.Confirms result.signature) :
    Ends (submit SharedLedger.requests ctx source payer op) s (.ok result) s' :=
  ends_submit h (SharedLedger.requests_confirm hquiet hconfirms _)

/-- A second attempt, which nobody disturbs. -/
theorem exists_ends_submit_of_refused {s s₁ s₂ : SharedLedger} {tx : Transaction}
    {address : String} (hown : op.ownRecord? = none) (hapart : op.Apart ctx.market payer)
    (hprepare : Ends ((op.prepare ctx source payer).run SharedLedger.requests) s (.ok tx) s₁)
    (htaken : SharedLedger.requests.submit tx s₁ = (.failed (.alreadyInitialized address), s₂))
    (hquiet : s₂.before = []) (hmarket : s₂.ledger.market = ctx.market) :
    ∃ r s', Ends (submit SharedLedger.requests ctx source payer op) s r s' ∧
      SharedLedger.Reaches s₂ s' ∧ ∀ e, r = .error e → e.ofRequest = false := by
  -- from here on the ledger is in memory and in use by nobody else
  have hagain := SharedLedger.ends_run_of_quiet (op.prepare ctx source payer) hquiet
  cases hprepare' : (op.prepare ctx source payer).eval s₂.ledger.data? with
  | error e =>
      rw [hprepare'] at hagain
      refine ⟨_, s₂, ends_submit_error (ends_submitPrepared_second_error hprepare htaken hagain),
        ⟨[], .done⟩, ?_⟩
      rintro e' ⟨⟩
      exact (op.ownFailures_prepare ctx source payer).ofRequest_of_eval hprepare'
  | ok tx' =>
      rw [hprepare'] at hagain
      obtain ⟨signature, l, hsubmit⟩ :=
        MemoryLedger.accepts_iff.1 (Operation.accepts_of_prepare hown hapart hprepare' hmarket)
      rw [← SharedLedger.turn_eq_self hquiet] at hsubmit
      obtain ⟨s', hanswer, hquiet', hreaches, hconfirms⟩ :=
        SharedLedger.exists_submit_answered hsubmit
      have hsecond := ends_submitPrepared_second hprepare htaken hagain hanswer
      exact ⟨_, s', ends_submit_shared hsecond hquiet' hconfirms, hreaches, nofun⟩

/-- A submission ends, while others go on, without any failure of a request. -/
theorem exists_ends_submit {s : SharedLedger} (hown : op.ownRecord? = none)
    (hapart : op.Apart ctx.market payer) (hmarket : s.ledger.market = ctx.market) :
    ∃ r s', Ends (submit SharedLedger.requests ctx source payer op) s r s' ∧
      SharedLedger.Reaches s s' ∧ ∀ e, r = .error e → e.ofRequest = false := by
  obtain ⟨r, s₁, hprepare, hreaches₁, hown₁⟩ :=
    SharedLedger.exists_ends_run (op.ownFailures_prepare ctx source payer) s
  cases r with
  | error e =>
      refine ⟨_, s₁, ends_submit_error (ends_submitPrepared_error hprepare), hreaches₁, ?_⟩
      rintro e' ⟨⟩
      exact hown₁ e rfl
  | ok tx =>
      cases hsubmit : s₁.turn.ledger.submit tx with
      | ok accepted =>
          obtain ⟨s₂, hanswer, hquiet, hreaches₂, hconfirms⟩ :=
            SharedLedger.exists_submit_answered hsubmit
          have hfirst := ends_submitPrepared_first hprepare hanswer
          exact ⟨_, s₂, ends_submit_shared hfirst hquiet hconfirms, hreaches₁.trans hreaches₂,
            nofun⟩
      | error e =>
          -- a ledger in memory refuses a transaction for no other reason
          obtain ⟨a, -, rfl⟩ := MemoryLedger.submit_eq_error_iff.1 hsubmit
          obtain ⟨s₂, htaken, hquiet, hreaches₂⟩ := SharedLedger.exists_submit_refused hsubmit
          have hreaches := hreaches₁.trans hreaches₂
          obtain ⟨r, s', hends, hreaches', hrest⟩ := exists_ends_submit_of_refused hown hapart
            hprepare htaken hquiet (hreaches.market_eq.trans hmarket)
          exact ⟨r, s', hends, hreaches.trans hreaches', hrest⟩

/-! ### Races -/

/-- A transaction that comes late is accepted, or it is refused because of a record that has been
created since. -/
theorem submit_late {l₀ l₁ : MemoryLedger} {log : List (String × Transaction)} {tx : Transaction}
    (hown : op.ownRecord? = none) (hapart : op.Apart ctx.market payer)
    (hmarket : l₀.market = ctx.market) (hrun : Run l₀ log l₁)
    (hprepare : (op.prepare ctx source payer).eval l₀.data? = .ok tx) :
    l₁.Accepts tx ∨
      ∃ r ∈ op.lazyRecords, ∃ a, (r.place payer).address ctx.market = .ok a ∧
        a ∉ l₀.accounts ∧ a ∈ l₁.accounts ∧ l₁.Refuses tx a := by
  by_cases hblocked : ∃ a, l₁.Blocked tx a
  · right
    obtain ⟨a, ha, hrefused⟩ := MemoryLedger.submit_of_blocked hblocked
    obtain ⟨hmem, r, hr, haddress⟩ :=
      Operation.of_blocked hown hapart hprepare (hrun.market_eq.trans hmarket) ha
    obtain ⟨hlazy, b, haddress', hnot⟩ := Operation.mem_missing_iff.1 hr
    rw [haddress, Except.ok.injEq] at haddress'
    exact ⟨r, hlazy, a, haddress, haddress' ▸ hnot, hmem, hrefused⟩
  · left
    obtain ⟨signature, l₂, hanswered, -⟩ := MemoryLedger.submit_of_not_blocked hblocked
    exact ⟨signature, l₂, hanswered⟩

/-- **A race for a record is never lost.**  A transaction that was prepared, and comes late, is
accepted or refused because of a record that somebody else has created since; then nothing has
happened, and a second one creates exactly what is still missing and is accepted.  So an operation
that is submitted while others go on does not end in the refusal of a request, if only they leave
the second attempt alone, and no record is created twice. -/
theorem submit_tolerates_races (source : CreatorSource) (hown : op.ownRecord? = none)
    (hapart : op.Apart ctx.market payer) :
    (∀ (d₀ d₁ : Desk MemoryLedger) (log : List (String × Transaction)) (tx₀ : Transaction),
      d₀.ledger.market = ctx.market → Run d₀.ledger log d₁.ledger →
      ((op.prepare ctx source payer).run MemoryLedger.requests d₀).1 = .ok tx₀ →
      (d₁.ledger.Accepts tx₀ ∨
        ∃ r ∈ op.lazyRecords, ∃ a, (r.place payer).address ctx.market = .ok a ∧
          a ∉ d₀.ledger.accounts ∧ a ∈ d₁.ledger.accounts ∧ d₁.ledger.Refuses tx₀ a) ∧
      ∀ tx₁, ((op.prepare ctx source payer).run MemoryLedger.requests d₁).1 = .ok tx₁ →
        (tx₁.instructions.filter (·.initializes ctx.market)).map .ok
            = (op.missing d₁.ledger.data? ctx.market payer).map
                (fun r => (r.call payer).build ctx.market) ∧
          d₁.ledger.Accepts tx₁) ∧
    ∀ d : Desk SharedLedger, d.ledger.ledger.market = ctx.market →
      (∀ e : QueryError,
        (submit SharedLedger.requests ctx source payer op d).1 ≠ .error e.toMarketError) ∧
      ∃ accepted : List Transaction,
        (submit SharedLedger.requests ctx source payer op d).2.ledger.ledger.submitted
          = d.ledger.ledger.submitted ++ accepted ∧
        ∀ a j, CreatesAt ctx.market (accepted.flatMap (·.instructions)) j a →
          a ∉ d.ledger.ledger.accounts ∧
            ∀ k, CreatesAt ctx.market (accepted.flatMap (·.instructions)) k a → j = k := by
  refine ⟨fun d₀ d₁ log tx₀ hmarket hrun hprepare => ⟨?_, fun tx₁ hprepare' => ?_⟩,
    fun d hmarket => ?_⟩
  · exact submit_late hown hapart hmarket hrun (eval_of_run hprepare)
  · have heval := eval_of_run hprepare'
    have hmarket' := hrun.market_eq.trans hmarket
    have hcalls := Operation.map_filter_initializes_of_prepare heval
    rw [Operation.created_eq_missing hown] at hcalls
    exact ⟨hcalls, Operation.accepts_of_prepare hown hapart heval hmarket'⟩
  · obtain ⟨r, s', hends, ⟨log, hlog⟩, hrequest⟩ := exists_ends_submit hown hapart hmarket
    obtain ⟨console, hd⟩ := hends d.console
    rw [hd]
    constructor
    · intro e hfailed
      have hfalse := hrequest _ hfailed
      rw [e.ofRequest_toMarketError] at hfalse
      cases hfalse
    · refine ⟨log.map (·.2), hlog.submitted_eq, ?_⟩
      rw [List.flatMap_map, ← hmarket]
      exact fun a j hj => hlog.once hj

/-- Somebody creates the record of a user who is about to make a first deposit.  The deposit is
refused, and prepared once more it is accepted; so it is if it has to be submitted in between. -/
theorem submit_tolerates_races_deposit :
    let deposit := Operation.deposit 5
    let a := ((Place.user (.ofNumber 1)).site Address.marketplace).address
    let rival : Transaction :=
      { payer := .ofNumber 9
        instructions :=
          [{ program := Address.marketplace
             accounts := [.signer (.ofNumber 1), .writable a]
             data := Method.initUser.opcode }] }
    let d₀ : Desk MemoryLedger := ⟨.empty Address.marketplace, []⟩
    let d₁ : Desk MemoryLedger := ⟨d₀.ledger.afterOthers [rival], []⟩
    let d : Desk SharedLedger := ⟨⟨d₀.ledger, [[], [rival]], []⟩, []⟩
    ∃ tx₀ tx₁ : Transaction,
      ((deposit.prepare .default .recorded (.ofNumber 1)).run MemoryLedger.requests d₀).1
        = .ok tx₀ ∧
      ((deposit.prepare .default .recorded (.ofNumber 1)).run MemoryLedger.requests d₁).1
        = .ok tx₁ ∧
      (∃ b ∈ d₁.ledger.accounts, d₁.ledger.Refuses tx₀ b) ∧
      d₁.ledger.Accepts tx₁ ∧
      ∀ e : QueryError,
        (submit SharedLedger.requests .default .recorded (.ofNumber 1) deposit d).1
          ≠ .error e.toMarketError := by
  intro deposit a rival d₀ d₁ d
  have hown : deposit.ownRecord? = none := rfl
  have hapart : deposit.Apart Context.default.market (.ofNumber 1) := by
    unfold Operation.Apart
    decide +kernel
  have hmarket : d₀.ledger.market = Context.default.market := rfl
  have hshared : d.ledger.ledger.market = Context.default.market := rfl
  obtain ⟨log, hrun⟩ : ∃ log, Run d₀.ledger log d₁.ledger := by
    dsimp only [d₁]
    exact d₀.ledger.exists_run_afterOthers [rival]
  have hrace := submit_tolerates_races .recorded hown hapart
  -- both preparations succeed, and the first transaction finds the record taken
  have htaken : (((deposit.prepare .default .recorded (.ofNumber 1)).run MemoryLedger.requests
      d₀).1.toOption.any fun tx => (d₁.ledger.conflict? tx).isSome) = true := by
    decide +kernel
  have hagain : (((deposit.prepare .default .recorded (.ofNumber 1)).run MemoryLedger.requests
      d₁).1.toOption.isSome) = true := by
    decide +kernel
  cases hprepare₀ : ((deposit.prepare .default .recorded (.ofNumber 1)).run MemoryLedger.requests
      d₀).1 with
  | error e =>
      rw [hprepare₀] at htaken
      cases htaken
  | ok tx₀ =>
      cases hprepare₁ : ((deposit.prepare .default .recorded (.ofNumber 1)).run
          MemoryLedger.requests d₁).1 with
      | error e =>
          rw [hprepare₁] at hagain
          cases hagain
      | ok tx₁ =>
          rw [hprepare₀] at htaken
          obtain ⟨hlate, hsecond⟩ := hrace.1 d₀ d₁ log tx₀ hmarket hrun hprepare₀
          refine ⟨tx₀, tx₁, rfl, rfl, ?_, (hsecond tx₁ hprepare₁).2, (hrace.2 d hshared).1⟩
          rcases hlate with haccepts | ⟨r, -, b, -, -, hb, hrefused⟩
          · obtain ⟨signature, l₂, hsubmit⟩ := MemoryLedger.accepts_iff.1 haccepts
            simp [Except.toOption, (MemoryLedger.submit_eq_ok_iff.1 hsubmit).1] at htaken
          · exact ⟨b, hb, hrefused⟩

end Client

end AssetMarket
