/-
**How the work of a client ends.**

What a person is told has no influence on what happens.  So the work of a client is described by a
relation between the ledger before, the result and the ledger after, and the console is left out of
it.  There is a rule for each way of putting work together, and from these come the ways in which a
submission can go.

Main definitions:

* `Client.Ends` — from a state of the ledger some work ends with a result and in a state.

Main results:

* `Client.Ends.bind`, `Client.ends_await` — the rules;
* `Inquiry.ends_run_requests` — at a ledger in memory an inquiry ends as it evaluates;
* `Client.ends_submitPrepared_first`, `Client.ends_submitPrepared_second` — a transaction is
  accepted at the first or the second attempt;
* `Client.submit_cases` — **how a submission goes at a ledger in memory that nobody else uses**.
-/

import AssetMarket.Client.Submission
import AssetMarket.Proofs.Ledger.Run

set_option relaxedAutoImplicit false
set_option autoImplicit false

namespace AssetMarket

namespace Client

variable {σ α β : Type}

/-- From a state of the ledger some work ends with a result and in a state, whatever the person has
been told before. -/
def Ends (x : Client σ α) (s : σ) (r : Except MarketError α) (s' : σ) : Prop :=
  ∀ c, ∃ c', x ⟨s, c⟩ = (r, ⟨s', c'⟩)

/-! ### Rules -/

theorem bind_apply (x : Client σ α) (f : α → Client σ β) (d : Desk σ) :
    (x >>= f) d = match x d with
      | (.ok a, d') => f a d'
      | (.error e, d') => (.error e, d') := by
  show (match x d with | (r, d') => ExceptT.bindCont f r d') = _
  obtain ⟨r, d'⟩ := x d
  cases r <;> rfl

section

variable {s s' s'' : σ} {x : Client σ α} {f : α → Client σ β} {a : α} {r : Except MarketError β}
  {e : MarketError}

theorem Ends.bind (hx : Ends x s (.ok a) s') (hf : Ends (f a) s' r s'') :
    Ends (x >>= f) s r s'' := by
  intro c
  obtain ⟨c', hc'⟩ := hx c
  obtain ⟨c'', hc''⟩ := hf c'
  exact ⟨c'', by rw [bind_apply, hc']; exact hc''⟩

theorem Ends.bind_error (hx : Ends x s (.error e) s') : Ends (x >>= f) s (.error e) s' := by
  intro c
  obtain ⟨c', hc'⟩ := hx c
  exact ⟨c', by rw [bind_apply, hc']⟩

theorem ends_pure (a : α) (s : σ) : Ends (pure a) s (.ok a) s := fun c => ⟨c, rfl⟩

theorem ends_throw (e : MarketError) (s : σ) : Ends (throw e : Client σ α) s (.error e) s :=
  fun c => ⟨c, rfl⟩

theorem ends_tell (stream : Stream) (line : String) (s : σ) :
    Ends (tell stream line) s (.ok ()) s := fun _ => ⟨_, rfl⟩

theorem ends_remark (verbose : Bool) (line : String) (s : σ) :
    Ends (remark verbose line) s (.ok ()) s := by
  cases verbose with
  | false => exact ends_pure () s
  | true => exact ends_tell .out line s

theorem ends_request {ask : σ → Reply α × σ} {reply : Reply α} (h : ask s = (reply, s')) :
    Ends (request ask) s (.ok reply) s' := by
  intro c
  refine ⟨c, ?_⟩
  show (Except.ok (ask s).1, Desk.mk (ask s).2 c) = _
  rw [h]

theorem ends_resultOf (operation : String) (reply : Reply α) (s : σ) :
    Ends (liftM (resultOf operation reply)) s (resultOf operation reply) s := by
  intro c
  refine ⟨c, ?_⟩
  cases resultOf operation reply <;> rfl

theorem ends_await (operation : String) {ask : σ → Reply α × σ} {reply : Reply α}
    (h : ask s = (reply, s')) : Ends (await operation ask) s (resultOf operation reply) s' :=
  (ends_request h).bind (ends_resultOf operation reply s')

end

/-! ### Submitting -/

section

variable {requests : Ledger σ} {ctx : Context} {source : CreatorSource} {payer : Address}
  {op : Operation} {tx tx' : Transaction} {s s₁ s₂ s₃ s₄ : σ} {signature address : String}
  {result : Submitted} {e : MarketError}

theorem ends_submitOnce_answered (h : requests.submit tx s = (.answered signature, s₁)) :
    Ends (submitOnce requests tx) s (.ok (.ok signature)) s₁ :=
  (ends_request h).bind ((ends_resultOf _ _ s₁).bind (ends_pure _ s₁))

theorem ends_submitOnce_taken
    (h : requests.submit tx s = (.failed (.alreadyInitialized address), s₁)) :
    Ends (submitOnce requests tx) s (.ok (.error address)) s₁ :=
  (ends_request h).bind (ends_pure _ s₁)

/-- A transaction is accepted at once. -/
theorem ends_submitPrepared_first
    (hprepare : Ends ((op.prepare ctx source payer).run requests) s (.ok tx) s₁)
    (hsubmit : requests.submit tx s₁ = (.answered signature, s₂)) :
    Ends (submitPrepared requests ctx source payer op) s
      (.ok { signature, transaction := tx, retried := false }) s₂ :=
  hprepare.bind ((ends_submitOnce_answered hsubmit).bind (ends_pure _ s₂))

theorem ends_submitPrepared_error
    (hprepare : Ends ((op.prepare ctx source payer).run requests) s (.error e) s₁) :
    Ends (submitPrepared requests ctx source payer op) s (.error e) s₁ :=
  hprepare.bind_error

theorem ends_warn_bind {x : Client σ α} {r : Except MarketError α} (verbose : Bool) (line : String)
    (hx : Ends x s r s₁) :
    Ends (do
      if verbose then warn line
      x) s r s₁ := by
  cases verbose with
  | false => exact hx
  | true => exact (ends_tell .err line s).bind hx

/-- A transaction finds a record taken, and is prepared and submitted once more. -/
theorem ends_submitPrepared_second {reply : Reply String}
    (hprepare : Ends ((op.prepare ctx source payer).run requests) s (.ok tx) s₁)
    (htaken : requests.submit tx s₁ = (.failed (.alreadyInitialized address), s₂))
    (hprepare' : Ends ((op.prepare ctx source payer).run requests) s₂ (.ok tx') s₃)
    (hsubmit : requests.submit tx' s₃ = (reply, s₄)) :
    Ends (submitPrepared requests ctx source payer op) s
      ((resultOf "submit_transaction" reply).map fun signature =>
        { signature, transaction := tx', retried := true }) s₄ := by
  refine hprepare.bind ((ends_submitOnce_taken htaken).bind (ends_warn_bind ctx.verbose _ ?_))
  refine hprepare'.bind ?_
  have hanswer := ends_await "submit_transaction" hsubmit
  cases hreply : resultOf "submit_transaction" reply with
  | ok signature => exact (hreply ▸ hanswer).bind (ends_pure _ s₄)
  | error e => exact (hreply ▸ hanswer).bind_error

theorem ends_submitPrepared_second_error
    (hprepare : Ends ((op.prepare ctx source payer).run requests) s (.ok tx) s₁)
    (htaken : requests.submit tx s₁ = (.failed (.alreadyInitialized address), s₂))
    (hprepare' : Ends ((op.prepare ctx source payer).run requests) s₂ (.error e) s₃) :
    Ends (submitPrepared requests ctx source payer op) s (.error e) s₃ :=
  hprepare.bind ((ends_submitOnce_taken htaken).bind (ends_warn_bind ctx.verbose _
    hprepare'.bind_error))

theorem ends_submit (h : Ends (submitPrepared requests ctx source payer op) s (.ok result) s₁)
    (hconfirm : requests.confirm result.signature ctx.commitment s₁ = (.answered (), s₂)) :
    Ends (submit requests ctx source payer op) s (.ok result) s₂ :=
  (ends_remark ctx.verbose _ s).bind (h.bind ((ends_await _ hconfirm).bind
    ((ends_remark ctx.verbose _ s₂).bind (ends_pure result s₂))))

theorem ends_submit_error
    (h : Ends (submitPrepared requests ctx source payer op) s (.error e) s₁) :
    Ends (submit requests ctx source payer op) s (.error e) s₁ :=
  (ends_remark ctx.verbose _ s).bind h.bind_error

end

end Client

/-! ### At a ledger in memory -/

/-- At a ledger in memory an inquiry ends as it evaluates. -/
theorem Inquiry.ends_run_requests {α : Type} (x : Inquiry α) (l : MemoryLedger) :
    Client.Ends (x.run MemoryLedger.requests) l (x.eval l.data?) l := by
  intro c
  obtain ⟨hresult, hledger⟩ := x.run_requests ⟨l, c⟩
  refine ⟨((x.run MemoryLedger.requests) ⟨l, c⟩).2.console, Prod.ext hresult ?_⟩
  exact Desk.ext hledger rfl

/-- What a ledger has accepted it confirms. -/
theorem MemoryLedger.confirms_of_submit {l l' : MemoryLedger} {tx : Transaction}
    {signature : String} (h : l.submit tx = .ok (signature, l')) : l'.Confirms signature := by
  have hrun : Run l [(signature, tx)] l' := .accepted (requests_submit_eq_answered_iff.2 h) .done
  exact (hrun.confirms_of_mem (List.mem_singleton_self _)).1

namespace Client

variable {ctx : Context} {source : CreatorSource} {payer : Address} {op : Operation}
  {l l' : MemoryLedger} {tx : Transaction} {signature : String}

theorem ends_submit_of_error {e : MarketError}
    (hprepare : (op.prepare ctx source payer).eval l.data? = .error e) :
    Ends (submit MemoryLedger.requests ctx source payer op) l (.error e) l := by
  have hends := (op.prepare ctx source payer).ends_run_requests l
  rw [hprepare] at hends
  exact ends_submit_error (ends_submitPrepared_error hends)

theorem ends_submit_of_accepted (hprepare : (op.prepare ctx source payer).eval l.data? = .ok tx)
    (hsubmit : l.submit tx = .ok (signature, l')) :
    Ends (submit MemoryLedger.requests ctx source payer op) l
      (.ok { signature, transaction := tx, retried := false }) l' := by
  have hends := (op.prepare ctx source payer).ends_run_requests l
  rw [hprepare] at hends
  refine ends_submit (ends_submitPrepared_first hends ?_)
    (MemoryLedger.confirms_of_submit hsubmit ctx.commitment)
  exact MemoryLedger.requests_submit_eq_answered_iff.2 hsubmit

/-- A transaction that is refused is refused once more, since it is the same at the second time. -/
theorem ends_submit_of_refused {e : QueryError}
    (hprepare : (op.prepare ctx source payer).eval l.data? = .ok tx)
    (hsubmit : l.submit tx = .error e) :
    Ends (submit MemoryLedger.requests ctx source payer op) l (.error e.toMarketError) l := by
  have hends := (op.prepare ctx source payer).ends_run_requests l
  rw [hprepare] at hends
  have hrefused := MemoryLedger.requests_submit_eq_failed_iff.2 ⟨hsubmit, rfl⟩
  obtain ⟨a, -, rfl⟩ := MemoryLedger.submit_eq_error_iff.1 hsubmit
  exact ends_submit_error (ends_submitPrepared_second hends hrefused hends hrefused)

/-- **How a submission goes at a ledger in memory that nobody else uses.** -/
theorem submit_cases (ctx : Context) (source : CreatorSource) (payer : Address) (op : Operation)
    (l : MemoryLedger) :
    (∃ e, Ends (submit MemoryLedger.requests ctx source payer op) l (.error e) l) ∨
      ∃ tx signature l', (op.prepare ctx source payer).eval l.data? = .ok tx ∧
        l.submit tx = .ok (signature, l') ∧
        Ends (submit MemoryLedger.requests ctx source payer op) l
          (.ok { signature, transaction := tx, retried := false }) l' := by
  cases hprepare : (op.prepare ctx source payer).eval l.data? with
  | error e => exact .inl ⟨e, ends_submit_of_error hprepare⟩
  | ok tx =>
      cases hsubmit : l.submit tx with
      | error e => exact .inl ⟨_, ends_submit_of_refused hprepare hsubmit⟩
      | ok accepted =>
          exact .inr ⟨tx, accepted.1, accepted.2, rfl, hsubmit,
            ends_submit_of_accepted hprepare hsubmit⟩

end Client

end AssetMarket
