/-
**Inquiries.**

To prepare a transaction a client only looks at accounts, one after the other, and each look may
decide what it looks at next.  An `Inquiry` is such a course of looks, set apart from the ledger
that answers them.  Given the data of all accounts its result is plain to compute, and it depends
on nothing else.

Main definitions:

* `Inquiry` — a course of looks at accounts that ends in a result or a failure;
* `Inquiry.eval` — the result, given the data of all accounts;
* `Inquiry.data?`, `Inquiry.record?`, `Inquiry.required` — single looks.

Main results:

* `Inquiry.eval_bind` — the result of two inquiries in a row;
* `Inquiry.eval_bind_eq_ok_iff` — an inquiry that depends on another succeeds if both do;
* `Inquiry.eval_lift` — a computation that looks at nothing is its own result;
* `Inquiry.eval_content?_eq_ok_iff`, `Inquiry.eval_required_eq_ok_iff` — what single looks find.
-/

import AssetMarket.Error
import AssetMarket.Address

set_option relaxedAutoImplicit false
set_option autoImplicit false

namespace AssetMarket

/-- What a look at an account is for. -/
inductive Purpose where
  /-- A record, or whether there is anything at all. -/
  | record
  /-- A token account. -/
  | token
  /-- The metadata of an asset. -/
  | metadata
  deriving DecidableEq, Repr

/-- The name of a look where it takes too long. -/
def Purpose.name : Purpose → String
  | .record => "get_account"
  | .token => "get_token_account"
  | .metadata => "get_metadata"

/-- A course of looks at accounts. -/
inductive Inquiry (α : Type) where
  /-- The end, with a result. -/
  | done (a : α)
  /-- The end, without one. -/
  | fail (e : MarketError)
  /-- Tell the person something, then go on. -/
  | say (line : String) (next : Inquiry α)
  /-- Look at the data of an account, then go on according to what is there. -/
  | look (purpose : Purpose) (address : Address) (next : Option Bytes → Inquiry α)

namespace Inquiry

/-! ### One after the other -/

/-- An inquiry, and after it one that depends on its result. -/
def bind {α β : Type} (x : Inquiry α) (f : α → Inquiry β) : Inquiry β :=
  match x with
  | .done a => f a
  | .fail e => .fail e
  | .say line next => .say line (next.bind f)
  | .look purpose address next => .look purpose address fun data => (next data).bind f

instance : Monad Inquiry where
  pure := .done
  bind := bind

/-- A computation that looks at nothing. -/
def lift {α : Type} : Except MarketError α → Inquiry α
  | .ok a => .done a
  | .error e => .fail e

instance : MonadLift (Except MarketError) Inquiry := ⟨lift⟩

/-! ### Results -/

/-- The result of an inquiry, given the data of all accounts. -/
def eval {α : Type} (data? : Address → Option Bytes) : Inquiry α → Except MarketError α
  | .done a => .ok a
  | .fail e => .error e
  | .say _ next => next.eval data?
  | .look _ address next => (next (data? address)).eval data?

@[simp] theorem eval_pure {α : Type} (data? : Address → Option Bytes) (a : α) :
    eval data? (pure a) = .ok a := rfl

@[simp] theorem eval_bind {α β : Type} (data? : Address → Option Bytes) (x : Inquiry α)
    (f : α → Inquiry β) :
    eval data? (x >>= f) = (eval data? x).bind fun a => eval data? (f a) := by
  show eval data? (x.bind f) = _
  induction x with
  | done a => rfl
  | fail e => rfl
  | say line next ih => exact ih
  | look purpose address next ih => exact ih (data? address)

theorem eval_bind_of_eval {α β : Type} {data? : Address → Option Bytes} {x : Inquiry α} {a : α}
    (h : eval data? x = .ok a) (f : α → Inquiry β) : eval data? (x >>= f) = eval data? (f a) := by
  rw [eval_bind, h]
  rfl

theorem eval_bind_eq_ok_iff {α β : Type} {data? : Address → Option Bytes} {x : Inquiry α}
    {f : α → Inquiry β} {b : β} :
    eval data? (x >>= f) = .ok b ↔ ∃ a, eval data? x = .ok a ∧ eval data? (f a) = .ok b := by
  rw [eval_bind]
  cases eval data? x with
  | error e => simp [Except.bind]
  | ok a => simp [Except.bind]

@[simp] theorem eval_lift {α : Type} (data? : Address → Option Bytes) (x : Except MarketError α) :
    eval data? (lift x) = x := by
  cases x <;> rfl

@[simp] theorem eval_liftM {α : Type} (data? : Address → Option Bytes) (x : Except MarketError α) :
    eval data? (liftM x) = x := eval_lift data? x

/-! ### Single steps -/

/-- Tell the person something, if more than the result is wanted. -/
def remark (verbose : Bool) (line : String) : Inquiry Unit :=
  if verbose then .say line (.done ()) else .done ()

/-- The data of an account. -/
def data? (purpose : Purpose) (address : Address) : Inquiry (Option Bytes) :=
  .look purpose address .done

/-- The content of an account, if the account exists. -/
def content? {α : Type} (purpose : Purpose) (decode : Bytes → Except MarketError α)
    (address : Address) : Inquiry (Option α) := do
  match ← data? purpose address with
  | some bytes => return some (← decode bytes)
  | none => return none

/-- The record at an address, if there is one. -/
def record? {α : Type} (decode : Bytes → Except MarketError α) (address : Address) :
    Inquiry (Option α) :=
  content? .record decode address

/-- The record at an address, which must be there. -/
def required {α : Type} (kind : String) (decode : Bytes → Except MarketError α)
    (address : Address) : Inquiry α := do
  match ← record? decode address with
  | some r => return r
  | none => .fail (.recordAbsent kind address.text)

@[simp] theorem eval_remark (data? : Address → Option Bytes) (verbose : Bool) (line : String) :
    eval data? (remark verbose line) = .ok () := by
  cases verbose <;> rfl

@[simp] theorem eval_data? (read : Address → Option Bytes) (purpose : Purpose) (address : Address) :
    eval read (data? purpose address) = .ok (read address) := rfl

theorem eval_content?_eq_ok_iff {α : Type} {read : Address → Option Bytes} {purpose : Purpose}
    {decode : Bytes → Except MarketError α} {address : Address} {content : Option α} :
    eval read (content? purpose decode address) = .ok content ↔
      (read address = none ∧ content = none) ∨
        ∃ bytes r, read address = some bytes ∧ decode bytes = .ok r ∧ content = some r := by
  cases h : read address with
  | none => simp [content?, h, Except.bind, eq_comm]
  | some bytes => cases hdecode : decode bytes <;> simp [content?, h, hdecode, Except.bind, eq_comm]

theorem eval_required_eq_ok_iff {α : Type} {read : Address → Option Bytes} {kind : String}
    {decode : Bytes → Except MarketError α} {address : Address} {r : α} :
    eval read (required kind decode address) = .ok r ↔
      ∃ bytes, read address = some bytes ∧ decode bytes = .ok r := by
  simp only [required, record?, eval_bind_eq_ok_iff, eval_content?_eq_ok_iff]
  constructor
  · rintro ⟨content, ⟨-, rfl⟩ | ⟨bytes, r', hbytes, hdecode, rfl⟩, hr⟩
    · cases hr
    · cases hr
      exact ⟨bytes, hbytes, hdecode⟩
  · rintro ⟨bytes, hbytes, hdecode⟩
    exact ⟨some r, .inr ⟨bytes, r, hbytes, hdecode, rfl⟩, rfl⟩

end Inquiry

end AssetMarket
