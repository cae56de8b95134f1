/-
**Only an asset that somebody has is moved.**

Before an asset changes hands a client makes sure that the one who gives it away has it: the payer
of most operations, the seller of a purchase, the creator of an auction that is claimed.  Whether
somebody has an asset depends on up to four accounts, which are looked at one after the other and
only as far as needed.  This module says which answer the search gives at which state of the
ledger, without the order of the looks, and that no operation goes on where it fails.

The search needs addresses that can be derived and accounts that can be read, but no more of them
than it comes to; `Locatable` asks for just those.

Main definitions:

* `Inquiry.answer` — what an inquiry comes to at a ledger in memory;
* `contentAt?`, `Readable` — what an account can be read as;
* `Holds`, `Deposited` — what accounts and records say of an asset;
* `InWallet`, `InVault` — when an asset is in its owner's wallet, and when in the vault for him;
* `Locatable` — when the search comes to an answer;
* `Operation.moved?`, `Operation.holder?` — the asset that an operation moves, and who must have it.

Main results:

* `eval_locate_cases` — the answer is the wallet, the vault or that the asset is not owned;
* `locatable_of_eval`, `inWallet_or_inVault_of_eval` — what a search that succeeds has found;
* `Operation.exists_locate_of_assembles` — who must have an asset was found to have it;
* `Operation.eval_prepare_of_locate_error` — where he is not, the operation fails in the same way;
* `Operation.ownership_gate` — **an asset is found exactly where it is, and moved only if found**.
-/

import Mathlib.Logic.Basic
import AssetMarket.Proofs.Operation.Events

set_option relaxedAutoImplicit false
set_option autoImplicit false

namespace AssetMarket

namespace Inquiry

variable {α β : Type}

/-- What an inquiry comes to at a ledger in memory. -/
def answer (x : Inquiry α) (d : Desk MemoryLedger) : Except MarketError α :=
  ((x.run MemoryLedger.requests) d).1

theorem answer_eq_eval (x : Inquiry α) (d : Desk MemoryLedger) :
    x.answer d = x.eval d.ledger.data? :=
  (x.run_requests d).1

/-- An inquiry that goes on after a computation that succeeds. -/
theorem eval_liftM_bind {read : Address → Option Bytes} {x : Except MarketError α} {a : α}
    (h : x = .ok a) (f : α → Inquiry β) : eval read (liftM x >>= f) = eval read (f a) :=
  eval_bind_of_eval (by rw [eval_liftM, h]) f

end Inquiry

open Inquiry (eval eval_bind eval_pure eval_liftM eval_liftM_bind eval_bind_of_eval eval_bind_eq_ok_iff
  eval_content?_eq_ok_iff eval_required_eq_ok_iff)

/-! ### What accounts can be read as -/

section

variable {α : Type} (decode : Bytes → Except MarketError α) (read : Address → Option Bytes)
  (a : Address)

/-- What an account can be read as, if it is there and can be. -/
def contentAt? : Option α := do
  let bytes ← read a
  (decode bytes).toOption

/-- An account that is there can be read. -/
def Readable : Prop := ∀ bytes, read a = some bytes → ∃ r, decode bytes = .ok r

end

section

variable {α : Type} {decode : Bytes → Except MarketError α} {read : Address → Option Bytes}
  {a : Address}

theorem eval_content?_of_readable (h : Readable decode read a) (purpose : Purpose) :
    (Inquiry.content? purpose decode a).eval read = .ok (contentAt? decode read a) := by
  rw [eval_content?_eq_ok_iff]
  cases hread : read a with
  | none => exact .inl ⟨rfl, by simp [contentAt?, hread]⟩
  | some bytes =>
      obtain ⟨r, hdecode⟩ := h bytes hread
      exact .inr ⟨bytes, r, rfl, hdecode, by simp [contentAt?, hread, hdecode, Except.toOption]⟩

/-- A place has an address, and what is there can be read. -/
def Place.Readable (p : Place) (decode : Bytes → Except MarketError α)
    (read : Address → Option Bytes) (market : Address) : Prop :=
  ∃ a, p.address market = .ok a ∧ AssetMarket.Readable decode read a

theorem eval_record?_of_readable {p : Place} {market : Address}
    (h : p.Readable decode read market) :
    eval read (do Inquiry.record? decode (← p.address market))
      = .ok (p.stored? decode read market) := by
  obtain ⟨a, ha, hreadable⟩ := h
  have hstored : p.stored? decode read market = contentAt? decode read a := by
    simp [Place.stored?, contentAt?, ha, Except.toOption]
  rw [eval_liftM_bind ha, hstored]
  exact eval_content?_of_readable hreadable .record

end

/-! ### Where an asset is -/

section

variable (read : Address → Option Bytes) (market owner mint : Address)

/-- An account holds some of a mint. -/
def Holds (account : Address) : Prop :=
  ∃ token, contentAt? TokenAccount.decode read account = some token ∧
    token.mint = mint ∧ 0 < token.amount

/-- An owner has deposited an asset in the vault: to sell it, or to have it bid for. -/
def Deposited : Prop :=
  (∃ listing, storedListing? read market mint = some listing ∧
    listing.isLive = true ∧ listing.seller = owner) ∨
  ∃ auction, storedAuction? read market mint = some auction ∧
    auction.isLive = true ∧ auction.creator = owner

/-- An asset is in its owner's wallet. -/
structure InWallet (wallet : Address) : Prop where
  account : associatedAccount owner mint = .ok wallet
  token : ∃ token, contentAt? TokenAccount.decode read wallet = some token ∧
    token.mint = mint ∧ 0 < token.amount ∧ token.owner = owner

/-- An asset is in the vault, and belongs to an owner whose wallet has none of it. -/
structure InVault (vault : Address) : Prop where
  wallet : ∀ wallet, associatedAccount owner mint = .ok wallet → ¬Holds read mint wallet
  account : vaultAccount market mint = .ok vault
  holds : Holds read mint vault
  deposited : Deposited read market owner mint

/-- All that the search for an asset comes to look at has an address and can be read. -/
structure Locatable : Prop where
  wallet : ∃ wallet, associatedAccount owner mint = .ok wallet ∧
    Readable TokenAccount.decode read wallet
  /-- The vault is looked at only if the wallet has none. -/
  vault : (∀ wallet, associatedAccount owner mint = .ok wallet → ¬Holds read mint wallet) →
    ∃ vault, vaultAccount market mint = .ok vault ∧ Readable TokenAccount.decode read vault ∧
      (Holds read mint vault → (Place.listing mint).Readable Listing.decode read market ∧
        (Place.auction mint).Readable Auction.decode read market)

end

variable {read : Address → Option Bytes} {market owner mint : Address}

theorem TokenAccount.holds_eq_true_iff {token : TokenAccount} :
    token.holds mint = true ↔ token.mint = mint ∧ 0 < token.amount := by
  simp [holds]

theorem InWallet.holds {wallet : Address} (h : InWallet read owner mint wallet) :
    Holds read mint wallet := by
  obtain ⟨token, htoken, hmint, hamount, -⟩ := h.token
  exact ⟨token, htoken, hmint, hamount⟩

/-- An asset that is in its owner's wallet is not in the vault for him. -/
theorem InWallet.not_inVault {wallet vault : Address} (h : InWallet read owner mint wallet) :
    ¬InVault read market owner mint vault :=
  fun hvault => hvault.wallet wallet h.account h.holds

/-- What is held at an account that can be read. -/
theorem eval_holding?_of_readable {a : Address} (h : Readable TokenAccount.decode read a) :
    (∃ token, (holding? a mint).eval read = .ok (some token) ∧
        contentAt? TokenAccount.decode read a = some token ∧ token.mint = mint ∧
        0 < token.amount) ∨
      (holding? a mint).eval read = .ok none ∧ ¬Holds read mint a := by
  have heval : (holding? a mint).eval read
      = .ok ((contentAt? TokenAccount.decode read a).filter (·.holds mint)) := by
    rw [holding?, eval_bind_of_eval (eval_content?_of_readable h .token)]
    rfl
  rw [heval]
  cases hfilter : (contentAt? TokenAccount.decode read a).filter (·.holds mint) with
  | none =>
      refine .inr ⟨rfl, ?_⟩
      rintro ⟨token, htoken, hholds⟩
      rw [Option.filter_eq_none_iff] at hfilter
      exact hfilter token htoken (TokenAccount.holds_eq_true_iff.2 hholds)
  | some token =>
      obtain ⟨htoken, hholds⟩ := Option.filter_eq_some_iff.1 hfilter
      exact .inl ⟨token, rfl, htoken, TokenAccount.holds_eq_true_iff.1 hholds⟩

/-- Those that are found to have deposited an asset are those that have. -/
theorem eval_depositors_of_readable
    (hlisting : (Place.listing mint).Readable Listing.decode read market)
    (hauction : (Place.auction mint).Readable Auction.decode read market) :
    ∃ owners, (depositors market mint).eval read = .ok owners ∧
      ∀ owner, owner ∈ owners ↔ Deposited read market owner mint := by
  have heval : (depositors market mint).eval read
      = .ok ((((storedListing? read market mint).filter (·.isLive)).map (·.seller)).toList
          ++ (((storedAuction? read market mint).filter (·.isLive)).map (·.creator)).toList) := by
    rw [depositors, listing?, auction?, eval_bind_of_eval (eval_record?_of_readable hlisting),
      eval_bind_of_eval (eval_record?_of_readable hauction)]
    rfl
  refine ⟨_, heval, fun owner => ?_⟩
  simp [Deposited, Option.filter_eq_some_iff, and_assoc]

/-- The search in the vault, for an owner whose wallet has none. -/
theorem eval_locateInVault_cases (h : Locatable read market owner mint)
    (hwallet : ∀ wallet, associatedAccount owner mint = .ok wallet → ¬Holds read mint wallet) :
    (∃ vault, InVault read market owner mint vault ∧
        (locateInVault market owner mint).eval read = .ok (.vault vault)) ∨
      (∀ vault, ¬InVault read market owner mint vault) ∧
        (locateInVault market owner mint).eval read
          = .error (.assetNotOwned mint.text owner.text) := by
  obtain ⟨vault, hvault, hreadable, hrecords⟩ := h.vault hwallet
  have hunique {v : Address} (hv : InVault read market owner mint v) : v = vault := by
    have hsame := hv.account
    rw [hvault] at hsame
    exact (Except.ok.inj hsame).symm
  rw [locateInVault, eval_liftM_bind hvault]
  rcases eval_holding?_of_readable hreadable with ⟨token, hholding, htoken⟩ | ⟨hholding, hempty⟩
  · rw [eval_bind_of_eval hholding]
    have hholds : Holds read mint vault := ⟨token, htoken⟩
    obtain ⟨hlisting, hauction⟩ := hrecords hholds
    obtain ⟨owners, howners, hmem⟩ := eval_depositors_of_readable hlisting hauction
    simp only [Option.isSome_some, if_true]
    rw [eval_bind_of_eval howners]
    by_cases hdeposited : Deposited read market owner mint
    · refine .inl ⟨vault, ⟨hwallet, hvault, hholds, hdeposited⟩, ?_⟩
      rw [if_pos ((hmem owner).2 hdeposited), eval_pure]
    · refine .inr ⟨fun v hv => hdeposited hv.deposited, ?_⟩
      rw [if_neg fun howner => hdeposited ((hmem owner).1 howner)]
      rfl
  · refine .inr ⟨fun v hv => hempty (hunique hv ▸ hv.holds), ?_⟩
    rw [eval_bind_of_eval hholding]
    rfl

/-- The search answers the wallet, the vault, or that the asset is not owned. -/
theorem eval_locate_cases (h : Locatable read market owner mint) :
    (∃ wallet, InWallet read owner mint wallet ∧
        (locate market owner mint).eval read = .ok (.wallet wallet)) ∨
      (∃ vault, InVault read market owner mint vault ∧
        (locate market owner mint).eval read = .ok (.vault vault)) ∨
      (∀ wallet, ¬InWallet read owner mint wallet) ∧
        (∀ vault, ¬InVault read market owner mint vault) ∧
        (locate market owner mint).eval read
          = .error (.assetNotOwned mint.text owner.text) := by
  obtain ⟨wallet, hwallet, hreadable⟩ := h.wallet
  have hunique {w : Address} (hw : associatedAccount owner mint = .ok w) : w = wallet := by
    rw [hwallet] at hw
    exact (Except.ok.inj hw).symm
  rw [locate, eval_liftM_bind hwallet]
  rcases eval_holding?_of_readable hreadable with
    ⟨token, hholding, htoken, hmint, hamount⟩ | ⟨hholding, hempty⟩
  · rw [eval_bind_of_eval hholding]
    by_cases howner : token.owner = owner
    · refine .inl ⟨wallet, ⟨hwallet, token, htoken, hmint, hamount, howner⟩, ?_⟩
      simp [TokenAccount.checkOwner, howner, Except.bind]
    · -- An account of somebody else ends the search: the vault is not looked at.
      refine .inr (.inr ⟨?_, ?_, ?_⟩)
      · rintro w ⟨hw, token', htoken', -, -, howner'⟩
        rw [hunique hw, htoken] at htoken'
        cases htoken'
        exact howner howner'
      · intro v hv
        exact hv.wallet wallet hwallet ⟨token, htoken, hmint, hamount⟩
      · simp [TokenAccount.checkOwner, howner, Except.bind]
  · rw [eval_bind_of_eval hholding]
    have hnone : ∀ w, associatedAccount owner mint = .ok w → ¬Holds read mint w := by
      intro w hw
      rw [hunique hw]
      exact hempty
    have hnot : ∀ w, ¬InWallet read owner mint w := fun w hw => hnone w hw.account hw.holds
    rcases eval_locateInVault_cases h hnone with hvault | ⟨hno, herror⟩
    · exact .inr (.inl hvault)
    · exact .inr (.inr ⟨hnot, hno, herror⟩)

/-- Each answer of the search is given exactly where it is right. -/
theorem locate_iff (h : Locatable read market owner mint) :
    (∀ wallet, (locate market owner mint).eval read = .ok (.wallet wallet) ↔
      InWallet read owner mint wallet) ∧
    (∀ vault, (locate market owner mint).eval read = .ok (.vault vault) ↔
      InVault read market owner mint vault) ∧
    ((∀ wallet, ¬InWallet read owner mint wallet) →
      (∀ vault, ¬InVault read market owner mint vault) →
      (locate market owner mint).eval read = .error (.assetNotOwned mint.text owner.text)) := by
  rcases eval_locate_cases h with ⟨w, hw, heval⟩ | ⟨v, hv, heval⟩ | ⟨hnowallet, hnovault, heval⟩
  · rw [heval]
    refine ⟨fun wallet => ⟨?_, ?_⟩, fun vault => ⟨?_, ?_⟩, fun hnone => absurd hw (hnone w)⟩
    · rintro ⟨⟩
      exact hw
    · intro hwallet
      rw [Except.ok.inj (hw.account.symm.trans hwallet.account)]
    · rintro ⟨⟩
    · exact fun hvault => absurd hvault hw.not_inVault
  · rw [heval]
    refine ⟨fun wallet => ⟨?_, ?_⟩, fun vault => ⟨?_, ?_⟩, fun _ hnone => absurd hv (hnone v)⟩
    · rintro ⟨⟩
    · exact fun hwallet => absurd hv hwallet.not_inVault
    · rintro ⟨⟩
      exact hv
    · intro hvault
      rw [Except.ok.inj (hv.account.symm.trans hvault.account)]
  · rw [heval]
    refine ⟨fun wallet => ⟨?_, ?_⟩, fun vault => ⟨?_, ?_⟩, fun _ _ => rfl⟩
    · rintro ⟨⟩
    · exact fun hwallet => absurd hwallet (hnowallet wallet)
    · rintro ⟨⟩
    · exact fun hvault => absurd hvault (hnovault vault)

/-! ### Searches that succeed -/

theorem readable_of_eval_content? {α : Type} {decode : Bytes → Except MarketError α} {a : Address}
    {purpose : Purpose} {content : Option α}
    (h : (Inquiry.content? purpose decode a).eval read = .ok content) : Readable decode read a := by
  intro bytes hbytes
  rcases eval_content?_eq_ok_iff.1 h with ⟨hnone, -⟩ | ⟨bytes', r, hread, hdecode, -⟩
  · rw [hbytes] at hnone
    cases hnone
  · rw [hbytes] at hread
    cases hread
    exact ⟨r, hdecode⟩

theorem readable_of_eval_holding? {a : Address} {holding : Option TokenAccount}
    (h : (holding? a mint).eval read = .ok holding) : Readable TokenAccount.decode read a := by
  obtain ⟨token, htoken, -⟩ := eval_bind_eq_ok_iff.1 h
  exact readable_of_eval_content? htoken

theorem readable_of_eval_record? {α : Type} {decode : Bytes → Except MarketError α} {p : Place}
    {r : Option α} (h : eval read (do Inquiry.record? decode (← p.address market)) = .ok r) :
    p.Readable decode read market := by
  obtain ⟨a, ha, hrecord⟩ := eval_bind_eq_ok_iff.1 h
  rw [eval_liftM] at ha
  exact ⟨a, ha, readable_of_eval_content? hrecord⟩

/-- Where the search succeeds, all that it came to look at could be read. -/
theorem locatable_of_eval {location : AssetLocation}
    (h : (locate market owner mint).eval read = .ok location) :
    Locatable read market owner mint := by
  obtain ⟨wallet, hwallet, h⟩ := eval_bind_eq_ok_iff.1 h
  rw [eval_liftM] at hwallet
  obtain ⟨holding, hholding, h⟩ := eval_bind_eq_ok_iff.1 h
  have hreadable := readable_of_eval_holding? hholding
  refine ⟨⟨wallet, hwallet, hreadable⟩, fun hempty => ?_⟩
  -- an empty wallet makes the search go on in the vault
  obtain rfl : holding = none := by
    rcases eval_holding?_of_readable hreadable with ⟨token, -, htoken⟩ | ⟨hnone, -⟩
    · exact absurd ⟨token, htoken⟩ (hempty wallet hwallet)
    · exact Except.ok.inj (hholding.symm.trans hnone)
  obtain ⟨vault, hvault, h⟩ := eval_bind_eq_ok_iff.1 h
  rw [eval_liftM] at hvault
  obtain ⟨holding, hholding, h⟩ := eval_bind_eq_ok_iff.1 h
  refine ⟨vault, hvault, readable_of_eval_holding? hholding, fun _ => ?_⟩
  cases holding with
  | none => cases h
  | some token =>
      obtain ⟨owners, howners, -⟩ := eval_bind_eq_ok_iff.1 h
      obtain ⟨listing, hlisting, howners⟩ := eval_bind_eq_ok_iff.1 howners
      obtain ⟨auction, hauction, -⟩ := eval_bind_eq_ok_iff.1 howners
      exact ⟨readable_of_eval_record? hlisting, readable_of_eval_record? hauction⟩

/-- What the search finds is there. -/
theorem inWallet_or_inVault_of_eval {location : AssetLocation}
    (h : (locate market owner mint).eval read = .ok location) :
    InWallet read owner mint location.account ∨ InVault read market owner mint location.account := by
  obtain ⟨hwallet, hvault, -⟩ := locate_iff (locatable_of_eval h)
  cases location with
  | wallet account => exact .inl ((hwallet account).1 h)
  | vault account => exact .inr ((hvault account).1 h)

/-! ### Who must have what is moved -/

theorem toOption_eq_some_iff {α : Type} {x : Except MarketError α} {a : α} :
    x.toOption = some a ↔ x = .ok a := by
  cases x <;> simp [Except.toOption]

theorem eval_required_of_stored? {α : Type} {decode : Bytes → Except MarketError α} {p : Place}
    {r : α} (h : p.stored? decode read market = some r) (kind : String) :
    eval read (do Inquiry.required kind decode (← p.address market)) = .ok r := by
  simp only [Place.stored?, Option.bind_eq_bind, Option.bind_eq_some_iff,
    toOption_eq_some_iff] at h
  obtain ⟨a, ha, bytes, hread, hdecode⟩ := h
  rw [eval_liftM_bind ha]
  exact eval_required_eq_ok_iff.2 ⟨bytes, hread, hdecode⟩

namespace Operation

/-- The mint of the asset that an operation moves. -/
def moved? : Operation → Option Address
  | .list mint _ => some mint
  | .delist mint => some mint
  | .transfer mint _ => some mint
  | .purchase mint => some mint
  | .acceptOffer mint _ => some mint
  | .createAuction mint _ => some mint
  | .claimAuction mint => some mint
  | .cancelAuction mint => some mint
  | _ => none

/-- Who must have the asset that an operation moves.  Where somebody else gives it away than the one
that pays, the stored record says who. -/
def holder? (op : Operation) (read : Address → Option Bytes) (market payer : Address) :
    Option Address :=
  match op with
  | .purchase mint => (storedListing? read market mint).map (·.seller)
  | .claimAuction mint => (storedAuction? read market mint).map (·.creator)
  | _ => some payer

variable {ctx : Context} {source : CreatorSource} {payer : Address} {op : Operation}

/-- Who must have an asset was found to have it. -/
theorem exists_locate_of_assembles {call : Call} {create : Option Instruction}
    (h : Assembles read ctx source payer op call create) (hmoved : op.moved? = some mint) :
    ∃ party location, op.holder? read ctx.market payer = some party ∧
      (locate ctx.market party mint).eval read = .ok location := by
  cases h with
  | direct hcall => cases op <;> cases hcall <;> cases hmoved
  | placeBid hauction => cases hmoved
  | list haccount hcreate | createAuction haccount hcreate =>
      cases hmoved
      obtain ⟨location, hlocation, -⟩ := eval_bind_eq_ok_iff.1 haccount
      exact ⟨payer, location, rfl, hlocation⟩
  | purchase hlisting hlocation hcreate hremaining =>
      cases hmoved
      refine ⟨_, _, ?_, hlocation⟩
      rw [holder?, storedListing?, stored?_of_eval_required hlisting, Option.map_some]
  | claimAuction hauction hlocation hcreate hremaining =>
      cases hmoved
      refine ⟨_, _, ?_, hlocation⟩
      rw [holder?, storedAuction?, stored?_of_eval_required hauction, Option.map_some]
  | delist hlocation hcreate | transfer hlocation hcreate | transferFromVault hlocation hcreate
  | acceptOffer hlocation hcreate hremaining | cancelAuction hlocation hcreate =>
      cases hmoved
      exact ⟨payer, _, rfl, hlocation⟩

/-- Where the search for the asset fails, the assembly fails in the same way. -/
theorem eval_assemble_of_locate_error {party : Address} {e : MarketError}
    (hmoved : op.moved? = some mint)
    (hparty : op.holder? read ctx.market payer = some party)
    (hlocate : (locate ctx.market party mint).eval read = .error e) :
    (op.assemble ctx source payer).eval read = .error e := by
  cases op with
  | list mint price | createAuction mint terms =>
      cases hmoved
      cases hparty
      rw [assemble, depositSource, eval_bind, eval_bind, hlocate]
      rfl
  | delist mint | transfer mint recipient | acceptOffer mint buyer | cancelAuction mint =>
      cases hmoved
      cases hparty
      rw [assemble, eval_bind, hlocate]
      rfl
  | purchase mint =>
      cases hmoved
      obtain ⟨listing, hlisting, rfl⟩ := Option.map_eq_some_iff.1 hparty
      have hrequire : (requireListing ctx.market mint).eval read = .ok listing :=
        eval_required_of_stored? hlisting _
      rw [assemble, eval_bind_of_eval hrequire, eval_bind, hlocate]
      rfl
  | claimAuction mint =>
      cases hmoved
      obtain ⟨auction, hauction, rfl⟩ := Option.map_eq_some_iff.1 hparty
      have hrequire : (requireAuction ctx.market mint).eval read = .ok auction :=
        eval_required_of_stored? hauction _
      rw [assemble, eval_bind_of_eval hrequire, eval_bind, hlocate]
      rfl
  | _ => cases hmoved

theorem eval_prepare_of_locate_error {party : Address} {e : MarketError}
    (hmoved : op.moved? = some mint)
    (hparty : op.holder? read ctx.market payer = some party)
    (hlocate : (locate ctx.market party mint).eval read = .error e) :
    (op.prepare ctx source payer).eval read = .error e :=
  eval_prepare_of_assemble_error (eval_assemble_of_locate_error hmoved hparty hlocate)

/-! ### The gate -/

/-- **An asset is found exactly where it is, and moved only if it was found.**  Where all that is
looked at can be read, the search answers the wallet if the asset is in the wallet, the vault if it
is there for this owner, and otherwise that it is not owned.  At every state an operation that moves
an asset becomes a transaction only if the search for it succeeds, for the one who must have it;
where the search fails the operation fails with the same error, and so it does if the record that
says who must have the asset is not there. -/
theorem ownership_gate (d : Desk MemoryLedger) (ctx : Context) (source : CreatorSource)
    (payer : Address) :
    (∀ owner mint, Locatable d.ledger.data? ctx.market owner mint →
      (∀ wallet, (locate ctx.market owner mint).answer d = .ok (.wallet wallet) ↔
        InWallet d.ledger.data? owner mint wallet) ∧
      (∀ vault, (locate ctx.market owner mint).answer d = .ok (.vault vault) ↔
        InVault d.ledger.data? ctx.market owner mint vault) ∧
      ((∀ wallet, ¬InWallet d.ledger.data? owner mint wallet) →
        (∀ vault, ¬InVault d.ledger.data? ctx.market owner mint vault) →
        (locate ctx.market owner mint).answer d
          = .error (.assetNotOwned mint.text owner.text))) ∧
    ∀ (op : Operation) (mint : Address), op.moved? = some mint →
      (∀ tx, (op.prepare ctx source payer).answer d = .ok tx →
        ∃ party location, op.holder? d.ledger.data? ctx.market payer = some party ∧
          (locate ctx.market party mint).answer d = .ok location) ∧
      (op.holder? d.ledger.data? ctx.market payer = none →
        ∃ e, (op.prepare ctx source payer).answer d = .error e) ∧
      ∀ party e, op.holder? d.ledger.data? ctx.market payer = some party →
        (locate ctx.market party mint).answer d = .error e →
        (op.prepare ctx source payer).answer d = .error e := by
  simp only [Inquiry.answer_eq_eval]
  constructor
  · intro owner mint h
    exact locate_iff h
  · intro op mint hmoved
    have hfound : ∀ tx, (op.prepare ctx source payer).eval d.ledger.data? = .ok tx →
        ∃ party location, op.holder? d.ledger.data? ctx.market payer = some party ∧
          (locate ctx.market party mint).eval d.ledger.data? = .ok location := by
      intro tx htx
      obtain ⟨_, _, _, _, -, hcall, -, -⟩ := parts_of_eval_prepare htx
      exact exists_locate_of_assembles hcall hmoved
    refine ⟨hfound, fun hnone => ?_, fun party e => eval_prepare_of_locate_error hmoved⟩
    cases hprepare : (op.prepare ctx source payer).eval d.ledger.data? with
    | error e => exact ⟨e, rfl⟩
    | ok tx =>
        obtain ⟨party, location, hparty, -⟩ := hfound tx hprepare
        rw [hnone] at hparty
        cases hparty

/-- A single token, found in the wallet of its owner. -/
theorem ownership_gate_wallet :
    ∃ (d : Desk MemoryLedger) (wallet : Address),
      Locatable d.ledger.data? Address.marketplace (.ofNumber 1) (.ofNumber 2) ∧
      (locate Address.marketplace (.ofNumber 1) (.ofNumber 2)).answer d
        = .ok (.wallet wallet) := by
  have hderives : (associatedAccount (.ofNumber 1) (.ofNumber 2)).isOk := by decide +kernel
  obtain ⟨wallet, haccount⟩ := exists_eq_ok_of_isOk hderives
  let token : TokenAccount := ⟨.ofNumber 2, .ofNumber 1, 1⟩
  let d : Desk MemoryLedger :=
    ⟨(MemoryLedger.empty Address.marketplace).insertAccount wallet
      ⟨Address.tokenProgram, 0, token.encode⟩, []⟩
  have hread : d.ledger.data? wallet = some token.encode := by
    simp [d, MemoryLedger.data?, MemoryLedger.insertAccount]
  have hdecode : TokenAccount.decode token.encode = .ok token := by decide +kernel
  have hcontent : contentAt? TokenAccount.decode d.ledger.data? wallet = some token := by
    simp [contentAt?, hread, hdecode, Except.toOption]
  have hreadable : Readable TokenAccount.decode d.ledger.data? wallet := by
    intro bytes hbytes
    rw [hread] at hbytes
    cases hbytes
    exact ⟨token, hdecode⟩
  have hin : InWallet d.ledger.data? (.ofNumber 1) (.ofNumber 2) wallet :=
    ⟨haccount, token, hcontent, rfl, by decide, rfl⟩
  have hlocatable : Locatable d.ledger.data? Address.marketplace (.ofNumber 1) (.ofNumber 2) :=
    { wallet := ⟨wallet, haccount, hreadable⟩
      vault := fun hnone => absurd hin.holds (hnone wallet haccount) }
  obtain ⟨hlocate, -⟩ := ownership_gate d .default .recorded (.ofNumber 1)
  exact ⟨d, wallet, hlocatable, ((hlocate _ _ hlocatable).1 wallet).2 hin⟩

end Operation

end AssetMarket
