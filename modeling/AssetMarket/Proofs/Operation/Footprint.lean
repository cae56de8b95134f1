/-
**A preparation depends on few accounts.**

Which accounts a client looks at while it prepares a transaction is not known beforehand: who sells
an asset is read from its listing, and only then is it known whose token account is looked at next.
The looks of an inquiry are therefore listed along its course at one ledger.  Another ledger that
answers these looks alike leads along the same course to the same result, whatever else it holds.

For an operation all the looks go to a few places, which its payer, its mint and the records of this
mint tell.  So coins, owners, other accounts, the history and what was submitted before have no part
in a prepared transaction.

Main definitions:

* `Inquiry.looks`, `Inquiry.LooksWithin` — the accounts that an inquiry looks at;
* `Operation.Party`, `Operation.Consults` — the places that an operation can come to look at.

Main results:

* `Inquiry.eval_congr_looks` — only what is looked at matters;
* `Inquiry.LooksWithin.bind` — the looks of an inquiry after another;
* `Operation.looksWithin_prepare` — a preparation looks at no other places;
* `Operation.prepare_depends_on_consulted` — **what is prepared depends on these places alone**.
-/

import AssetMarket.Proofs.Address.Place
import AssetMarket.Proofs.Operation.Recipients

set_option relaxedAutoImplicit false
set_option autoImplicit false

namespace AssetMarket

namespace Inquiry

variable {α β : Type} {read read' : Address → Option Bytes}

/-! ### The looks of an inquiry -/

/-- The accounts that an inquiry looks at, in order, given the data of all accounts. -/
def looks (read : Address → Option Bytes) : Inquiry α → List Address
  | .done _ => []
  | .fail _ => []
  | .say _ next => next.looks read
  | .look _ address next => address :: (next (read address)).looks read

/-- **Only what is looked at matters.** -/
theorem eval_congr_looks {x : Inquiry α} (h : ∀ a ∈ x.looks read, read a = read' a) :
    x.eval read = x.eval read' := by
  induction x with
  | done a => rfl
  | fail e => rfl
  | say line next ih => exact ih h
  | look purpose address next ih =>
      -- the first look is answered alike, so both go on with the same inquiry
      have hfirst : read address = read' address := h address List.mem_cons_self
      rw [eval, eval, ← hfirst]
      exact ih (read address) fun a ha => h a (List.mem_cons_of_mem address ha)

/-- All accounts that an inquiry looks at are among some. -/
def LooksWithin (P : Address → Prop) (read : Address → Option Bytes) (x : Inquiry α) : Prop :=
  ∀ a ∈ x.looks read, P a

variable {P : Address → Prop}

theorem looksWithin_pure (a : α) : (pure a : Inquiry α).LooksWithin P read := nofun

theorem looksWithin_fail (e : MarketError) : (fail e : Inquiry α).LooksWithin P read := nofun

theorem looksWithin_lift (x : Except MarketError α) :
    (liftM x : Inquiry α).LooksWithin P read := by
  cases x <;> exact nofun

theorem looksWithin_remark (verbose : Bool) (line : String) :
    (remark verbose line).LooksWithin P read := by
  cases verbose <;> exact nofun

theorem looksWithin_data? {address : Address} (h : P address) (purpose : Purpose) :
    (data? purpose address).LooksWithin P read := by
  intro a ha
  rw [List.mem_singleton.1 ha]
  exact h

/-- The second inquiry matters only where the first one succeeds, and with its result. -/
theorem LooksWithin.bind {x : Inquiry α} {f : α → Inquiry β} (hx : x.LooksWithin P read)
    (hf : ∀ a, x.eval read = .ok a → (f a).LooksWithin P read) :
    (x >>= f).LooksWithin P read := by
  induction x with
  | done a => exact hf a rfl
  | fail e => exact nofun
  | say line next ih => exact ih hx hf
  | look purpose address next ih =>
      intro a ha
      -- the answer to the first look decides how both of them go on
      rcases List.mem_cons.1 ha with rfl | ha
      · exact hx _ List.mem_cons_self
      · exact ih (read address) (fun b hb => hx b (List.mem_cons_of_mem address hb)) hf a ha

theorem looksWithin_lift_bind {x : Except MarketError α} {f : α → Inquiry β}
    (hf : ∀ a, x = .ok a → (f a).LooksWithin P read) :
    ((liftM x : Inquiry α) >>= f).LooksWithin P read :=
  (looksWithin_lift x).bind fun a ha => hf a (by rwa [eval_liftM] at ha)

variable {purpose : Purpose} {decode : Bytes → Except MarketError α} {address : Address}

theorem looksWithin_content? (h : P address) :
    (content? purpose decode address).LooksWithin P read := by
  refine (looksWithin_data? h purpose).bind fun data _ => ?_
  cases data with
  | none => exact looksWithin_pure none
  | some bytes => exact looksWithin_lift_bind fun r _ => looksWithin_pure (some r)

theorem looksWithin_required (h : P address) (kind : String) :
    (required kind decode address).LooksWithin P read := by
  refine (looksWithin_content? h).bind fun r _ => ?_
  cases r with
  | none => exact looksWithin_fail _
  | some r => exact looksWithin_pure r

end Inquiry

open Inquiry (looksWithin_pure looksWithin_fail looksWithin_lift looksWithin_lift_bind
  looksWithin_remark looksWithin_data? looksWithin_content? looksWithin_required)

/-! ### The looks of assembling -/

/-- The address that is found, if one is, is among some. -/
def FoundWithin (P : Address → Prop) (x : Except MarketError Address) : Prop :=
  ∀ a, x = .ok a → P a

/-- The places of a mint, the vault's account for it and the settings are among some. -/
structure MintWithin (P : Address → Prop) (market mint : Address) : Prop where
  listing : FoundWithin P ((Place.listing mint).address market)
  auction : FoundWithin P ((Place.auction mint).address market)
  global : FoundWithin P (Place.global.address market)
  vault : FoundWithin P (vaultAccount market mint)
  metadata : FoundWithin P (metadataAddress mint)

section

variable {P : Address → Prop} {read : Address → Option Bytes} {ctx : Context}
  {market payer owner mint : Address}

theorem looksWithin_holding? {account : Address} (h : P account) :
    (holding? account mint).LooksWithin P read :=
  (looksWithin_content? h).bind fun _ _ => looksWithin_pure _

theorem looksWithin_listing? (h : FoundWithin P ((Place.listing mint).address market)) :
    (listing? market mint).LooksWithin P read :=
  looksWithin_lift_bind fun a ha => looksWithin_content? (h a ha)

theorem looksWithin_auction? (h : FoundWithin P ((Place.auction mint).address market)) :
    (auction? market mint).LooksWithin P read :=
  looksWithin_lift_bind fun a ha => looksWithin_content? (h a ha)

theorem looksWithin_requireListing (h : FoundWithin P ((Place.listing mint).address market)) :
    (requireListing market mint).LooksWithin P read :=
  looksWithin_lift_bind fun a ha => looksWithin_required (h a ha) _

theorem looksWithin_requireAuction (h : FoundWithin P ((Place.auction mint).address market)) :
    (requireAuction market mint).LooksWithin P read :=
  looksWithin_lift_bind fun a ha => looksWithin_required (h a ha) _

theorem looksWithin_locateInVault (h : MintWithin P market mint) :
    (locateInVault market owner mint).LooksWithin P read := by
  refine looksWithin_lift_bind fun vault hvault => ?_
  refine (looksWithin_holding? (h.vault vault hvault)).bind fun holding _ => ?_
  cases holding with
  | none => exact looksWithin_fail _
  | some token =>
      have hdepositors : (depositors market mint).LooksWithin P read :=
        (looksWithin_listing? h.listing).bind fun _ _ =>
          (looksWithin_auction? h.auction).bind fun _ _ => looksWithin_pure _
      refine hdepositors.bind fun owners _ => ?_
      by_cases howner : owner ∈ owners
      · rw [if_pos howner]
        exact looksWithin_pure _
      · rw [if_neg howner]
        exact looksWithin_fail _

/-- Where an asset is sought, the wallet and the places of the mint are looked at. -/
theorem looksWithin_locate (h : MintWithin P market mint)
    (hwallet : FoundWithin P (associatedAccount owner mint)) :
    (locate market owner mint).LooksWithin P read := by
  refine looksWithin_lift_bind fun wallet hfound => ?_
  refine (looksWithin_holding? (hwallet wallet hfound)).bind fun holding _ => ?_
  cases holding with
  | none => exact looksWithin_locateInVault h
  | some token => exact looksWithin_lift_bind fun _ _ => looksWithin_pure _

theorem looksWithin_ensureAccount {verbose : Bool}
    (h : FoundWithin P (associatedAccount owner mint)) :
    (ensureAccount verbose payer owner mint).LooksWithin P read := by
  refine looksWithin_lift_bind fun account haccount => ?_
  refine (looksWithin_data? (h account haccount) .record).bind fun data _ => ?_
  cases data with
  | some bytes => exact looksWithin_pure _
  | none =>
      exact (looksWithin_remark verbose _).bind fun _ _ =>
        looksWithin_lift_bind fun _ _ => looksWithin_pure _

theorem looksWithin_remainingAccounts (h : MintWithin P market mint) (source : CreatorSource) :
    (remainingAccounts market source mint).LooksWithin P read := by
  have hmetadata : (assetMetadata mint).LooksWithin P read := by
    refine looksWithin_lift_bind fun a ha => (looksWithin_content? (h.metadata a ha)).bind ?_
    rintro (_ | m) _
    · exact looksWithin_fail _
    · exact looksWithin_pure m
  have hcreators : (source.creators mint).LooksWithin P read := by
    cases source with
    | fixed creators => exact looksWithin_pure creators
    | recorded => exact hmetadata.bind fun _ _ => looksWithin_pure _
  exact looksWithin_lift_bind fun a ha => (looksWithin_required (h.global a ha) _).bind fun _ _ =>
    hcreators.bind fun _ _ => looksWithin_pure _

theorem looksWithin_depositSource (h : MintWithin P market mint)
    (hwallet : FoundWithin P (associatedAccount owner mint)) :
    (depositSource market owner mint).LooksWithin P read := by
  refine (looksWithin_locate h hwallet).bind fun location _ => ?_
  cases location with
  | wallet account => exact looksWithin_pure account
  | vault account => exact looksWithin_lift _

theorem looksWithin_openVault? (h : MintWithin P ctx.market mint) :
    (openVault? ctx payer mint).LooksWithin P read := by
  refine looksWithin_lift_bind fun global hglobal => ?_
  have hvault : FoundWithin P (associatedAccount global mint) := fun a ha =>
    h.vault a (vaultAccount_eq_ok_iff.2 ⟨global, hglobal, ha⟩)
  exact (looksWithin_ensureAccount hvault).bind fun _ _ => looksWithin_pure _

end

namespace Operation

/-! ### The places of an operation -/

/-- The other party where an operation names one. -/
def namedParty? : Operation → Option Address
  | .transfer _ recipient => some recipient
  | .acceptOffer _ buyer => some buyer
  | _ => none

section

variable (op : Operation) (read : Address → Option Bytes) (market payer : Address)

/-- Those whose token accounts for a mint an operation can come to look at. -/
inductive Party (mint : Address) : Address → Prop
  | payer : Party mint payer
  | named {party : Address} (h : op.namedParty? = some party) : Party mint party
  | seller {listing : Listing} (h : storedListing? read market mint = some listing) :
      Party mint listing.seller
  | creator {auction : Auction} (h : storedAuction? read market mint = some auction) :
      Party mint auction.creator
  /-- The settings record, which owns what the vault holds. -/
  | vault {global : Address} (h : Place.global.address market = .ok global) : Party mint global

/-- The places that an operation can come to look at. -/
inductive Consults : Place → Prop
  | user : Consults (.user payer)
  | global : Consults .global
  | listing {mint : Address} (h : op.mint? = some mint) : Consults (.listing mint)
  | auction {mint : Address} (h : op.mint? = some mint) : Consults (.auction mint)
  | offer {mint : Address} (h : op.mint? = some mint) : Consults (.offer mint payer)
  | metadata {mint : Address} (h : op.mint? = some mint) : Consults (.metadata mint)
  | tokenAccount {mint party : Address} (h : op.mint? = some mint)
      (hparty : Party op read market payer mint party) : Consults (.tokenAccount party mint)

/-- The address of such a place. -/
def Consulted (a : Address) : Prop :=
  ∃ p, op.Consults read market payer p ∧ p.address market = .ok a

end

variable {op : Operation} {read : Address → Option Bytes} {ctx : Context} {source : CreatorSource}
  {market payer mint : Address}

theorem foundWithin_tokenAccount {party : Address} (h : op.mint? = some mint)
    (hparty : op.Party read market payer mint party) :
    FoundWithin (op.Consulted read market payer) (associatedAccount party mint) :=
  fun _ ha => ⟨_, .tokenAccount h hparty, ha⟩

theorem mintWithin_consulted (h : op.mint? = some mint) :
    MintWithin (op.Consulted read market payer) market mint where
  listing _ ha := ⟨_, .listing h, ha⟩
  auction _ ha := ⟨_, .auction h, ha⟩
  global _ ha := ⟨_, .global, ha⟩
  metadata _ ha := ⟨_, .metadata h, ha⟩
  vault a ha := by
    obtain ⟨global, hglobal, haccount⟩ := vaultAccount_eq_ok_iff.1 ha
    exact foundWithin_tokenAccount h (.vault hglobal) a haccount

/-! ### The looks of a preparation -/

theorem looksWithin_assemble :
    (op.assemble ctx source payer).LooksWithin (op.Consulted read ctx.market payer) read := by
  have hmint {mint : Address} (h : op.mint? = some mint) :
      MintWithin (op.Consulted read ctx.market payer) ctx.market mint := mintWithin_consulted h
  have hparty {mint party : Address} (h : op.mint? = some mint)
      (hparty : op.Party read ctx.market payer mint party) :
      FoundWithin (op.Consulted read ctx.market payer) (associatedAccount party mint) :=
    foundWithin_tokenAccount h hparty
  have hafter (call : Call) (create : Option Instruction) :
      (liftM (call.after ctx.market create) : Inquiry InstructionSet).LooksWithin
        (op.Consulted read ctx.market payer) read := looksWithin_lift _
  cases op with
  | list mint price | createAuction mint terms =>
      exact (looksWithin_depositSource (hmint rfl) (hparty rfl .payer)).bind fun _ _ =>
        (looksWithin_openVault? (hmint rfl)).bind fun _ _ => hafter _ _
  | delist mint | cancelAuction mint =>
      exact (looksWithin_locate (hmint rfl) (hparty rfl .payer)).bind fun _ _ =>
        (looksWithin_ensureAccount (hparty rfl .payer)).bind fun _ _ => hafter _ _
  | transfer mint recipient =>
      refine (looksWithin_locate (hmint rfl) (hparty rfl .payer)).bind fun _ _ =>
        (looksWithin_ensureAccount (hparty rfl (.named rfl))).bind fun _ _ =>
          (looksWithin_listing? (hmint rfl).listing).bind fun listing _ => ?_
      cases listing.any (·.isLive) <;> exact hafter _ _
  | purchase mint =>
      refine (looksWithin_requireListing (hmint rfl).listing).bind fun listing hlisting => ?_
      -- from here on it is known who sells
      have hseller := hparty rfl (.seller (stored?_of_eval_required hlisting))
      exact (looksWithin_locate (hmint rfl) hseller).bind fun _ _ =>
        (looksWithin_ensureAccount (hparty rfl .payer)).bind fun _ _ =>
          (looksWithin_remainingAccounts (hmint rfl) source).bind fun _ _ => hafter _ _
  | acceptOffer mint buyer =>
      exact (looksWithin_locate (hmint rfl) (hparty rfl .payer)).bind fun _ _ =>
        (looksWithin_ensureAccount (hparty rfl (.named rfl))).bind fun _ _ =>
          (looksWithin_remainingAccounts (hmint rfl) source).bind fun _ _ => hafter _ _
  | placeBid mint price =>
      exact (looksWithin_requireAuction (hmint rfl).auction).bind fun _ _ => hafter _ _
  | claimAuction mint =>
      refine (looksWithin_requireAuction (hmint rfl).auction).bind fun auction hauction => ?_
      have hcreator := hparty rfl (.creator (stored?_of_eval_required hauction))
      exact (looksWithin_locate (hmint rfl) hcreator).bind fun _ _ =>
        (looksWithin_ensureAccount (hparty rfl .payer)).bind fun _ _ =>
          (looksWithin_remainingAccounts (hmint rfl) source).bind fun _ _ => hafter _ _
  | _ => exact hafter _ _

/-- A record that an operation needs has a place that the operation consults. -/
theorem consults_place {r : LazyRecord} (h : r ∈ op.lazyRecords) :
    op.Consults read market payer (r.place payer) := by
  have hmint := mint_of_lazyRecords h
  cases r with
  | userAccount => exact .user
  | listing mint => exact .listing (hmint.resolve_left nofun).symm
  | auction mint => exact .auction (hmint.resolve_left nofun).symm
  | offer mint => exact .offer (hmint.resolve_left nofun).symm

theorem looksWithin_creations {rs : List LazyRecord}
    (h : ∀ r ∈ rs, op.Consults read ctx.market payer (r.place payer)) :
    (LazyRecord.creations ctx payer rs).LooksWithin (op.Consulted read ctx.market payer) read := by
  induction rs with
  | nil => exact looksWithin_pure []
  | cons r rs ih =>
      have hcreation :
          (r.creation? ctx payer).LooksWithin (op.Consulted read ctx.market payer) read := by
        refine looksWithin_lift_bind fun a ha => looksWithin_lift_bind fun create _ => ?_
        have hconsulted : op.Consulted read ctx.market payer a :=
          ⟨_, h r List.mem_cons_self, ha⟩
        refine (looksWithin_data? hconsulted .record).bind fun data _ => ?_
        cases data with
        | some bytes => exact looksWithin_pure none
        | none => exact (looksWithin_remark _ _).bind fun _ _ => looksWithin_pure _
      exact hcreation.bind fun _ _ =>
        (ih fun r hr => h r (List.mem_cons_of_mem _ hr)).bind fun _ _ => looksWithin_pure _

/-- A preparation looks at no other places. -/
theorem looksWithin_prepare :
    (op.prepare ctx source payer).LooksWithin (op.Consulted read ctx.market payer) read := by
  rw [prepare, LazyKind.creations_lazyKinds]
  exact looksWithin_assemble.bind fun _ _ =>
    (looksWithin_creations fun _ => consults_place).bind fun _ _ => looksWithin_pure _

/-- **What is prepared depends on these places alone.**  At two ledgers that have the same data, or
both none, where the payer's records, those of the mint, the settings and the token accounts of the
parties live, an operation becomes the same transaction or fails in the same way; and no ledger is
changed by it. -/
theorem prepare_depends_on_consulted (op : Operation) (ctx : Context) (source : CreatorSource)
    (payer : Address) :
    (∀ d d' : Desk MemoryLedger,
      (∀ p a, op.Consults d.ledger.data? ctx.market payer p → p.address ctx.market = .ok a →
        d.ledger.data? a = d'.ledger.data? a) →
      (op.prepare ctx source payer).answer d = (op.prepare ctx source payer).answer d') ∧
    ∀ d : Desk MemoryLedger,
      ((op.prepare ctx source payer).run MemoryLedger.requests d).2.ledger = d.ledger := by
  constructor
  · intro d d' hagree
    rw [Inquiry.answer_eq_eval, Inquiry.answer_eq_eval]
    refine Inquiry.eval_congr_looks fun a ha => ?_
    obtain ⟨p, hp, haddress⟩ := looksWithin_prepare a ha
    exact hagree p a hp haddress
  · exact fun d => ((op.prepare ctx source payer).run_requests d).2

/-- The desk of the seller at another time.  All accounts have other owners and more coins, there is
one more account, and there is a history, of which one transaction was submitted here. -/
def busyDesk : Desk MemoryLedger :=
  let past : PastTransaction := ⟨"a", none, [⟨Address.marketplace, [.ofNumber 1], []⟩], []⟩
  let stored := sellerDesk.ledger.insertTransaction past
  let richer : StoredAccount → StoredAccount := fun account =>
    { account with owner := .ofNumber 7, balance := account.balance + 5 }
  ⟨{ stored with
      accounts := (stored.accounts.map fun _ account => richer account).insert (.ofNumber 5)
        ⟨Address.systemProgram, 1000, [1, 2, 3]⟩
      submitted := [⟨.ofNumber 1, []⟩] }, []⟩

theorem data?_busyDesk {a : Address} (h : a ≠ .ofNumber 5) :
    busyDesk.ledger.data? a = sellerDesk.ledger.data? a := by
  have hkey : compare (.ofNumber 5) a ≠ .eq := fun heq => h (Std.compare_eq_iff_eq.1 heq).symm
  rw [MemoryLedger.data?, busyDesk, Std.ExtTreeMap.getElem?_insert, if_neg hkey,
    Std.ExtTreeMap.getElem?_map, Option.map_map]
  rfl

/-- A transfer is prepared alike at both times.  The account that was added is the recipient's own:
somebody can sign for it, so it is none of the places that are looked at. -/
theorem prepare_depends_on_consulted_busy :
    ∃ (wallet : Address) (tx : Transaction),
      associatedAccount (.ofNumber 1) (.ofNumber 19) = .ok wallet ∧
      busyDesk.ledger.balance wallet ≠ sellerDesk.ledger.balance wallet ∧
      busyDesk.ledger.signatures (.ofNumber 1) ≠ sellerDesk.ledger.signatures (.ofNumber 1) ∧
      ((transfer (.ofNumber 19) (.ofNumber 5)).prepare .default .recorded
        (.ofNumber 1)).answer sellerDesk = .ok tx ∧
      ((transfer (.ofNumber 19) (.ofNumber 5)).prepare .default .recorded
        (.ofNumber 1)).answer busyDesk = .ok tx := by
  have hcoins : (associatedAccount (.ofNumber 1) (.ofNumber 19)).toOption.any (fun wallet =>
      busyDesk.ledger.balance wallet != sellerDesk.ledger.balance wallet) = true := by
    decide +kernel
  obtain ⟨wallet, hwallet, hcoins⟩ := Option.any_eq_true _ _ |>.1 hcoins
  have hcurve : (Address.ofNumber 5).isOnCurve = true := by decide +kernel
  obtain ⟨tx, htx⟩ := exists_prepare_sellerDesk
  obtain ⟨halike, -⟩ := prepare_depends_on_consulted (transfer (.ofNumber 19) (.ofNumber 5))
    .default .recorded (.ofNumber 1)
  have hdata : ∀ p a, (transfer (.ofNumber 19) (.ofNumber 5)).Consults sellerDesk.ledger.data?
      Address.marketplace (.ofNumber 1) p → p.address Address.marketplace = .ok a →
      sellerDesk.ledger.data? a = busyDesk.ledger.data? a := by
    intro p a _ haddress
    refine (data?_busyDesk ?_).symm
    rintro rfl
    rw [Place.isOnCurve_of_address haddress] at hcurve
    cases hcurve
  exact ⟨wallet, tx, toOption_eq_some_iff.1 hwallet, bne_iff_ne.1 hcoins, by decide +kernel, htx,
    (halike sellerDesk busyDesk hdata).symm.trans htx⟩

end Operation

end AssetMarket
