/-
**Which operation a name and flags stand for.**

Each operation has a name, and each of its fields a flag; the sort of the field decides how the
value of the flag is read.  All of this is one table here, `Operation.HasFields`, in which it is
left open what the flags have to do with the fields.  With the readers put in, the table says what
is taken for an operation; with the forms of texts put in, it says how an operation may be
written.

Nothing else matters: neither flags that an operation has no use for, nor whether the name has
underscores in place of its hyphens.

Main definitions:

* `FieldRelation`, `Operation.HasFields` — the flags of the fields of an operation, and their sorts;
* `Flags.reads`, `Flags.writes` — a field is what is read from its flag, or is written there;
* `Operation.Respells` — a name in which underscores may stand for hyphens.

Main results:

* `Operation.ofHyphenated_eq_ok_iff` — what is taken for an operation;
* `Flags.reads_of_writes` — a field that is written in its form is read;
* `Operation.flags_grammar` — **an operation keeps its name, and is read from its fields**.
-/

import Mathlib.Data.List.Forall2
import AssetMarket.Operation.Arguments
import AssetMarket.Proofs.Address.Text
import AssetMarket.Proofs.Text.Duration

set_option relaxedAutoImplicit false
set_option autoImplicit false

namespace AssetMarket

/-- What flags have to do with the values of fields, one relation for each sort of field. -/
structure FieldRelation where
  address : String → Address → Prop
  amount : String → UInt64 → Prop
  count : String → UInt64 → Prop
  duration : String → Int64 → Prop
  switch : String → Bool → Prop

namespace FieldRelation

/-- One relation implies another, whatever the sort of the field. -/
structure Implies (r r' : FieldRelation) : Prop where
  address : ∀ flag a, r.address flag a → r'.address flag a
  amount : ∀ flag x, r.amount flag x → r'.amount flag x
  count : ∀ flag x, r.count flag x → r'.count flag x
  duration : ∀ flag x, r.duration flag x → r'.duration flag x
  switch : ∀ flag b, r.switch flag b → r'.switch flag b

end FieldRelation

namespace Operation

/-! ### The flags of an operation -/

/-- Each field of an operation is in a relation with its flag. -/
def HasFields (r : FieldRelation) : Operation → Prop
  | .openMarket => True
  | .updateFee fee => r.count "sol-fee" fee
  | .addTreasury recipient rate => r.address "address" recipient ∧ r.count "rate" rate
  | .removeTreasury recipient => r.address "address" recipient
  | .initUser => True
  | .initListing mint => r.address "mint" mint
  | .list mint price => r.address "mint" mint ∧ r.amount "price" price
  | .delist mint => r.address "mint" mint
  | .setPrice mint price => r.address "mint" mint ∧ r.amount "price" price
  | .transfer mint recipient => r.address "mint" mint ∧ r.address "recipient" recipient
  | .purchase mint => r.address "mint" mint
  | .deposit amount => r.amount "amount" amount
  | .withdraw amount => r.amount "amount" amount
  | .initOffer mint => r.address "mint" mint
  | .makeOffer mint price => r.address "mint" mint ∧ r.amount "price" price
  | .cancelOffer mint => r.address "mint" mint
  | .acceptOffer mint buyer => r.address "mint" mint ∧ r.address "buyer" buyer
  | .initAuction mint => r.address "mint" mint
  | .createAuction mint terms =>
      r.address "mint" mint ∧ r.amount "start-price" terms.startPrice ∧
        r.amount "min-increase" terms.minIncrease ∧ r.duration "duration" terms.duration ∧
        r.switch "reserved" terms.reserved
  | .placeBid mint price => r.address "mint" mint ∧ r.amount "price" price
  | .claimAuction mint => r.address "mint" mint
  | .updateReserve mint price => r.address "mint" mint ∧ r.amount "price" price
  | .cancelAuction mint => r.address "mint" mint

theorem HasFields.imp {r r' : FieldRelation} (h : r.Implies r') {op : Operation}
    (hop : op.HasFields r) : op.HasFields r' := by
  cases op with
  | openMarket | initUser => trivial
  | updateFee => exact h.count _ _ hop
  | addTreasury => exact ⟨h.address _ _ hop.1, h.count _ _ hop.2⟩
  | removeTreasury | initListing | delist | purchase | initOffer | cancelOffer | initAuction
  | claimAuction | cancelAuction => exact h.address _ _ hop
  | list | setPrice | makeOffer | placeBid | updateReserve =>
      exact ⟨h.address _ _ hop.1, h.amount _ _ hop.2⟩
  | transfer | acceptOffer => exact ⟨h.address _ _ hop.1, h.address _ _ hop.2⟩
  | deposit | withdraw => exact h.amount _ _ hop
  | createAuction =>
      obtain ⟨hmint, hstart, hincrease, hduration, hreserved⟩ := hop
      exact ⟨h.address _ _ hmint, h.amount _ _ hstart, h.amount _ _ hincrease,
        h.duration _ _ hduration, h.switch _ _ hreserved⟩

end Operation

/-! ### What is read -/

/-- A field is what is read from its flag. -/
def Flags.reads (flags : Flags) : FieldRelation where
  address flag a := flags.address flag = .ok a
  amount flag x := flags.amount flag = .ok x
  count flag x := flags.count flag = .ok x
  duration flag x := flags.duration flag = .ok x
  switch flag b := flags.switch flag = .ok b

section

variable {ε α β γ : Type} {x : Except ε α} {y : Except ε β}

/-- One value is read and made into something. -/
theorem read_eq_ok_iff {f : α → β} {b : β} :
    (do return f (← x)) = Except.ok b ↔ ∃ a, x = .ok a ∧ f a = b := by
  cases x with
  | error e => exact ⟨nofun, nofun⟩
  | ok a => exact ⟨fun h => ⟨a, rfl, Except.ok.inj h⟩, by rintro ⟨_, ⟨⟩, rfl⟩; rfl⟩

/-- Two values are read, one after the other, and made into something. -/
theorem readTwo_eq_ok_iff {f : α → β → γ} {c : γ} :
    (do return f (← x) (← y)) = Except.ok c ↔ ∃ a b, x = .ok a ∧ y = .ok b ∧ f a b = c := by
  cases x with
  | error e => exact ⟨nofun, nofun⟩
  | ok a =>
      show (do return f a (← y)) = Except.ok c ↔ _
      rw [read_eq_ok_iff]
      constructor
      · rintro ⟨b, hb, hc⟩
        exact ⟨a, b, rfl, hb, hc⟩
      · rintro ⟨_, b, ⟨⟩, hb, hc⟩
        exact ⟨b, hb, hc⟩

end

namespace Operation

variable {flags : Flags} {name : String} {op : Operation}

theorem termsOfFlags_eq_ok_iff {terms : AuctionTerms} :
    termsOfFlags flags = .ok terms ↔ flags.amount "start-price" = .ok terms.startPrice ∧
      flags.amount "min-increase" = .ok terms.minIncrease ∧
      flags.duration "duration" = .ok terms.duration ∧
      flags.switch "reserved" = .ok terms.reserved := by
  rw [termsOfFlags]
  cases flags.amount "start-price" with
  | error e => exact ⟨nofun, nofun⟩
  | ok startPrice =>
  cases flags.amount "min-increase" with
  | error e => exact ⟨nofun, nofun⟩
  | ok minIncrease =>
  cases flags.duration "duration" with
  | error e => exact ⟨nofun, nofun⟩
  | ok duration =>
  cases flags.switch "reserved" with
  | error e => exact ⟨nofun, nofun⟩
  | ok reserved =>
      obtain ⟨startPrice', minIncrease', duration', reserved'⟩ := terms
      simp [bind, Except.bind, pure, Except.pure]

/-- What is taken for an operation: its name, and flags from which its fields are read. -/
theorem ofHyphenated_eq_ok_iff :
    ofHyphenated name flags = .ok op ↔ name = op.name ∧ op.HasFields flags.reads := by
  constructor
  · intro h
    unfold ofHyphenated at h
    split at h
    case h_1 | h_5 =>
      cases h
      exact ⟨rfl, trivial⟩
    case h_2 | h_4 | h_6 | h_8 | h_11 | h_12 | h_13 | h_14 | h_16 | h_18 | h_21 | h_23 =>
      obtain ⟨_, hfield, rfl⟩ := read_eq_ok_iff.1 h
      exact ⟨rfl, hfield⟩
    case h_3 | h_7 | h_9 | h_10 | h_15 | h_17 | h_20 | h_22 =>
      obtain ⟨_, _, hfirst, hsecond, rfl⟩ := readTwo_eq_ok_iff.1 h
      exact ⟨rfl, hfirst, hsecond⟩
    case h_19 =>
      obtain ⟨_, _, hmint, hterms, rfl⟩ := readTwo_eq_ok_iff.1 h
      exact ⟨rfl, hmint, termsOfFlags_eq_ok_iff.1 hterms⟩
    case h_24 => cases h
  · rintro ⟨rfl, h⟩
    cases op with
    | openMarket | initUser => rfl
    | updateFee | removeTreasury | initListing | delist | purchase | deposit | withdraw | initOffer
    | cancelOffer | initAuction | claimAuction | cancelAuction =>
        exact read_eq_ok_iff.2 ⟨_, h, rfl⟩
    | addTreasury | list | setPrice | transfer | makeOffer | acceptOffer | placeBid
    | updateReserve => exact readTwo_eq_ok_iff.2 ⟨_, _, h.1, h.2, rfl⟩
    | createAuction =>
        exact readTwo_eq_ok_iff.2 ⟨_, _, h.1, termsOfFlags_eq_ok_iff.2 h.2, rfl⟩

end Operation

/-! ### What is written -/

namespace Flags

/-- A field is written as the value of its flag, with blanks around it if one likes: an address in
any of its forms, an amount as such, a count as a numeral, a duration as an integer that is not
below zero, and a switch as the word for its position. -/
def writes (flags : Flags) : FieldRelation where
  address flag a := ∃ s, flags.value? flag = some s ∧ a.KeyForm (Text.trim s.toList)
  amount flag x :=
    ∃ s, flags.value? flag = some s ∧ Quantity.IsAmount (Text.trim s.toList) x.toNat
  count flag x :=
    ∃ s, flags.value? flag = some s ∧ Text.IsNatural 10 (Text.trim s.toList) x.toNat
  duration flag x :=
    0 ≤ x.toInt ∧
      ∃ s, flags.value? flag = some s ∧ Text.IsInteger 10 (Text.trim s.toList) x.toInt
  switch flag b := flags.value? flag = some (if b then "true" else "false")

variable {flags : Flags} {flag s : String}

theorem required_eq_ok (h : flags.value? flag = some s) : flags.required flag = .ok s := by
  rw [required, h]
  rfl

theorem quantity_eq_ok {α : Type} {read : String → Except Quantity.Error α} {x : α}
    (h : flags.value? flag = some s) (hread : read s = .ok x) :
    flags.quantity read flag = .ok x := by
  rw [quantity, required_eq_ok h]
  exact Quantity.mapError_eq_ok_iff.2 hread

/-- A field that is written in its form is read. -/
theorem reads_of_writes (flags : Flags) : flags.writes.Implies flags.reads where
  address flag a := by
    rintro ⟨s, hs, hform⟩
    show flags.address flag = .ok a
    rw [Flags.address, required_eq_ok hs]
    exact Quantity.mapError_eq_ok_iff.2 (Address.ofKeyText_eq_ok_iff.2 hform)
  amount flag x := by
    rintro ⟨s, hs, hamount⟩
    exact quantity_eq_ok hs (Quantity.amount_of_isAmount hamount)
  count flag x := by
    rintro ⟨s, hs, hcount⟩
    exact quantity_eq_ok hs (Quantity.mapError_eq_ok_iff.2 (Text.u64_eq_ok_iff.2 hcount))
  duration flag x := by
    rintro ⟨hpositive, s, hs, hinteger⟩
    exact quantity_eq_ok hs (Quantity.duration_of_isInteger hpositive hinteger)
  switch flag b := by
    intro hs
    have hgiven : flags.has flag = true := by
      rw [has, hs]
      rfl
    show flags.switch flag = .ok b
    rw [Flags.switch, if_pos hgiven]
    refine quantity_eq_ok hs ?_
    cases b with
    | true => rfl
    | false => rfl

end Flags

/-! ### Names -/

namespace Operation

/-- A name is another, except that underscores may stand for hyphens. -/
def Respells (name name' : String) : Prop :=
  List.Forall₂ (fun c c' => c = c' ∨ c = '_' ∧ c' = '-') name.toList name'.toList

instance (name name' : String) : Decidable (Respells name name') :=
  inferInstanceAs (Decidable (List.Forall₂ _ _ _))

theorem respells_refl (name : String) : Respells name name :=
  List.forall₂_same.2 fun _ _ => .inl rfl

theorem underscore_notMem_name (op : Operation) : '_' ∉ op.name.toList := by
  cases op <;> simp only [name] <;> decide

theorem hyphenated_of_respells {name : String} {op : Operation} (h : Respells name op.name) :
    hyphenated name = op.name := by
  have hmap {cs ds : List Char}
      (h : List.Forall₂ (fun c d => c = d ∨ c = '_' ∧ d = '-') cs ds) (hds : '_' ∉ ds) :
      (cs.map fun c => if c = '_' then '-' else c) = ds := by
    induction h with
    | nil => rfl
    | @cons c d cs ds hcd _ ih =>
        rw [List.mem_cons, not_or] at hds
        rw [List.map_cons, ih hds.2]
        rcases hcd with rfl | ⟨rfl, rfl⟩
        · rw [if_neg (Ne.symm hds.1)]
        · rfl
  rw [hyphenated, hmap h op.underscore_notMem_name, String.ofList_toList]

/-- **An operation keeps its name, and is read from its fields.**  What is taken for an operation
has the given name, with hyphens in place of underscores.  And an operation is read from its name,
or from one in which underscores stand for hyphens, if its fields are written in their forms;
whatever other flags there are makes no difference. -/
theorem flags_grammar :
    (∀ (name : String) (flags : Flags) (op : Operation), ofFlags name flags = .ok op →
      op.name = hyphenated name) ∧
    ∀ (flags : Flags) (op : Operation), op.HasFields flags.writes →
      ofFlags op.name flags = .ok op ∧
        ∀ name, Respells name op.name → ofFlags name flags = .ok op := by
  constructor
  · intro name flags op h
    exact (ofHyphenated_eq_ok_iff.1 h).1.symm
  · intro flags op h
    have hreads := h.imp flags.reads_of_writes
    have hnamed (name : String) (hname : Respells name op.name) : ofFlags name flags = .ok op :=
      ofHyphenated_eq_ok_iff.2 ⟨hyphenated_of_respells hname, hreads⟩
    exact ⟨hnamed op.name (respells_refl op.name), hnamed⟩

/-- The flags of an auction, and one that no auction has. -/
def auctionFlags : Flags :=
  [("mint", "11111111111111111111111111111111"), ("start-price", "18446744073709551615lamports"),
   ("min-increase", "7lamports"), ("price", "no price"), ("duration", "3600"),
   ("reserved", "true")]

/-- An auction of the asset whose mint is all zeros, for the highest price and for an hour. -/
theorem flags_grammar_auction :
    ofFlags "create_auction" auctionFlags
        = .ok (.createAuction .zero ⟨18446744073709551615, 7, 3600, true⟩) ∧
      (Operation.createAuction .zero ⟨18446744073709551615, 7, 3600, true⟩).name
        = hyphenated "create_auction" := by
  obtain ⟨hname, hread⟩ := flags_grammar
  have hzero : Address.zero.text.toList
      = Text.trim "11111111111111111111111111111111".toList := by decide +kernel
  have hprice : "18446744073709551615".toList ++ [] ++ "lamports".toList
      = Text.trim "18446744073709551615lamports".toList := by decide +kernel
  have hincrease : ['7'] ++ [] ++ "lamports".toList = Text.trim "7lamports".toList := by
    decide +kernel
  have hduration : "3600".toList = Text.trim "3600".toList := by decide +kernel
  have hunits {number : List Char} {n : Nat} (h : Text.IsNatural 10 number n) :
      Quantity.IsAmount (number ++ [] ++ "lamports".toList) n :=
    .units ⟨number, [], h, nofun, rfl⟩
  have hmost : Text.IsNatural 10 "18446744073709551615".toList
      (18446744073709551615 : UInt64).toNat := Text.u64_eq_ok_iff.1 (by decide +kernel)
  have hseven : Text.IsNatural 10 ['7'] (7 : UInt64).toNat := Text.u64_eq_ok_iff.1 rfl
  have hhour : Text.IsInteger 10 "3600".toList (3600 : Int64).toInt :=
    ((Text.integer_eq_ok_iff (show 0 < 2 ^ 63 by decide)).1 (by decide +kernel)).1
  have hfields : (Operation.createAuction .zero ⟨18446744073709551615, 7, 3600, true⟩).HasFields
      auctionFlags.writes :=
    ⟨⟨_, rfl, hzero ▸ .text⟩, ⟨_, rfl, hprice ▸ hunits hmost⟩, ⟨_, rfl, hincrease ▸ hunits hseven⟩,
      ⟨by decide, _, rfl, hduration ▸ hhour⟩, rfl⟩
  have hauction := (hread _ _ hfields).2 "create_auction" (by decide)
  exact ⟨hauction, hname _ _ _ hauction⟩

end Operation

end AssetMarket
