/-
**A scan finds exactly the live records.**

A ledger knows nothing of kinds: it lists the accounts of an owner whose data have a length and bear
certain bytes.  That these are the records of one kind and of one mint follows from three facts that
stand far apart.  No two kinds have the same size; every kind has its mint, where it has one, right
behind the header; and what is stored is read back.

Whether an account is in the list depends on that account alone, and so an account that cannot be
read keeps nothing but itself out of it.

Main definitions:

* `Record.subject`, `Record.mint?` — the address that stands behind the header of a record;
* `StoredAccount.HoldsLive` — an account that a scan is after;
* `MemoryLedger.liveRecords` — what a scan finds;
* `MemoryLedger.filled` — a ledger in which records were stored one after the other.

Main results:

* `Record.slice_of_decode` — the window of a scan looks at the subject;
* `MemoryLedger.pairwise_liveRecords`, `MemoryLedger.mem_liveRecords_iff` — the list is in strict
  order and has exactly the live records;
* `MemoryLedger.liveRecords_insertAccount_of_unreadable` — what cannot be read takes away only what
  it replaces;
* `MemoryLedger.mem_liveRecords_filled_iff` — after any stores, what was stored last is found;
* `Client.scan_exact` — **a scan finds exactly the live records**.
-/

import Mathlib.Data.List.Pairwise
import Mathlib.Data.List.Sort
import AssetMarket.Client.Scan
import AssetMarket.Proofs.Client.Course
import AssetMarket.Proofs.Record.Codec

set_option relaxedAutoImplicit false
set_option autoImplicit false

namespace AssetMarket

/-! ### Behind the header -/

namespace Record

/-- The address that stands behind the header of a record. -/
def subject : Record → Address
  | .globalConfig r => r.superAdmin
  | .listing r => r.mint
  | .offer r => r.mint
  | .auction r => r.mint
  | .userAccount r => r.address

/-- The mint that a record is about, if it is about one. -/
def mint? : Record → Option Address
  | .listing r => some r.mint
  | .offer r => some r.mint
  | .auction r => some r.mint
  | _ => none

theorem subject_of_mint? {r : Record} {mint : Address} (h : r.mint? = some mint) :
    r.subject = mint := by
  cases r <;> simp_all [mint?, subject]

variable {kind : RecordKind} {data : Bytes} {r : Record}

theorem slice_encode (r : Record) : r.encode.slice headerLength 32 = r.subject.bytes := by
  have hat : r.encode = r.kind.header ++ (r.subject.bytes ++ r.encode.drop 40) := by
    cases r <;>
      simp [encode, kind, subject, RecordKind.header, GlobalConfig.encode, GlobalConfig.header,
        Listing.encode, Listing.header, Offer.encode, Offer.header, Auction.encode, Auction.header,
        UserAccount.encode, UserAccount.header]
  rw [hat, ← r.kind.length_header, ← r.subject.length_bytes]
  exact Bytes.slice_append_append _ _ _

/-- The window of a scan looks at the subject. -/
theorem slice_of_decode (h : decode kind data = .ok r) :
    data.slice headerLength 32 = r.subject.bytes := by
  obtain ⟨-, hbytes⟩ := of_decode h
  have hroom : 32 ≤ kind.size - headerLength := by
    cases kind <;> decide
  have hfront : (kind.header ++ data.slice headerLength (kind.size - headerLength)).drop headerLength
      = data.slice headerLength (kind.size - headerLength) := by
    rw [← kind.length_header, List.drop_left]
  rw [← slice_encode r, hbytes, Bytes.slice, Bytes.slice, hfront, Bytes.slice, List.take_take,
    Nat.min_eq_left hroom]

end Record

/-- A window on a mint fits where the mint stands behind the header. -/
theorem Window.fits_ofMint_iff {mint : Address} {data : Bytes} :
    (Window.ofMint mint).fits data = true ↔ data.slice Record.headerLength 32 = mint.bytes := by
  simp only [fits, ofMint, Address.length_bytes, Bool.and_eq_true, decide_eq_true_eq, beq_iff_eq]
  refine ⟨fun h => h.2, fun h => ⟨?_, h⟩⟩
  have hlength := congrArg List.length h
  rw [Bytes.length_slice, mint.length_bytes] at hlength
  omega

/-! ### What a scan is after -/

/-- An account that holds a live record of a kind, which is about a mint if one is given. -/
structure StoredAccount.HoldsLive (account : StoredAccount) (market : Address) (kind : RecordKind)
    (mint : Option Address) (r : Record) : Prop where
  owner : account.owner = market
  length : account.data.length = kind.size
  decode : Record.decode kind account.data = .ok r
  live : r.isLive = true
  mint : ∀ m ∈ mint, account.data.slice Record.headerLength 32 = m.bytes

namespace MemoryLedger

/-- The live records of a kind, of one mint if wanted, in the order in which a scan finds them. -/
def liveRecords (l : MemoryLedger) (market : Address) (kind : RecordKind) (mint : Option Address) :
    List (Address × Record) :=
  scanEntries kind (l.scan market kind.size (mint.map Window.ofMint))

section

variable {l : MemoryLedger} {market a : Address} {kind : RecordKind} {mint : Option Address}
  {r : Record}

theorem mem_scan_iff {owner : Address} {size : Nat} {window : Option Window} {data : Bytes} :
    (a, data) ∈ l.scan owner size window ↔
      ∃ account, l.accounts[a]? = some account ∧ account.data = data ∧ account.owner = owner ∧
        data.length = size ∧ ∀ w ∈ window, w.fits data = true := by
  simp only [scan, List.mem_map, List.mem_filter, Prod.exists, Prod.mk.injEq,
    Std.ExtTreeMap.mem_toList_iff_getElem?_eq_some, Bool.and_eq_true, beq_iff_eq,
    Option.all_eq_true]
  constructor
  · rintro ⟨b, account, ⟨hget, ⟨howner, hsize⟩, hfits⟩, rfl, rfl⟩
    exact ⟨account, hget, rfl, howner, hsize, hfits⟩
  · rintro ⟨account, hget, rfl, howner, hsize, hfits⟩
    exact ⟨a, account, ⟨hget, ⟨howner, hsize⟩, hfits⟩, rfl, rfl⟩

/-- Accounts are listed in the strict order of their addresses. -/
theorem pairwise_scan (owner : Address) (size : Nat) (window : Option Window) :
    (l.scan owner size window).Pairwise fun x y => compare x.1 y.1 = .lt := by
  rw [scan, List.pairwise_map]
  exact l.accounts.ordered_keys_toList.filter _

/-- The records are found in the strict order of their addresses. -/
theorem pairwise_liveRecords :
    (l.liveRecords market kind mint).Pairwise fun x y => compare x.1 y.1 = .lt := by
  rw [liveRecords, scanEntries, List.pairwise_filterMap]
  refine (pairwise_scan market kind.size _).imp ?_
  -- a record is found at the address of its account
  have haddress : ∀ {entry : Address × Bytes} {found : Address × Record},
      liveRecord? kind entry = some found → found.1 = entry.1 := by
    intro entry found h
    unfold liveRecord? at h
    split at h
    · split at h
      · cases h
        rfl
      · cases h
    · cases h
  intro x y hlt found hfound found' hfound'
  rw [haddress hfound, haddress hfound']
  exact hlt

/-- Exactly the live records are found. -/
theorem mem_liveRecords_iff :
    (a, r) ∈ l.liveRecords market kind mint ↔
      ∃ account, l.accounts[a]? = some account ∧ account.HoldsLive market kind mint r := by
  simp only [liveRecords, mem_scanEntries_iff, mem_scan_iff, Option.forall_mem_map,
    Window.fits_ofMint_iff]
  constructor
  · rintro ⟨data, ⟨account, hget, rfl, howner, hsize, hmint⟩, hdecode, hlive⟩
    exact ⟨account, hget, howner, hsize, hdecode, hlive, hmint⟩
  · rintro ⟨account, hget, howner, hsize, hdecode, hlive, hmint⟩
    exact ⟨account.data, ⟨account, hget, rfl, howner, hsize, hmint⟩, hdecode, hlive⟩

/-- Of the records that are about a mint, those of one mint are found where all are. -/
theorem mem_liveRecords_some_iff {m : Address} (hmint : (r.mint?).isSome = true) :
    (a, r) ∈ l.liveRecords market kind (some m) ↔
      (a, r) ∈ l.liveRecords market kind none ∧ r.mint? = some m := by
  obtain ⟨m', hm'⟩ := Option.isSome_iff_exists.1 hmint
  simp only [mem_liveRecords_iff]
  constructor
  · rintro ⟨account, hget, h⟩
    have hbytes := h.mint m rfl
    rw [Record.slice_of_decode h.decode, Record.subject_of_mint? hm'] at hbytes
    exact ⟨⟨account, hget, { h with mint := nofun }⟩, by rw [hm', Address.ext hbytes]⟩
  · rintro ⟨⟨account, hget, h⟩, hm⟩
    refine ⟨account, hget, { h with mint := fun m hmem => ?_ }⟩
    cases hmem
    rw [Record.slice_of_decode h.decode, Record.subject_of_mint? hm]

/-! ### What cannot be read -/

/-- Lists of findings that are in strict order are the same if they find the same. -/
theorem findings_ext {xs ys : List (Address × Record)}
    (hxs : xs.Pairwise fun x y => compare x.1 y.1 = .lt)
    (hys : ys.Pairwise fun x y => compare x.1 y.1 = .lt)
    (h : ∀ a r, (a, r) ∈ xs ↔ (a, r) ∈ ys) : xs = ys := by
  have hasymm : Std.Asymm fun x y : Address × Record => compare x.1 y.1 = .lt := by
    refine ⟨fun x y hlt hgt => ?_⟩
    rw [Std.OrientedOrd.eq_swap, hgt] at hlt
    cases hlt
  exact hxs.eq_of_mem_iff hys fun x => h x.1 x.2

/-- An account that cannot be read takes away only what it replaces. -/
theorem liveRecords_insertAccount_of_unreadable {account : StoredAccount} {e : MarketError}
    (h : Record.decode kind account.data = .error e) :
    (l.insertAccount a account).liveRecords market kind mint
      = (l.liveRecords market kind mint).filter (·.1 ≠ a) := by
  refine findings_ext pairwise_liveRecords (pairwise_liveRecords.filter _) fun b r => ?_
  rw [List.mem_filter, mem_liveRecords_iff, mem_liveRecords_iff, insertAccount,
    Std.ExtTreeMap.getElem?_insert]
  by_cases hba : b = a
  · subst hba
    have hnone : ¬ account.HoldsLive market kind mint r := by
      intro hlive
      have hdecode := hlive.decode
      rw [h] at hdecode
      cases hdecode
    simp [hnone]
  · have hne : ¬ compare a b = .eq := fun heq => hba (Std.LawfulEqOrd.eq_of_compare heq).symm
    simp [hba, hne]

end

/-! ### Ledgers of records -/

/-- A ledger in which records were stored one after the other. -/
def filled (market : Address) (puts : List (Address × Record)) : MemoryLedger :=
  puts.foldl (fun l put => l.insertRecord put.1 put.2) (empty market)

section

variable {market a : Address} {puts : List (Address × Record)} {kind : RecordKind}
  {mint : Option Address} {r : Record}

/-- At each address there is the record that was stored there last. -/
theorem getElem?_filled :
    (filled market puts).accounts[a]? = (puts.reverse.lookup a).map (newAccount market) := by
  rw [filled, foldl_insertRecord, getElem?_withRecords]
  have hempty : (empty market).accounts[a]? = none := Std.ExtTreeMap.getElem?_empty
  rw [hempty, Option.or_none]
  rfl

/-- The account of a record that was stored is one that a scan for its kind is after. -/
theorem holdsLive_newAccount_iff {r' : Record} :
    (newAccount market r).HoldsLive market kind mint r' ↔
      r' = r ∧ r.kind = kind ∧ r.isLive = true ∧ ∀ m ∈ mint, r.subject = m := by
  have law := Record.lawfulCodec r.kind
  constructor
  · intro h
    -- the length tells the kind, and then what was written is read back
    obtain rfl : r.kind = kind :=
      RecordKind.size_injective ((law.length_encode r rfl).symm.trans h.length)
    have hdecode := h.decode
    rw [newAccount, law.decode_encode r rfl, Except.ok.injEq] at hdecode
    subst hdecode
    refine ⟨rfl, rfl, h.live, fun m hm => ?_⟩
    have hbytes := h.mint m hm
    rw [newAccount, Record.slice_encode] at hbytes
    exact Address.ext hbytes
  · rintro ⟨rfl, rfl, hlive, hmint⟩
    exact
      { owner := rfl
        length := law.length_encode _ rfl
        decode := law.decode_encode _ rfl
        live := hlive
        mint := fun m hm => by rw [newAccount, Record.slice_encode, hmint m hm] }

/-- After any stores a scan finds the records of its kind that were stored last. -/
theorem mem_liveRecords_filled_iff :
    (a, r) ∈ (filled market puts).liveRecords market kind mint ↔
      puts.reverse.lookup a = some r ∧ r.kind = kind ∧ r.isLive = true ∧
        ∀ m ∈ mint, r.subject = m := by
  simp only [mem_liveRecords_iff, getElem?_filled, Option.map_eq_some_iff]
  constructor
  · rintro ⟨_, ⟨stored, hlast, rfl⟩, h⟩
    obtain ⟨rfl, hrest⟩ := holdsLive_newAccount_iff.1 h
    exact ⟨hlast, hrest⟩
  · rintro ⟨hlast, hrest⟩
    exact ⟨_, ⟨r, hlast, rfl⟩, holdsLive_newAccount_iff.2 ⟨rfl, hrest⟩⟩

end

end MemoryLedger

/-! ### Scanning -/

namespace Client

variable {σ : Type}

theorem ends_forM_warn (lines : List String) (s : σ) :
    Ends (lines.forM warn : Client σ PUnit) s (.ok ⟨⟩) s := by
  induction lines with
  | nil => exact ends_pure _ s
  | cons line lines ih => exact (ends_tell .err line s).bind ih

/-- A scan at a ledger in memory finds the live records, and changes nothing. -/
theorem ends_scan (ctx : Context) (kind : RecordKind) (mint : Option Address) (l : MemoryLedger) :
    Ends (scan MemoryLedger.requests ctx kind mint) l (.ok (l.liveRecords ctx.market kind mint))
      l := by
  have hsizes : Ends (liftM (RecordKind.checkSizes RecordKind.all)) l (.ok ()) l :=
    fun c => ⟨c, rfl⟩
  have hlist : MemoryLedger.requests.scan ctx.market kind.size (mint.map Window.ofMint) l
      = (.answered (l.scan ctx.market kind.size (mint.map Window.ofMint)), l) := rfl
  refine hsizes.bind ((ends_await "scan_program_accounts" hlist).bind ?_)
  exact (ends_forM_warn _ l).bind ((ends_remark ctx.verbose _ l).bind (ends_pure _ l))

/-- **A scan finds exactly the live records.**  At every ledger in memory it succeeds, with a list
in strict order of the addresses that has exactly the live records of the kind wanted; of the
records that are about a mint, those of one mint are found if one is given.  An account that cannot
be read takes away only what it replaces.  Where nothing but records was stored, those that were
stored last are found, and none of another kind. -/
theorem scan_exact (ctx : Context) (kind : RecordKind) (mint : Option Address) :
    (∀ l : MemoryLedger,
      Ends (scan MemoryLedger.requests ctx kind mint) l
        (.ok (l.liveRecords ctx.market kind mint)) l ∧
      (l.liveRecords ctx.market kind mint).Pairwise (fun x y => compare x.1 y.1 = .lt) ∧
      (∀ a r, (a, r) ∈ l.liveRecords ctx.market kind mint ↔
        ∃ account, l.accounts[a]? = some account ∧
          account.HoldsLive ctx.market kind mint r) ∧
      (∀ a r m, (r.mint?).isSome = true →
        ((a, r) ∈ l.liveRecords ctx.market kind (some m) ↔
          (a, r) ∈ l.liveRecords ctx.market kind none ∧ r.mint? = some m)) ∧
      ∀ a account e, Record.decode kind account.data = .error e →
        (l.insertAccount a account).liveRecords ctx.market kind mint
          = (l.liveRecords ctx.market kind mint).filter (·.1 ≠ a)) ∧
    ∀ (puts : List (Address × Record)) (a : Address) (r : Record),
      (a, r) ∈ (MemoryLedger.filled ctx.market puts).liveRecords ctx.market kind mint ↔
        puts.reverse.lookup a = some r ∧ r.kind = kind ∧ r.isLive = true ∧
          ∀ m ∈ mint, r.subject = m := by
  constructor
  · intro l
    refine ⟨ends_scan ctx kind mint l, MemoryLedger.pairwise_liveRecords, ?_, ?_, ?_⟩
    · intro a r
      exact MemoryLedger.mem_liveRecords_iff
    · intro a r m hmint
      exact MemoryLedger.mem_liveRecords_some_iff hmint
    · intro a account e h
      exact MemoryLedger.liveRecords_insertAccount_of_unreadable h
  · intro puts a r
    exact MemoryLedger.mem_liveRecords_filled_iff

/-- A listing is found under its mint, and settings that count too many recipients do not hide the
settings that can be read. -/
theorem scan_exact_broken_settings :
    let listing : Record := .listing ⟨.ofNumber 2, .ofNumber 3, .zero, 5, 0, 1⟩
    let settings : Record := .globalConfig ⟨.ofNumber 9, 7, .empty⟩
    let broken : StoredAccount := ⟨Address.marketplace, 0, List.replicate 376 255⟩
    let l := MemoryLedger.filled Address.marketplace
      [(.ofNumber 1, listing), (.ofNumber 4, settings)]
    (.ofNumber 1, listing)
        ∈ l.liveRecords Address.marketplace .listing (some (.ofNumber 2)) ∧
      (∃ e, Record.decode .globalConfig broken.data = .error e) ∧
      (.ofNumber 4, settings)
        ∈ (l.insertAccount (.ofNumber 5) broken).liveRecords Address.marketplace .globalConfig
            none := by
  intro listing settings broken l
  obtain ⟨-, hfilled⟩ := scan_exact .default .listing (some (.ofNumber 2))
  obtain ⟨hsettings, hstored⟩ := scan_exact .default .globalConfig none
  have hbroken : Record.decode .globalConfig broken.data
      = .error (.treasuryCapacity treasuryCapacity (2 ^ 64 - 1)) := by decide +kernel
  refine ⟨?_, ⟨_, hbroken⟩, ?_⟩
  · exact (hfilled _ _ _).2 ⟨by decide +kernel, rfl, rfl, fun m hm => Option.some.inj hm⟩
  · obtain ⟨-, -, -, -, hunreadable⟩ := hsettings l
    have hkept := hunreadable (.ofNumber 5) broken _ hbroken
    have hfound : (Address.ofNumber 4, settings)
        ∈ l.liveRecords Address.marketplace .globalConfig none :=
      (hstored _ _ _).2 ⟨by decide +kernel, rfl, rfl, nofun⟩
    refine hkept ▸ List.mem_filter.2 ⟨hfound, by decide +kernel⟩

end Client

end AssetMarket
