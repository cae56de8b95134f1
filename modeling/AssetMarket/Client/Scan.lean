/-
**Scanning for records.**

A kind of record is told by its size alone, which is why no two kinds may have the same size.  The
header is not looked at, apart from a remark; an account that cannot be read is passed over with a
warning, and a record that is not live is passed over without one.

Main definitions:

* `scanEntries` — the live records among some accounts;
* `Client.scan` — the live records of a kind, of one mint if wanted;
* `Client.escrowBalance` — the coins in escrow.

Main results:

* `mem_scanEntries_iff` — exactly the live records are found.
-/

import AssetMarket.Address.Place
import AssetMarket.Client

set_option relaxedAutoImplicit false
set_option autoImplicit false

namespace AssetMarket

/-- Records of one mint have it as their first field. -/
def Window.ofMint (mint : Address) : Window := ⟨Record.headerLength, mint.bytes⟩

/-- The live record that an account holds, if it holds one of this kind. -/
def liveRecord? (kind : RecordKind) (entry : Address × Bytes) : Option (Address × Record) :=
  match Record.decode kind entry.2 with
  | .ok r => if r.isLive then some (entry.1, r) else none
  | .error _ => none

/-- The live records among some accounts. -/
def scanEntries (kind : RecordKind) (entries : List (Address × Bytes)) : List (Address × Record) :=
  entries.filterMap (liveRecord? kind)

/-- What is said about an account that a scan comes upon. -/
def scanWarnings (verbose : Bool) (kind : RecordKind) (entry : Address × Bytes) : List String :=
  let oddHeader :=
    if verbose && !kind.hasHeader entry.2 then
      [s!"ℹ️  {kind.name} {entry.1}: header is not the {kind.name} discriminator"]
    else []
  let unreadable :=
    match Record.decode kind entry.2 with
    | .ok _ => []
    | .error e => [s!"⚠️  Skipping {kind.name} {entry.1}: {e.message}"]
  oddHeader ++ unreadable

theorem mem_scanEntries_iff {kind : RecordKind} {entries : List (Address × Bytes)} {a : Address}
    {r : Record} :
    (a, r) ∈ scanEntries kind entries ↔
      ∃ data, (a, data) ∈ entries ∧ Record.decode kind data = .ok r ∧ r.isLive = true := by
  simp only [scanEntries, List.mem_filterMap, liveRecord?, Prod.exists]
  constructor
  · rintro ⟨b, data, hmem, h⟩
    split at h
    · rename_i s hs
      split at h
      · simp only [Option.some.injEq, Prod.mk.injEq] at h
        obtain ⟨rfl, rfl⟩ := h
        exact ⟨data, hmem, hs, by assumption⟩
      · simp at h
    · simp at h
  · rintro ⟨data, hmem, hdecode, hlive⟩
    exact ⟨a, data, hmem, by simp [hdecode, hlive]⟩

namespace Client

variable {σ : Type}

/-- The live records of a kind in the order in which the ledger lists them. -/
def scan (requests : Ledger σ) (ctx : Context) (kind : RecordKind) (mint : Option Address) :
    Client σ (List (Address × Record)) := do
  RecordKind.checkSizes RecordKind.all
  let entries ← await "scan_program_accounts"
    (requests.scan ctx.market kind.size (mint.map Window.ofMint))
  (entries.flatMap (scanWarnings ctx.verbose kind)).forM warn
  let records := scanEntries kind entries
  remark ctx.verbose s!"🔎 {records.length} live {kind.name} record(s)"
  return records

/-- The coins in escrow. -/
def escrowBalance (requests : Ledger σ) (ctx : Context) : Client σ UInt64 := do
  let escrow ← Place.escrow.address ctx.market
  await "get_balance" (requests.balance escrow)

end Client

end AssetMarket
