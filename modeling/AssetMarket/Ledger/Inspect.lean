/-
**Faults of snapshots.**

The way through the text of a snapshot.  It ends in a fault just where the snapshot cannot be read.

Main definitions:

* `Snapshot.way` — the way through a snapshot;
* `Snapshot.failure` — how the reading of a text ends that is no snapshot.
-/

import AssetMarket.PastTransaction.Inspect

set_option relaxedAutoImplicit false
set_option autoImplicit false

namespace AssetMarket

open Json.Inspect (plain parsed record list)

namespace Snapshot

/-- The way through an account. -/
def accountWay : Json.Inspect Unit :=
  record "struct SnapshotAccount"
    [⟨"address", false, parsed Address.ofJson⟩, ⟨"owner", false, parsed Address.ofJson⟩,
     ⟨"lamports", true, plain fun j => j.asU64.fault?⟩,
     ⟨"data", true, plain fun j => j.asText.fault?⟩]

/-- The way through a snapshot.  Its transactions lie two containers deep. -/
def way : Json.Inspect Unit :=
  record "struct LedgerSnapshot"
    [⟨"accounts", true, list accountWay⟩,
     ⟨"transactions", true, list (PastTransaction.way (PastTransaction.maxLevels - 2))⟩]

/-- How the reading of a text ends that is no snapshot. -/
def failure (s : String) : MarketError :=
  if Json.Inspect.breaksDown way s then .breakdown
  else .invalidArgument "snapshot" (Json.Inspect.complaint way s)

end Snapshot

end AssetMarket
