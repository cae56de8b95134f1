import AssetMarket.Ledger.Scripted
import AssetMarket.Main
import AssetMarket.Proofs.Event.Fingerprint
import AssetMarket.Proofs.Record.Codec
import AssetMarket.Proofs.Event.Decode
import AssetMarket.Proofs.Event.RoundTrip
import AssetMarket.Proofs.Operation.Assembly
import AssetMarket.Proofs.Operation.Preparation
import AssetMarket.Proofs.Operation.Events
import AssetMarket.Proofs.Ledger.Creation
import AssetMarket.Proofs.Ledger.Run
import AssetMarket.Proofs.Operation.Acceptance
import AssetMarket.Proofs.Client.Course
import AssetMarket.Proofs.Client.Initialization
import AssetMarket.Proofs.Client.Contest
import AssetMarket.Proofs.Client.Orders
import AssetMarket.Proofs.Address.Derivation
import AssetMarket.Proofs.Address.Place
import AssetMarket.Proofs.Instruction.Catalog
import AssetMarket.Proofs.Operation.Ownership
import AssetMarket.Proofs.Client.Scan
import AssetMarket.Proofs.Ledger.Index
import AssetMarket.Proofs.Ledger.Snapshot
import AssetMarket.Proofs.Operation.Recipients
import AssetMarket.Proofs.Metadata
import AssetMarket.Proofs.Address.Text
import AssetMarket.Proofs.Text.Quantity
import AssetMarket.Proofs.Json.Document
import AssetMarket.Proofs.Json.Members
import AssetMarket.Proofs.PastTransaction.Node
import AssetMarket.Proofs.Client.History
import AssetMarket.Proofs.Event.Independence
import AssetMarket.Proofs.Operation.Sequence
import AssetMarket.Proofs.Operation.Signer
import AssetMarket.Proofs.Record.Layout
import AssetMarket.Proofs.Operation.Footprint
import AssetMarket.Proofs.Operation.Transfer
import AssetMarket.Proofs.Operation.Counterparty
import AssetMarket.Proofs.Text.Duration
import AssetMarket.Proofs.Operation.Arguments
import AssetMarket.Proofs.PastTransaction.Text
import AssetMarket.Proofs.Catalog
import AssetMarket.Proofs.Ledger.Refusal
import AssetMarket.Proofs.Record.Treasury
import AssetMarket.Proofs.Operation.ArgumentParts
import AssetMarket.Proofs.CommandLine
