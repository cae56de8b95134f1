/-
**What a client is set up with.**

A client works for one marketplace program, asks for one degree of certainty, waits so long for a
ledger and says more or less about what it does.  All four have a default and may be set by
variables.

Main definitions:

* `Commitment` — the degrees of certainty;
* `Context` — the settings;
* `Context.ofVariables` — the settings under given variables.
-/

import AssetMarket.Address.Text

set_option relaxedAutoImplicit false
set_option autoImplicit false

namespace AssetMarket

/-! ### Degrees of certainty -/

/-- How certain a transaction has to be before it counts as confirmed. -/
inductive Commitment where
  | processed
  | confirmed
  | finalized
  deriving DecidableEq, Repr

namespace Commitment

/-- All degrees. -/
def all : List Commitment := [.processed, .confirmed, .finalized]

/-- The word for a degree. -/
def name : Commitment → String
  | .processed => "processed"
  | .confirmed => "confirmed"
  | .finalized => "finalized"

/-- The degree that a word means; letters count in either case. -/
def ofName? (s : String) : Option Commitment :=
  all.find? (·.name == String.ofList (s.toList.map Char.toLower))

@[simp] theorem ofName?_name (c : Commitment) : ofName? c.name = some c := by
  cases c <;> decide +kernel

end Commitment

/-! ### Settings -/

/-- The settings of a client. -/
structure Context where
  /-- The address of the marketplace program. -/
  market : Address
  commitment : Commitment
  /-- How long a request to a ledger may take, in seconds. -/
  timeout : UInt64
  verbose : Bool
  deriving DecidableEq

namespace Context

/-- How long a request may take unless something else is said. -/
def defaultTimeout : UInt64 := 30

/-- The settings that nobody changed. -/
def default : Context :=
  { market := Address.marketplace
    commitment := .confirmed
    timeout := defaultTimeout
    verbose := false }

instance : Inhabited Context := ⟨default⟩

/-- The variable with the address of the program. -/
def marketVariable : String := "MUGS_PROGRAM_ID"

/-- The variable with the degree of certainty. -/
def commitmentVariable : String := "MUGS_COMMITMENT"

/-- The variable with the seconds that a request may take. -/
def timeoutVariable : String := "MUGS_TIMEOUT_SECS"

/-- The variable that makes the client say more. -/
def verboseVariable : String := "MUGS_VERBOSE"

/-- The degree of certainty that a variable sets. -/
def readCommitment (s : String) : Except MarketError Commitment :=
  (Commitment.ofName? s).elim
    (.error (.invalidArgument commitmentVariable s!"unknown commitment '{s}'")) .ok

/-- The seconds that a variable sets. -/
def readTimeout (s : String) : Except MarketError UInt64 :=
  (Text.u64 (Text.trim s.toList)).mapError fun e => .invalidArgument timeoutVariable e.message

/-- Whether a variable makes the client say more. -/
def readVerbose (s : String) : Bool :=
  String.ofList (Text.trim s.toList) ∈ ["1", "true", "yes"]

/-- The setting that a variable gives, or the default where the variable is not set. -/
def setting {α : Type} (default : α) (read : String → Except MarketError α) :
    Option String → Except MarketError α
  | some s => read s
  | none => .ok default

/-- The settings under given variables, which are looked at in a fixed order. -/
def ofVariables (valueOf? : String → Option String) : Except MarketError Context := do
  let market ← setting default.market Address.ofText (valueOf? marketVariable)
  let commitment ← setting default.commitment readCommitment (valueOf? commitmentVariable)
  let timeout ← setting default.timeout readTimeout (valueOf? timeoutVariable)
  let verbose ← setting default.verbose (.ok ∘ readVerbose) (valueOf? verboseVariable)
  return { market, commitment, timeout, verbose }

end Context

end AssetMarket
