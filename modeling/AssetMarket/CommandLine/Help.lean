/-
**Help texts.**

Main definitions:

* `Help.operations` — the operations with their flags and what they do;
* `Help.overview` — the lines on how the command line is used;
* `Help.ofMethod` — the lines on a method of the program.
-/

import AssetMarket.Catalog

set_option relaxedAutoImplicit false
set_option autoImplicit false

namespace AssetMarket

namespace Help

/-- A text filled up with blanks at its end to a width. -/
def padded (width : Nat) (s : String) : String := s.pushn ' ' (width - s.length)

/-! ### Overview -/

/-- An operation as the overview shows it. -/
structure Summary where
  name : String
  flags : String
  about : String
  deriving DecidableEq, Repr

/-- The operations, in the order of the overview. -/
def operations : List Summary :=
  [⟨"initialize", "", "Create the marketplace config and escrow vault"⟩,
   ⟨"update-fee", "--sol-fee <PERMYRIAD>", "Set the flat marketplace fee"⟩,
   ⟨"add-treasury", "--address <ADDR> --rate <PERMYRIAD>", "Add a treasury recipient"⟩,
   ⟨"remove-treasury", "--address <ADDR>", "Remove a treasury recipient"⟩,
   ⟨"init-user", "", "Create the payer's user account"⟩,
   ⟨"init-listing", "--mint <ADDR>", "Create the listing record for a mint"⟩,
   ⟨"list", "--mint <ADDR> --price <SOL>", "List an asset for sale"⟩,
   ⟨"delist", "--mint <ADDR>", "Withdraw a listing"⟩,
   ⟨"set-price", "--mint <ADDR> --price <SOL>", "Change a listing price"⟩,
   ⟨"transfer", "--mint <ADDR> --recipient <ADDR>", "Send an asset, from the vault if listed"⟩,
   ⟨"purchase", "--mint <ADDR>", "Buy a listed asset"⟩,
   ⟨"deposit", "--amount <SOL>", "Move SOL into escrow"⟩,
   ⟨"withdraw", "--amount <SOL>", "Move SOL out of escrow"⟩,
   ⟨"init-offer", "--mint <ADDR>", "Create the payer's offer slot for a mint"⟩,
   ⟨"make-offer", "--mint <ADDR> --price <SOL>", "Offer on a listed asset"⟩,
   ⟨"cancel-offer", "--mint <ADDR>", "Withdraw an offer"⟩,
   ⟨"accept-offer", "--mint <ADDR> --buyer <ADDR>", "Sell to an offer"⟩,
   ⟨"init-auction", "--mint <ADDR>", "Create the auction record for a mint"⟩,
   ⟨"create-auction",
    "--mint <ADDR> --start-price <SOL> --min-increase <SOL> " ++
      "--duration <SECS|Nm|Nh|Nd> [--reserved]",
    "Start an auction"⟩,
   ⟨"place-bid", "--mint <ADDR> --price <SOL>", "Bid on an auction"⟩,
   ⟨"claim-auction", "--mint <ADDR>", "Settle a won auction"⟩,
   ⟨"update-reserve", "--mint <ADDR> --price <SOL>", "Change a reserved auction's price"⟩,
   ⟨"cancel-auction", "--mint <ADDR>", "Cancel an auction"⟩]

/-- The width of the column with names. -/
def nameWidth : Nat := 16

/-- The lines on an operation; the flags, if there are any, have one of their own. -/
def summaryLines (s : Summary) : List String :=
  ("  " ++ padded nameWidth s.name ++ " " ++ s.about)
    :: if s.flags.isEmpty then [] else ["  " ++ padded nameWidth "" ++ "   " ++ s.flags]

/-- The lines on what surrounds a command. -/
def environmentLines : List String :=
  ["ENVIRONMENT:",
   "  MUGS_PROGRAM_ID            Marketplace program address",
   "  MUGS_COMMITMENT            processed | confirmed | finalized",
   "  MUGS_TIMEOUT_SECS          Per-call ledger timeout",
   "  MUGS_VERBOSE               1 to log each step"]

/-- The lines on the commands. -/
def commandLines : List String :=
  ["COMMANDS:",
   "  idl                                    Print the instruction catalog as JSON",
   "  pda <KIND> [--mint ADDR] [--user ADDR] Derive a record address",
   "  decode <KIND> <HEX>                    Decode raw record bytes",
   "  events --file <JSON>                   Decode events from RPC transaction JSON",
   "  scan <KIND> --snapshot <JSON> [--mint ADDR]",
   "                                         List live records (KIND=escrow: vault balance)",
   "  build <OP> --snapshot <JSON> --payer <ADDR> [FLAGS]",
   "                                         Prepare a transaction against a snapshot",
   "  error <CODE>                           Describe a program error code"]

/-- The lines on how the command line is used. -/
def overview (catalog : Catalog) (binary : String) : List String :=
  [s!"🔧 {catalog.name} v{catalog.version} marketplace client", "", "USAGE:",
    s!"  {binary} <COMMAND> [ARGS]", ""]
    ++ environmentLines ++ [""]
    ++ commandLines ++ ["", "BUILD OPERATIONS:"]
    ++ operations.flatMap summaryLines
    ++ ["",
      "KINDS: global, listing, offer, auction, user (pda also: escrow, vault, ata, metadata)",
      "AMOUNTS: SOL with up to 9 decimals, or an integer followed by 'lamports'"]

/-! ### Methods -/

/-- The flags of an account: whether it is written, and whether it signs. -/
def accountFlags (isWritable isSigner : Bool) : List String :=
  (if isWritable then ["mut"] else []) ++ if isSigner then ["signer"] else []

/-- Flags in brackets, or nothing where there are none. -/
def bracketed (flags : List String) : String :=
  if flags.isEmpty then "" else "[" ++ ", ".intercalate flags ++ "]"

/-- The line on an account of a method. -/
def accountLine (a : Catalog.Account) : String :=
  let flags := bracketed (accountFlags a.writable a.signer)
  "  " ++ a.name ++ if flags.isEmpty then "" else " " ++ flags

/-- The lines on a method of the program. -/
def ofMethod (m : Method) : List String :=
  let entry := Catalog.ofMethod m
  [s!"📋 {entry.name} ({entry.accounts.length} account(s), {entry.args.length} arg(s))", "",
    "ACCOUNTS:"]
    ++ entry.accounts.map accountLine
    ++ (if entry.remainingAccounts then ["  ...treasury recipients, then creators [mut]"] else [])
    ++ ["", "ARGS:"]
    ++ entry.args.map fun arg => "  " ++ padded 20 arg.name ++ " " ++ arg.type

end Help

end AssetMarket
