/-
**Preparing transactions.**

A prepared transaction first creates those records of the operation that do not exist yet, then
opens an account if need be, and last does what is wanted.

Main definitions:

* `LazyRecord.creation?` — the instruction that creates a record unless it exists;
* `LazyKind.record` — the record of a kind, if the mint is given that it needs;
* `Operation.prepare` — the transaction of an operation.

Main results:

* `LazyKind.creations_lazyKinds` — the records of an operation never lack a mint.
-/

import AssetMarket.Operation.Assembly

set_option relaxedAutoImplicit false
set_option autoImplicit false

namespace AssetMarket

/-- The instruction that creates a record unless there is something at its place. -/
def LazyRecord.creation? (ctx : Context) (payer : Address) (r : LazyRecord) :
    Inquiry (Option Instruction) := do
  let address ← (r.place payer).address ctx.market
  let create ← (r.call payer).build ctx.market
  match ← Inquiry.data? .record address with
  | some _ => return none
  | none =>
      Inquiry.remark ctx.verbose s!"  ℹ️  {r.name} {address} missing, adding init"
      return some create

/-- The instructions that create those of some records that do not exist. -/
def LazyRecord.creations (ctx : Context) (payer : Address) :
    List LazyRecord → Inquiry (List Instruction)
  | [] => return []
  | r :: rs => do
      let create ← r.creation? ctx payer
      return create.toList ++ (← creations ctx payer rs)

namespace LazyKind

/-- The mint of an operation, for a record that is about one. -/
def neededMint : Option Address → Except MarketError Address
  | some mint => .ok mint
  | none => .error (.invalidArgument "mint" "required for this record")

/-- The record of a kind, for an operation that is about a mint or about none. -/
def record (mint? : Option Address) : LazyKind → Except MarketError LazyRecord
  | .userAccount => return .userAccount
  | .listing => return .listing (← neededMint mint?)
  | .auction => return .auction (← neededMint mint?)
  | .offer => return .offer (← neededMint mint?)

/-- The instruction that creates the record of a kind unless there is something at its place. -/
def creation? (ctx : Context) (payer : Address) (mint? : Option Address) (kind : LazyKind) :
    Inquiry (Option Instruction) := do
  (← kind.record mint?).creation? ctx payer

/-- The instructions that create those records of some kinds that do not exist. -/
def creations (ctx : Context) (payer : Address) (mint? : Option Address) :
    List LazyKind → Inquiry (List Instruction)
  | [] => return []
  | kind :: kinds => do
      let create ← kind.creation? ctx payer mint?
      return create.toList ++ (← creations ctx payer mint? kinds)

/-- The records of an operation never lack a mint. -/
theorem creations_lazyKinds (ctx : Context) (payer : Address) (op : Operation) :
    creations ctx payer op.mint? op.lazyKinds = LazyRecord.creations ctx payer op.lazyRecords := by
  cases op <;> rfl

end LazyKind

/-- The transaction of an operation. -/
def Operation.prepare (ctx : Context) (source : CreatorSource) (payer : Address) (op : Operation) :
    Inquiry Transaction := do
  let set ← op.assemble ctx source payer
  let creations ← LazyKind.creations ctx payer op.mint? op.lazyKinds
  return .ofSet payer (creations.foldr (fun create set => set.prepend create) set)

end AssetMarket
