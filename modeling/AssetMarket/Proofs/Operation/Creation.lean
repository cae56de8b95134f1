/-
**What a prepared transaction creates.**

A client builds an instruction from a call, and the ledger takes it apart again: it reads the
method, the payer, an address and a mint, and knows nothing of places.  Here both ends are put
together.  An instruction that was built from a call creates the record of that call, blank and at
its own place; one that opens an account creates none.  So the transaction of an operation creates
those records that were missing when it was prepared, and besides them only what the operation
itself is there to create.

Main definitions:

* `Record.place`, `Record.located?` — the place of a record, told from its own keys;
* `Call.created?` — the record that a call creates;
* `LazyRecord.blank`, `LazyRecord.address?` — a record as it is created, and where;
* `Operation.ownRecord?` — the record that an operation is there to create.

Main results:

* `MemoryLedger.creation?_of_build` — **a call creates its record at the record's own place**;
* `Operation.creations_of_prepare`, `Operation.targets_of_prepare` — the records that a prepared
  transaction creates, and where;
* `Operation.map_filter_initializes_of_prepare` — which of its instructions create them.
-/

import AssetMarket.Proofs.Ledger.Submission
import AssetMarket.Proofs.Operation.Events

set_option relaxedAutoImplicit false
set_option autoImplicit false

namespace AssetMarket

/-! ### Records and their places -/

/-- The place of a record, told from its own keys. -/
def Record.place : Record → Place
  | .globalConfig _ => .global
  | .listing r => .listing r.mint
  | .offer r => .offer r.mint r.buyer
  | .auction r => .auction r.mint
  | .userAccount r => .user r.address

/-- A record with the address of its place. -/
def Record.located? (market : Address) (r : Record) : Option (Address × Record) :=
  (r.place.address market).toOption.map fun a => (a, r)

theorem Record.located?_eq_some_iff {market a : Address} {r r' : Record} :
    r.located? market = some (a, r') ↔ r.place.address market = .ok a ∧ r = r' := by
  rw [located?]
  cases r.place.address market <;> simp [Except.toOption]

namespace LazyRecord

/-- The record as it is created. -/
def blank (payer : Address) : LazyRecord → Record
  | .userAccount => .userAccount (.blank payer)
  | .listing mint => .listing (.blank mint)
  | .auction mint => .auction (.blank mint)
  | .offer mint => .offer (.blank mint payer)

/-- The address of the record. -/
def address? (market payer : Address) (r : LazyRecord) : Option Address :=
  ((r.place payer).address market).toOption

theorem place_blank (payer : Address) (r : LazyRecord) : (r.blank payer).place = r.place payer := by
  cases r <;> rfl

theorem map_located?_blank (market payer : Address) (r : LazyRecord) :
    ((r.blank payer).located? market).map (·.1) = r.address? market payer := by
  rw [Record.located?, place_blank, Option.map_map]
  exact Option.map_id'

theorem address?_eq_some_iff {market payer a : Address} {r : LazyRecord} :
    r.address? market payer = some a ↔ (r.place payer).address market = .ok a := by
  rw [address?]
  cases (r.place payer).address market <;> simp [Except.toOption]

end LazyRecord

/-! ### Instructions and calls -/

namespace Instruction

variable {i : Instruction}

theorem opcode_isPrefixOf_of_opensTokenAccount (h : i.opensTokenAccount = true) (m : Method) :
    m.opcode.isPrefixOf i.data = false := by
  rw [opensTokenAccount, Bool.and_eq_true, beq_iff_eq, beq_iff_eq] at h
  rw [Bool.eq_false_iff, ne_eq, List.isPrefixOf_iff_prefix, h.2]
  intro hbegins
  -- one byte is too short for an opcode, whatever program the market is
  have hlen := hbegins.length_le
  rw [Method.length_opcode] at hlen
  exact absurd hlen (by decide)

/-- What opens an account is no call of the market. -/
theorem calls_of_opensTokenAccount (h : i.opensTokenAccount = true) (market : Address)
    (m : Method) : i.calls market m = false := by
  rw [calls, opcode_isPrefixOf_of_opensTokenAccount h, Bool.and_false]

theorem initializes_of_opensTokenAccount (h : i.opensTokenAccount = true) (market : Address) :
    i.initializes market = false := by
  rw [initializes, List.any_eq_false]
  intro m _
  rw [calls_of_opensTokenAccount h]
  exact Bool.false_ne_true

end Instruction

namespace Call

/-- The record that a call creates. -/
def created? : Call → Option Record
  | .initUser owner => some (.userAccount (.blank owner))
  | .initListing _ mint => some (.listing (.blank mint))
  | .initOffer payer mint => some (.offer (.blank mint payer))
  | .initAuction _ mint => some (.auction (.blank mint))
  | _ => none

theorem isSome_created? (call : Call) :
    call.created?.isSome = decide (call.method ∈ Method.creators) := by
  cases call <;> rfl

theorem method_mem_creators_iff {call : Call} :
    call.method ∈ Method.creators ↔ call.created?.isSome = true := by
  rw [isSome_created?, decide_eq_true_eq]

@[simp] theorem created?_lazyRecord (r : LazyRecord) (payer : Address) :
    (r.call payer).created? = some (r.blank payer) := by
  cases r <;> rfl

section

variable {market : Address} {call : Call} {i : Instruction}

theorem opcode_isPrefixOf_of_build (h : call.build market = .ok i) (m : Method) :
    m.opcode.isPrefixOf i.data = decide (call.method = m) := by
  have hbegins : call.method.opcode <+: i.data := by
    rw [← (build_eq_ok_iff.1 h).2]
    exact List.prefix_append _ _
  rw [Bool.eq_iff_iff, List.isPrefixOf_iff_prefix, decide_eq_true_eq]
  exact ⟨Method.eq_of_begins hbegins, fun heq => heq ▸ hbegins⟩

theorem calls_of_build (h : call.build market = .ok i) (m : Method) :
    i.calls market m = decide (call.method = m) := by
  have hprogram : i.program = market := by
    rw [← (build_eq_ok_iff.1 h).2]
    rfl
  rw [Instruction.calls, hprogram, beq_self_eq_true, Bool.true_and, opcode_isPrefixOf_of_build h]

theorem initializes_of_build (h : call.build market = .ok i) :
    i.initializes market = call.created?.isSome := by
  rw [isSome_created?, Bool.eq_iff_iff, Instruction.initializes_eq_true_iff, decide_eq_true_eq]
  simp only [calls_of_build h, decide_eq_true_eq]
  exact ⟨fun ⟨m, hm, heq⟩ => heq ▸ hm, fun hm => ⟨_, hm, rfl⟩⟩

/-- The address of a record that a call creates is one that the call looks for. -/
theorem address_of_build {r : Record} (h : call.build market = .ok i)
    (hr : call.created? = some r) : r.place.address market = .ok (r.place.site market).address := by
  have hplace : r.place ∈ call.places (Place.site market) := by
    cases call <;> cases hr <;> exact List.mem_singleton_self _
  exact address_of_mem_places h hplace

end

end Call

/-! ### What the ledger makes of them -/

namespace MemoryLedger

variable {l : MemoryLedger} {call : Call} {i : Instruction}

/-- The mint that stands right behind an opcode is read. -/
theorem mintArgument?_opcode_append (m : Method) (mint : Address) (rest : Bytes) :
    mintArgument? (m.opcode ++ (mint.bytes ++ rest)) = some mint := by
  have hread : Bytes.slice (m.opcode ++ (mint.bytes ++ rest)) m.opcode.length mint.bytes.length
      = mint.bytes := Bytes.slice_append_append ..
  rw [Method.length_opcode, mint.length_bytes] at hread
  rw [mintArgument?, Method.opcodeLength, hread, Address.ofBytes?_bytes]

/-- The ledger finds the method of a call, and reads the rest accordingly. -/
theorem creation?_eq_of_build (h : call.build l.market = .ok i) :
    l.creation? i = i.accounts[0]?.bind fun payer => i.accounts[1]?.bind fun target =>
      (blankRecord? payer.address (mintArgument? i.data) call.method).map fun r =>
        (target.address, r) := by
  have hcalls := Instruction.calls_eq_true_iff.1
    ((Call.calls_of_build h _).trans (decide_eq_true rfl))
  rw [creation?, hcalls.1, Method.ofData?_eq_some_iff.2 hcalls.2]
  simp only [guard, Option.map_eq_bind]
  rfl

/-- **A call creates its record at the record's own place.** -/
theorem creation?_of_build (h : call.build l.market = .ok i) :
    l.creation? i = call.created?.bind (·.located? l.market) := by
  -- the layout of the call says what stands where the ledger looks
  have hread : l.creation? i = call.created?.map fun r => ((r.place.site l.market).address, r) := by
    rw [creation?_eq_of_build h, ← (Call.build_eq_ok_iff.1 h).2]
    cases call with
    | initListing payer mint | initOffer payer mint | initAuction payer mint =>
        simp only [Call.instruction, Call.argsAt, Call.values, mintArgument?_opcode_append]
        rfl
    -- a user's record needs no argument, and no other method creates anything
    | _ => rfl
  rw [hread]
  cases hcreated : call.created? with
  | none => rfl
  | some r =>
      exact (Record.located?_eq_some_iff.2 ⟨Call.address_of_build h hcreated, rfl⟩).symm

/-- What opens an account creates no record. -/
theorem creation?_of_opensTokenAccount (h : i.opensTokenAccount = true) : l.creation? i = none := by
  rw [Option.eq_none_iff_forall_ne_some]
  rintro ⟨a, r⟩ hcreation
  have hcreates := exists_creation?_iff.1 ⟨r, hcreation⟩
  exact absurd hcreates.initializes (by simp [Instruction.initializes_of_opensTokenAccount h])

end MemoryLedger

/-! ### What a transaction creates -/

/-- In a prepared transaction no other program's instructions are like the market's. -/
theorem Transaction.Prepared.opcode_isPrefixOf_eq {tx : Transaction} {market : Address}
    (htx : tx.Prepared market) {i : Instruction} (hi : i ∈ tx.instructions) (m : Method) :
    m.opcode.isPrefixOf i.data = i.calls market m := by
  rcases htx i hi with hopens | ⟨call, hbuild⟩
  · rw [Instruction.calls_of_opensTokenAccount hopens,
      Instruction.opcode_isPrefixOf_of_opensTokenAccount hopens]
  · rw [Call.opcode_isPrefixOf_of_build hbuild, Call.calls_of_build hbuild]

namespace Operation

/-- The record that an operation is there to create. -/
def ownRecord? : Operation → Option LazyRecord
  | .initUser => some .userAccount
  | .initListing mint => some (.listing mint)
  | .initOffer mint => some (.offer mint)
  | .initAuction mint => some (.auction mint)
  | _ => none

/-- The records that a transaction of the operation creates: what is missing, then its own. -/
def created (op : Operation) (read : Address → Option Bytes) (market payer : Address) :
    List LazyRecord :=
  op.missing read market payer ++ op.ownRecord?.toList

variable {read : Address → Option Bytes} {ctx : Context} {source : CreatorSource}
  {payer : Address} {op : Operation} {tx : Transaction}

/-- The call of an operation creates what the operation is there to create, and nothing else. -/
theorem call_of_assembles {call : Call} {create : Option Instruction}
    (h : Assembles read ctx source payer op call create) :
    op.ownRecord? = none ∧ call.created? = none ∨
      ∃ r, op.ownRecord? = some r ∧ call = r.call payer := by
  cases h with
  | direct hcall =>
      cases op <;> cases hcall <;> first | exact .inl ⟨rfl, rfl⟩ | exact .inr ⟨_, rfl, rfl⟩
  | _ => exact .inl ⟨rfl, rfl⟩

theorem created?_of_assembles {call : Call} {create : Option Instruction}
    (h : Assembles read ctx source payer op call create) :
    call.created? = op.ownRecord?.map (·.blank payer) := by
  rcases call_of_assembles h with ⟨hown, hcreated⟩ | ⟨r, hown, rfl⟩
  · rw [hown, hcreated]
    rfl
  · rw [hown, Call.created?_lazyRecord]
    rfl

theorem prepared_of_eval_prepare (h : (op.prepare ctx source payer).eval read = .ok tx) :
    tx.Prepared ctx.market := by
  obtain ⟨creations, call, create, i, hcreations, hcall, hbuild, rfl⟩ := parts_of_eval_prepare h
  exact prepared_of_parts hcreations (opensTokenAccount_of_assembles hcall) hbuild rfl

/-- **The records that a prepared transaction creates**, each at its own place. -/
theorem creations_of_prepare {l : MemoryLedger} (hmarket : l.market = ctx.market)
    (h : (op.prepare ctx source payer).eval read = .ok tx) :
    l.creations tx = (op.created read ctx.market payer).filterMap fun r =>
      (r.blank payer).located? ctx.market := by
  obtain ⟨creations, call, create, i, hcreations, hcall, hbuild, rfl⟩ := parts_of_eval_prepare h
  rw [← hmarket] at hcreations hbuild ⊢
  have hmissing : creations.filterMap l.creation?
      = (op.missing read l.market payer).filterMap fun r => (r.blank payer).located? l.market := by
    rw [filterMap_of_map_build (fun _ _ => MemoryLedger.creation?_of_build) hcreations,
      List.filterMap_map]
    simp only [Function.comp_def, Call.created?_lazyRecord, Option.bind_some]
  have hopened : create.toList.filterMap l.creation? = [] := by
    rw [List.filterMap_eq_nil_iff]
    intro j hj
    exact MemoryLedger.creation?_of_opensTokenAccount
      (opensTokenAccount_of_assembles hcall j (Option.mem_toList.1 hj))
  have hown : [i].filterMap l.creation?
      = op.ownRecord?.toList.filterMap fun r => (r.blank payer).located? l.market := by
    rw [List.filterMap_cons, MemoryLedger.creation?_of_build hbuild, created?_of_assembles hcall]
    cases op.ownRecord? with
    | none => rfl
    | some r => rfl
  rw [MemoryLedger.creations, List.filterMap_append, List.filterMap_append, hmissing, hopened, hown,
    List.nil_append, created, List.filterMap_append]

/-- Where a prepared transaction creates records. -/
theorem targets_of_prepare {l : MemoryLedger} (hmarket : l.market = ctx.market)
    (h : (op.prepare ctx source payer).eval read = .ok tx) :
    l.targets tx.instructions
      = (op.created read ctx.market payer).filterMap (·.address? ctx.market payer) := by
  rw [← MemoryLedger.map_creations, creations_of_prepare hmarket h, List.map_filterMap]
  exact List.filterMap_congr fun r _ => r.map_located?_blank ctx.market payer

/-- **Which instructions of a prepared transaction create records**: the calls of those records. -/
theorem map_filter_initializes_of_prepare (h : (op.prepare ctx source payer).eval read = .ok tx) :
    (tx.instructions.filter (·.initializes ctx.market)).map .ok
      = (op.created read ctx.market payer).map fun r => (r.call payer).build ctx.market := by
  obtain ⟨creations, call, create, i, hcreations, hcall, hbuild, rfl⟩ := parts_of_eval_prepare h
  have hmissing : creations.filter (·.initializes ctx.market) = creations := by
    rw [List.filter_eq_self]
    intro j hj
    obtain ⟨call, hcall, hj⟩ := exists_build_of_map_build hcreations hj
    obtain ⟨r, -, rfl⟩ := List.mem_map.1 hcall
    rw [Call.initializes_of_build hj, Call.created?_lazyRecord]
    rfl
  have hopened : create.toList.filter (·.initializes ctx.market) = [] := by
    rw [List.filter_eq_nil_iff]
    intro j hj
    rw [Instruction.initializes_of_opensTokenAccount
      (opensTokenAccount_of_assembles hcall j (Option.mem_toList.1 hj))]
    exact Bool.false_ne_true
  have hown : ([i].filter (·.initializes ctx.market)).map .ok
      = op.ownRecord?.toList.map fun r => (r.call payer).build ctx.market := by
    rw [List.filter_singleton, Call.initializes_of_build hbuild, created?_of_assembles hcall]
    rcases call_of_assembles hcall with ⟨hnone, -⟩ | ⟨r, hsome, rfl⟩
    · rw [hnone]
      rfl
    · rw [hsome]
      exact congrArg (fun x => [x]) hbuild.symm
  rw [List.filter_append, List.filter_append, hmissing, hopened, List.nil_append, List.map_append,
    hcreations, hown, created, List.map_append, List.map_map]
  rfl

end Operation

end AssetMarket
