/-
**The files that a command line changes.**

Commands read files, but only one of them writes any: `build`, if it is to submit the operation and
not only to show it, and if a file is named for the ledger after it.  So whatever the arguments are
and however a command ends, all other files are left alone.

That is seen from the courses of actions alone.  What a course may write does not depend on the
machine that carries it out; a machine comes in where paths that differ may lead to one file.

Main definitions:

* `Shell.WritesOnly` — a course of actions that writes to no paths but some.

Main results:

* `Directory.write_eq_ok` — a path that is written to leads where its names do;
* `Shell.WritesOnly.bind` — what follows after one another writes what its parts write;
* `Shell.WritesOnly.file?_rehearse` — **a file that no such path leads to stays as it is**;
* `CommandLine.writesOnly_run` — a command line writes to the path that `build --submit --out` names;
* `CommandLine.file?_run` — **and so it changes no other file**.
-/

import AssetMarket.CommandLine
import AssetMarket.CommandLine.Rehearsal

set_option relaxedAutoImplicit false
set_option autoImplicit false

namespace AssetMarket

/-! ### Directories -/

namespace Directory

variable {d after : Directory} {l l' : Location} {name path text : String}

theorem file?_insert_of_ne (h : l' ≠ l) : (d.insert l text).file? l' = d.file? l' := by
  have hhead : (l' == l) = false := beq_eq_false_iff_ne.2 h
  rw [insert, file?, List.lookup_cons, hhead, file?]
  induction d with
  | nil => rfl
  | cons entry d ih =>
      obtain ⟨l'', text''⟩ := entry
      by_cases hsame : l'' = l
      · subst hsame
        rw [List.filter_cons_of_neg (by simp), List.lookup_cons, hhead]
        exact ih
      · rw [List.filter_cons_of_pos (by simpa using hsame), List.lookup_cons, List.lookup_cons]
        cases l' == l'' with
        | true => rfl
        | false => exact ih

theorem next_eq_child (h : Location.isDots name = false) : l.next name = l.child name := by
  simp only [Location.isDots, Bool.or_eq_false_iff, decide_eq_false_iff_not] at h
  rw [Location.next, if_neg h.1, if_neg h.2]

/-- A name that leads on leads where it would if there were no files. -/
theorem enter_eq_ok (h : d.enter l name = .ok l') : l.next name = l' := by
  rw [enter] at h
  split at h
  next => exact Except.ok.inj h
  next hdots =>
    rw [next_eq_child (Bool.eq_false_iff.2 hdots)]
    split at h
    next => cases h
    next =>
      split at h
      next => exact Except.ok.inj h
      next => split at h <;> cases h

theorem foldlM_enter_eq_ok {names : List String} (h : names.foldlM d.enter l = .ok l') :
    names.foldl Location.next l = l' := by
  induction names generalizing l with
  | nil => exact Except.ok.inj h
  | cons name names ih =>
      rw [List.foldlM_cons] at h
      cases hname : d.enter l name with
      | error fault =>
          rw [hname] at h
          cases h
      | ok next =>
          rw [hname] at h
          rw [List.foldl_cons, enter_eq_ok hname]
          exact ih h

/-- What is looked for under the last name of a path is where all of its names lead. -/
theorem follow_eq_ok (h : d.follow path = .ok (l, some name)) :
    Location.ofText path = l.child name := by
  simp only [follow, bind, Except.bind] at h
  split at h
  next => cases h
  next =>
    split at h
    next => cases h
    next =>
      split at h
      next => cases h
      next l' hl' =>
        obtain ⟨rfl, hname⟩ := Prod.mk.inj (Except.ok.inj h)
        obtain ⟨hlast, hdots⟩ := Option.filter_eq_some_iff.1 hname
        obtain ⟨front, hnames⟩ := List.getLast?_eq_some_iff.1 hlast
        rw [hnames, List.dropLast_concat] at hl'
        rw [Location.ofText, hnames, List.foldl_append, foldlM_enter_eq_ok hl', List.foldl_cons,
          List.foldl_nil, next_eq_child (by simpa using hdots)]

/-- A path that is written to leads where its names do. -/
theorem write_eq_ok (h : d.write path text = .ok after) :
    after = d.insert (Location.ofText path) text := by
  simp only [write, bind, Except.bind] at h
  split at h
  next => cases h
  next found hfound =>
    split at h
    next => cases h
    next l name =>
      split at h
      next => cases h
      next =>
        split at h
        next => cases h
        next =>
          split at h
          next => cases h
          next =>
            rw [follow_eq_ok hfound]
            exact (Except.ok.inj h).symm

end Directory

/-! ### What a course of actions writes -/

namespace Shell

/-- A course of actions that writes to no paths but those that are allowed, whatever it reads and
whatever comes of what it writes. -/
inductive WritesOnly {α : Type} (allowed : String → Prop) : Shell α → Prop where
  | done (a : α) : WritesOnly allowed (.done a)
  | failed (code : UInt8) : WritesOnly allowed (.failed code)
  | print {stream : Stream} {line : String} {next : Shell α} (h : next.WritesOnly allowed) :
      WritesOnly allowed (.print stream line next)
  | read {path : String} {next : Except String String → Shell α}
      (h : ∀ result, (next result).WritesOnly allowed) : WritesOnly allowed (.read path next)
  | write {path text : String} {next : Except String Unit → Shell α} (hpath : allowed path)
      (h : ∀ result, (next result).WritesOnly allowed) : WritesOnly allowed (.write path text next)

namespace WritesOnly

variable {α β ε : Type} {allowed : String → Prop}

/-- A file that no such path leads to stays as it is. -/
theorem file?_rehearse {x : Shell α} (hx : x.WritesOnly allowed) {l : Location}
    (hl : ∀ path, allowed path → Location.ofText path ≠ l) (d : Directory) :
    (x.rehearse d).files.file? l = d.file? l := by
  induction hx generalizing d with
  | done a => rfl
  | failed code => rfl
  | print _ ih => exact ih d
  | read _ ih => exact ih _ d
  | @write path text next hpath _ ih =>
      rw [rehearse]
      split
      next after hafter =>
        rw [ih _ after, Directory.write_eq_ok hafter]
        exact Directory.file?_insert_of_ne (hl path hpath).symm
      next => exact ih _ d

/-! What follows after one another writes what its parts write. -/

theorem bind {x : Shell α} {f : α → Shell β} (hx : x.WritesOnly allowed)
    (hf : ∀ a, (f a).WritesOnly allowed) : (x >>= f).WritesOnly allowed := by
  induction hx with
  | done a => exact hf a
  | failed code => exact .failed code
  | print _ ih => exact .print ih
  | read _ ih => exact .read ih
  | write hpath _ ih => exact .write hpath ih

theorem map {x : Shell α} (f : α → β) (hx : x.WritesOnly allowed) :
    (f <$> x).WritesOnly allowed := hx.bind fun a => .done (f a)

theorem mapM {f : α → Shell β} (hf : ∀ a, (f a).WritesOnly allowed) (as : List α) :
    (as.mapM f).WritesOnly allowed := by
  induction as with
  | nil => exact .done []
  | cons a as ih =>
      rw [List.mapM_cons]
      exact (hf a).bind fun b => ih.bind fun bs => .done (b :: bs)

/-! Only one action writes. -/

theorem tell (lines : Console) : (tell lines).WritesOnly allowed := by
  induction lines with
  | nil => exact .done ()
  | cons line lines ih => exact .print ih

theorem out (line : String) : (out line).WritesOnly allowed := .print (.done ())

theorem warn (line : String) : (warn line).WritesOnly allowed := .print (.done ())

theorem outAll (lines : List String) : (outAll lines).WritesOnly allowed := .tell _

theorem refuse (reason : String) : (refuse reason : Shell α).WritesOnly allowed :=
  .print (.failed 1)

theorem orRefuse (reason : String) (a? : Option α) : (orRefuse reason a?).WritesOnly allowed := by
  cases a? with
  | none => exact .refuse reason
  | some a => exact .done a

theorem ofExcept (message : ε → String) (result : Except ε α) :
    (ofExcept message result).WritesOnly allowed := by
  cases result with
  | error e => exact .refuse _
  | ok a => exact .done a

theorem ofReading (isBreakdown : ε → Bool) (message : ε → String) (result : Except ε α) :
    (ofReading isBreakdown message result).WritesOnly allowed := by
  cases result with
  | error e =>
      rw [Shell.ofReading]
      split
      · exact .print (.failed 101)
      · exact .refuse _
  | ok a => exact .done a

theorem ofMarket (result : Except MarketError α) : (ofMarket result).WritesOnly allowed :=
  .ofReading _ _ _

theorem ofArguments (result : Except ArgumentError α) : (ofArguments result).WritesOnly allowed :=
  .ofReading _ _ _

theorem readFile (path : String) : (readFile path).WritesOnly allowed := .read (.ofExcept _)

theorem writeFile {path : String} (hpath : allowed path) (text : String) :
    (writeFile path text).WritesOnly allowed := .write hpath (.ofExcept _)

theorem client (work : Client MemoryLedger α) (l : MemoryLedger) :
    (client work l).WritesOnly allowed :=
  (tell _).bind fun _ => (ofMarket _).bind fun _ => .done _

end WritesOnly

end Shell

/-! ### Commands -/

namespace CommandLine

open Shell (WritesOnly)

variable {allowed : String → Prop} (ctx : Context) (flags : Flags)

theorem writesOnly_address (flag : String) : (address flags flag).WritesOnly allowed :=
  .ofArguments _

theorem writesOnly_path (flag : String) : (path flags flag).WritesOnly allowed := .orRefuse _ _

theorem writesOnly_ledger : (ledger ctx flags).WritesOnly allowed :=
  .bind (writesOnly_path flags _) fun _ => .bind (.readFile _) fun _ => .ofMarket _

theorem writesOnly_catalog (name : Option String) : (catalog name).WritesOnly allowed := by
  cases name with
  | none => exact .out _
  | some name =>
      rw [catalog]
      split
      · exact .outAll _
      · exact .refuse _

theorem writesOnly_placeOfName (name : String) :
    (placeOfName ctx name flags).WritesOnly allowed := by
  have one (flag : String) (make : Address → Place) :
      (address flags flag >>= fun a => pure (make a)).WritesOnly allowed :=
    .bind (writesOnly_address flags flag) fun _ => .done _
  have two (flag flag' : String) (make : Address → Address → Place) :
      (address flags flag >>= fun a => address flags flag' >>= fun b =>
        pure (make a b)).WritesOnly allowed :=
    .bind (writesOnly_address flags flag) fun _ => one flag' _
  unfold placeOfName
  split
  · exact .done _
  · exact .done _
  · exact one "mint" _
  · exact one "mint" _
  · exact two "mint" "user" _
  · exact one "mint" _
  · exact one "user" _
  · exact two "user" "mint" _
  · exact .bind (.ofMarket _) fun _ => one "mint" _
  · exact one "mint" _
  · exact .refuse _

theorem writesOnly_place (name : Option String) : (place ctx name flags).WritesOnly allowed :=
  .bind (.orRefuse _ _) fun name => .bind (writesOnly_placeOfName ctx flags name) fun _ =>
    .bind (.ofMarket _) fun _ => .outAll _

theorem writesOnly_decode (operands : List String) : (decode operands).WritesOnly allowed := by
  unfold decode
  split
  · refine .bind (.orRefuse _ _) fun _ => .bind (.ofExcept _ _) fun _ => .bind (.ofMarket _) fun _ =>
      .bind (.out _) fun _ => ?_
    split
    · exact .warn _
    · exact .done _
  · exact .refuse _

theorem writesOnly_scan (name : Option String) : (scan ctx name flags).WritesOnly allowed := by
  refine .bind (.orRefuse _ _) fun name => ?_
  split
  · exact .bind (writesOnly_ledger ctx flags) fun _ => .bind (.client _ _) fun _ => .out _
  · refine .bind (.orRefuse _ _) fun _ => .bind (writesOnly_ledger ctx flags) fun _ => ?_
    refine .bind ?_ fun _ => .bind (.client _ _) fun _ => .out _
    rw [mintOf]
    split
    · exact .map _ (writesOnly_address flags _)
    · exact .done _

theorem writesOnly_events : (events ctx flags).WritesOnly allowed := by
  refine .bind (writesOnly_path flags _) fun _ => .bind (.readFile _) fun _ =>
    .bind (.ofMarket _) fun _ => .bind (.tell _) fun _ => .bind (.tell _) fun _ => ?_
  dsimp only
  split
  · exact .out _
  · exact .bind (.out _) fun _ => .outAll _

theorem writesOnly_creatorSource : (creatorSource flags).WritesOnly allowed := by
  rw [creatorSource]
  split
  · exact .bind (.mapM (fun _ => .ofReading _ _ _) _) fun _ => .done _
  · exact .done _

theorem writesOnly_dryRun (source : CreatorSource) (payer : Address) (op : Operation)
    (l : MemoryLedger) : (dryRun ctx source payer op l).WritesOnly allowed :=
  .bind (.client _ _) fun _ => .bind (.outAll _) fun _ => .outAll _

/-- The one place at which anything is written. -/
theorem writesOnly_keep (l : MemoryLedger)
    (hout : ∀ path, flags.value? "out" = some path → allowed path) :
    (keep flags l).WritesOnly allowed := by
  rw [keep]
  split
  next path hpath => exact .bind (.writeFile (hout path hpath) _) fun _ => .out _
  next => exact .done ()

theorem writesOnly_submit (source : CreatorSource) (payer : Address) (op : Operation)
    (l : MemoryLedger) (hout : ∀ path, flags.value? "out" = some path → allowed path) :
    (submit ctx source payer op flags l).WritesOnly allowed := by
  refine .bind (.client _ _) ?_
  rintro ⟨result, l⟩
  refine .bind (.outAll _) fun _ => .bind (.outAll _) fun _ => ?_
  dsimp only
  split
  · exact .bind (.out _) fun _ => writesOnly_keep flags l hout
  · exact writesOnly_keep flags l hout

theorem writesOnly_build (name : Option String)
    (hout : ∀ path, flags.has "submit" = true → flags.value? "out" = some path → allowed path) :
    (build ctx name flags).WritesOnly allowed := by
  refine .bind (.orRefuse _ _) fun name => .bind (writesOnly_ledger ctx flags) fun l =>
    .bind (writesOnly_creatorSource flags) fun source => .bind (writesOnly_address flags _)
      fun payer => .bind (.ofArguments _) fun op => ?_
  split
  next hsubmit => exact writesOnly_submit ctx flags source payer op l fun path => hout path hsubmit
  next => exact writesOnly_dryRun ctx source payer op l

theorem writesOnly_error (code : Option String) : (error code).WritesOnly allowed :=
  .bind (.orRefuse _ _) fun _ => .bind (.ofExcept _ _) fun _ => .bind (.orRefuse _ _) fun _ => .out _

theorem writesOnly_unknown (binary command : String) :
    (unknown binary command).WritesOnly allowed :=
  .bind (.warn _) fun _ => .bind (.warn _) fun _ => .failed 1

theorem writesOnly_runCommand (binary command : String) (operands : List String)
    (hout : ∀ path, command = "build" → flags.has "submit" = true →
      flags.value? "out" = some path → allowed path) :
    (runCommand ctx binary command operands flags).WritesOnly allowed := by
  unfold runCommand
  split
  · exact .outAll _
  · exact .outAll _
  · exact .outAll _
  · exact writesOnly_catalog _
  · exact writesOnly_place ctx flags _
  · exact writesOnly_decode operands
  · exact writesOnly_events ctx flags
  · exact writesOnly_scan ctx flags _
  · exact writesOnly_build ctx flags _ fun path => hout path rfl
  · exact writesOnly_error _
  · exact writesOnly_unknown binary command

/-- The path that a command line names for the ledger after a submission. -/
def Names (args : List String) (path : String) : Prop :=
  ∃ rest, args = "build" :: rest ∧ (Flags.ofArguments rest).has "submit" = true ∧
    (Flags.ofArguments rest).value? "out" = some path

/-- A command line writes to no other path than `build --submit --out` names. -/
theorem writesOnly_run (valueOf? : String → Option String) (binary : String) (args : List String) :
    (run valueOf? binary args).WritesOnly (Names args) := by
  refine .bind (.ofMarket _) fun ctx => ?_
  cases args with
  | nil => exact .outAll _
  | cons command rest =>
      refine writesOnly_runCommand ctx _ binary command _ fun path hcommand hsubmit hout => ?_
      exact ⟨rest, congrArg (· :: rest) hcommand, hsubmit, hout⟩

/-- **A command line changes no other file than the one that `build --submit --out` names**, however
it ends and whatever the other files are. -/
theorem file?_run (valueOf? : String → Option String) (binary : String) (args : List String)
    (d : Directory) {l : Location} (hl : ∀ path, Names args path → Location.ofText path ≠ l) :
    ((run valueOf? binary args).rehearse d).files.file? l = d.file? l :=
  (writesOnly_run valueOf? binary args).file?_rehearse hl d

end CommandLine

end AssetMarket
