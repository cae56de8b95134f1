/-
**Directories on paper.**

A directory holds files under names, lies itself in another one, and so on up to the root.  A path
is followed name by name, as a machine does it: each name but the last must lead to a directory,
and the first one that does not is reported, whatever comes after it.  What surrounds the working
directory is not known, except that its parents are directories and that the root has the usual
directories in it.

Main definitions:

* `PathFault` — what can go wrong with a path;
* `Location`, `Location.ofText` — places, and the one that a path leads to if nothing goes wrong;
* `Directory` — files under their locations;
* `Directory.enter`, `Directory.follow` — one name, and all names but the last one;
* `Directory.read`, `Directory.write` — files as a command uses them.
-/

set_option relaxedAutoImplicit false
set_option autoImplicit false

namespace AssetMarket

/-- What can go wrong with a path. -/
inductive PathFault where
  | missing
  | notDirectory
  | isDirectory
  | nameTooLong
  deriving DecidableEq, Repr

/-- What a machine says about each fault. -/
def PathFault.message : PathFault → String
  | .missing => "No such file or directory (os error 2)"
  | .notDirectory => "Not a directory (os error 20)"
  | .isDirectory => "Is a directory (os error 21)"
  | .nameTooLong => "File name too long (os error 36)"

/-- The most bytes of a name. -/
def maxNameLength : Nat := 255

/-- The most bytes of a path. -/
def maxPathLength : Nat := 4095

/-! ### Locations -/

/-- Where names begin: at the root, or some levels above the working directory. -/
inductive Origin where
  | root
  | above (levels : Nat)
  deriving DecidableEq, Repr

/-- A place, as an origin and the names that lead on from it. -/
structure Location where
  origin : Origin
  names : List String
  deriving DecidableEq, Repr

namespace Location

/-- The working directory. -/
def here : Location := ⟨.above 0, []⟩

/-- The location of a name at a location. -/
def child (l : Location) (name : String) : Location := ⟨l.origin, l.names ++ [name]⟩

/-- The directory in which a location lies.  The root lies in itself. -/
def parent : Location → Location
  | ⟨.root, []⟩ => ⟨.root, []⟩
  | ⟨.above levels, []⟩ => ⟨.above (levels + 1), []⟩
  | ⟨origin, names⟩ => ⟨origin, names.dropLast⟩

/-- Whether a name leads to a directory that is there in any case: where it stands, or up. -/
def isDots (name : String) : Bool := name = "." || name = ".."

/-- The location that a name leads to. -/
def next (l : Location) (name : String) : Location :=
  if name = "." then l else if name = ".." then l.parent else l.child name

/-- Where a path begins. -/
def startOf (path : String) : Location := if path.startsWith "/" then ⟨.root, []⟩ else here

/-- The names of a path. -/
def namesOf (path : String) : List String := (path.splitOn "/").filter (· ≠ "")

/-- The location that a path leads to if all names on it are those of directories. -/
def ofText (path : String) : Location := (namesOf path).foldl next (startOf path)

end Location

/-! ### Directories -/

/-- Files under their locations. -/
abbrev Directory := List (Location × String)

/-- The names of the usual directories in the root. -/
def rootNames : List String :=
  ["bin", "boot", "dev", "etc", "home", "lib", "media", "mnt", "opt", "proc", "root", "run", "sbin",
    "srv", "sys", "tmp", "usr", "var"]

namespace Directory

/-- The file at a location. -/
def file? (d : Directory) (l : Location) : Option String := d.lookup l

/-- Whether a file lies somewhere below a location. -/
def holds (d : Directory) (l : Location) : Bool :=
  d.any fun entry =>
    entry.1.origin = l.origin && l.names.isPrefixOf entry.1.names &&
      l.names.length < entry.1.names.length

/-- Whether a location is that of a directory. -/
def isDirectory (d : Directory) (l : Location) : Bool :=
  match l with
  | ⟨_, []⟩ => true
  | ⟨.root, [name]⟩ => name ∈ rootNames || d.holds l
  | _ => d.holds l

/-! ### Following paths -/

/-- What a name leads to that is not the last one of a path. -/
def enter (d : Directory) (l : Location) (name : String) : Except PathFault Location :=
  if Location.isDots name then .ok (l.next name)
  else if maxNameLength < name.utf8ByteSize then .error .nameTooLong
  else if d.isDirectory (l.child name) then .ok (l.child name)
  else if (d.file? (l.child name)).isSome then .error .notDirectory
  else .error .missing

/-- Where the last name of a path is looked for, and that name, if it is a proper one. -/
def follow (d : Directory) (path : String) : Except PathFault (Location × Option String) := do
  if path = "" then throw .missing
  if maxPathLength < path.utf8ByteSize then throw .nameTooLong
  let names := Location.namesOf path
  let l ← names.dropLast.foldlM d.enter (Location.startOf path)
  return (l, names.getLast?.filter fun name => !Location.isDots name)

/-! ### Using files -/

/-- Read a file.  A path with a slash at its end is one of a directory. -/
def read (d : Directory) (path : String) : Except PathFault String := do
  match ← d.follow path with
  | (_, none) => throw .isDirectory
  | (l, some name) =>
      if maxNameLength < name.utf8ByteSize then throw .nameTooLong
      if d.isDirectory (l.child name) then throw .isDirectory
      match d.file? (l.child name) with
      | some text => if path.endsWith "/" then throw .notDirectory else return text
      | none => throw .missing

/-- The files after a text has been written to a location. -/
def insert (d : Directory) (l : Location) (text : String) : Directory :=
  (l, text) :: d.filter (·.1 ≠ l)

/-- Write a file, in place of one that is there.  Nothing is looked for under a path with a slash
at its end. -/
def write (d : Directory) (path text : String) : Except PathFault Directory := do
  match ← d.follow path with
  | (_, none) => throw .isDirectory
  | (l, some name) =>
      if path.endsWith "/" then throw .isDirectory
      if maxNameLength < name.utf8ByteSize then throw .nameTooLong
      if d.isDirectory (l.child name) then throw .isDirectory
      return d.insert (l.child name) text

end Directory

end AssetMarket
