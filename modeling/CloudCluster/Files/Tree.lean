import CloudCluster.Files.Fault
import CloudCluster.Files.Path

/-!
A tree of files and directories.

A place in the tree is the list of names that leads there from the root, which
is a directory always. `locate` follows a path from the working directory to a
place; every name on the way must be a directory. The operations are those of
the system, with its refusals and their order.

Not modelled:

* a failure in the middle of an operation. Each one is done or refused as a
  whole, and what is refused has changed nothing: the disk is never full, no
  quota is used up, and the medium does not fail once a file is open;
* links. A file has one place, and a path leads through the names that are
  written in it;
* rights. Modes are kept but never enforced, as for root, who may read and
  write everything; only whether a file can be run is looked up in its mode.
-/

namespace CloudCluster.Files

/-- A place in a tree: the names from the root down. -/
abbrev Place := List String

/-- What stands at a place. The mode says who may do what, in octal; only
`isExecutable` looks at it. -/
inductive Entry where
  | file (bytes : ByteArray) (mode : Nat)
  | directory (mode : Nat)

/-- Entries are compared by their bytes and modes. -/
instance decidableEqEntry : DecidableEq Entry
  | .file a m, .file b n =>
    match ByteArray.instDecidableEq a b, Nat.decEq m n with
    | isTrue sameBytes, isTrue sameMode => isTrue (by rw [sameBytes, sameMode])
    | isFalse other, _ => isFalse fun h => other (Entry.file.inj h).1
    | _, isFalse other => isFalse fun h => other (Entry.file.inj h).2
  | .directory m, .directory n =>
    match Nat.decEq m n with
    | isTrue sameMode => isTrue (by rw [sameMode])
    | isFalse other => isFalse fun h => other (Entry.directory.inj h)
  | .file .., .directory _ => isFalse fun h => Entry.noConfusion h
  | .directory _, .file .. => isFalse fun h => Entry.noConfusion h

namespace Entry

/-- Whether the entry is a directory. -/
def isDirectory : Entry → Bool
  | directory _ => true
  | file .. => false

/-- The mode of an entry. -/
def mode : Entry → Nat
  | directory mode => mode
  | file _ mode => mode

/-- Whether the entry is a file that can be run. -/
def isExecutable : Entry → Bool
  | directory _ => false
  | file _ mode => mode / 64 % 2 = 1 || mode / 8 % 2 = 1 || mode % 2 = 1

end Entry

/-- A tree, with the directory that relative paths start from. -/
structure Tree where
  entries : List (Place × Entry) := []
  workingDirectory : Place := []
  deriving DecidableEq

namespace Tree

/-- The mode of a new file. -/
def newFileMode : Nat := 0o644

/-- The mode of a new directory that is given no other. -/
def newDirectoryMode : Nat := 0o755

/-- The longest name, in bytes. -/
def maxName : Nat := 255

/-- The longest path, in bytes. -/
def maxPath : Nat := 4095

/-- What stands at a place. -/
def find? (tree : Tree) (place : Place) : Option Entry :=
  if place.isEmpty then some (.directory newDirectoryMode) else tree.entries.lookup place

/-- Puts an entry into a list, in place of the one at the same place. -/
def insertEntry (place : Place) (entry : Entry) :
    List (Place × Entry) → List (Place × Entry)
  | [] => [(place, entry)]
  | (p, e) :: rest =>
    if p = place then (place, entry) :: rest else (p, e) :: insertEntry place entry rest

/-- The tree with an entry at a place. -/
def insert (tree : Tree) (place : Place) (entry : Entry) : Tree :=
  { tree with entries := insertEntry place entry tree.entries }

/-- The tree without what stands at a place. -/
def erase (tree : Tree) (place : Place) : Tree :=
  { tree with entries := tree.entries.filter (·.1 ≠ place) }

/-! ### Following paths -/

/-- Goes one step from a place, which has to be a directory. -/
def go (tree : Tree) (place : Place) (name : String) : Except SystemError Place :=
  match tree.find? place with
  | none => .error .notFound
  | some (.file ..) => .error .notDirectory
  | some (.directory _) =>
    if name = "" || name = "." then .ok place
    else if name = ".." then .ok place.dropLast
    else if maxName < name.utf8ByteSize then .error .nameTooLong
    else .ok (place ++ [name])

/-- Goes several steps. -/
def goAll (tree : Tree) : Place → List String → Except SystemError Place
  | place, [] => .ok place
  | place, name :: rest => do goAll tree (← tree.go place name) rest

/-- The steps of a path, unless it can be no path at all. -/
def steps (path : Path) : Except Fault (List String) :=
  if path.toList.contains '\x00' then .error .nulInPath
  else if path.isEmpty then .error (.system .notFound)
  else if maxPath < path.utf8ByteSize then .error (.system .nameTooLong)
  else .ok path.pieces

/-- Where a path starts. -/
def start (tree : Tree) (path : Path) : Place :=
  if path.isAbsolute then [] else tree.workingDirectory

/-- The place that a path leads to; there may be nothing at its last name. -/
def locate (tree : Tree) (path : Path) : Except Fault Place := do
  let names ← steps path
  (tree.goAll (tree.start path) names).mapError .system

/-- What stands where a path leads to. -/
def status (tree : Tree) (path : Path) : Except Fault Entry := do
  match tree.find? (← tree.locate path) with
  | some entry => return entry
  | none => throw (.system .notFound)

/-- Whether a path leads to a directory. -/
def isDirectory (tree : Tree) (path : Path) : Bool :=
  match tree.status path with
  | .ok entry => entry.isDirectory
  | .error _ => false

/-- Whether a path leads to a file. -/
def isFile (tree : Tree) (path : Path) : Bool :=
  match tree.status path with
  | .ok entry => !entry.isDirectory
  | .error _ => false

/-! ### Reading -/

/-- The bytes of a file. -/
def readBytes (tree : Tree) (path : Path) : Except Fault ByteArray := do
  match ← tree.status path with
  | .file bytes _ => return bytes
  | .directory _ => throw (.system .isDirectory)

/-- The text of a file. -/
def readText (tree : Tree) (path : Path) : Except Fault String := do
  match String.fromUTF8? (← tree.readBytes path) with
  | some text => return text
  | none => throw .notText

/-- The names in the directory at a place, with what they stand for. -/
def children (tree : Tree) (place : Place) : List (String × Entry) :=
  tree.entries.filterMap fun (p, entry) =>
    match p.getLast? with
    | some name => if p.dropLast = place then some (name, entry) else none
    | none => none

/-- The names in a directory in ascending order, with what they stand for. -/
def list (tree : Tree) (path : Path) : Except Fault (List (String × Entry)) := do
  let place ← tree.locate path
  match tree.find? place with
  | none => throw (.system .notFound)
  | some (.file ..) => throw (.system .notDirectory)
  | some (.directory _) => return (tree.children place).mergeSort fun a b => a.1 ≤ b.1

/-! ### Writing -/

/-- Whether the last step of a path gives a name to a new entry. -/
def endsInName (names : List String) : Bool :=
  match names.getLast? with
  | some name => name ≠ "" && name ≠ "." && name ≠ ".."
  | none => false

/-- The steps of a path without the empty ones behind its last name. -/
def dropSlashes (names : List String) : List String :=
  (names.reverse.dropWhile (· = "")).reverse

/-- The place that a new entry would get, in a directory that is there. -/
def locateNew (tree : Tree) (path : Path) (names : List String) : Except Fault Place :=
  let names := dropSlashes names
  let place := do
    let dir ← tree.goAll (tree.start path) names.dropLast
    tree.go dir (names.getLast?.getD "")
  place.mapError .system

/-- Replaces the contents of a file, or makes a new one in a directory that is
there. All of the bytes are written or, if that is refused, none. -/
def writeBytes (tree : Tree) (path : Path) (bytes : ByteArray) : Except Fault Tree := do
  let names ← steps path
  let place ← tree.locateNew path names
  if !endsInName names then throw (.system .isDirectory)
  match tree.find? place with
  | some (.directory _) => throw (.system .isDirectory)
  | some (.file _ mode) => return tree.insert place (.file bytes mode)
  | none => return tree.insert place (.file bytes newFileMode)

/-- `writeBytes` with the bytes of a text. -/
def writeText (tree : Tree) (path : Path) (text : String) : Except Fault Tree :=
  tree.writeBytes path text.toUTF8

/-- Removes a file. -/
def remove (tree : Tree) (path : Path) : Except Fault Tree := do
  let place ← tree.locate path
  match tree.find? place with
  | none => throw (.system .notFound)
  | some (.directory _) => throw (.system .isDirectory)
  | some (.file ..) => return tree.erase place

/-- Makes one directory. -/
def makeDirectory (tree : Tree) (path : Path) (mode : Nat) : Except Fault Tree := do
  let place ← tree.locateNew path (← steps path)
  match tree.find? place with
  | some _ => throw (.system .alreadyExists)
  | none => return tree.insert place (.directory mode)

end Tree

end CloudCluster.Files
