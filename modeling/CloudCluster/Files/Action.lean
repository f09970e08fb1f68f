import CloudCluster.Files.Tree

/-!
Computations that change a file tree.

Such a computation can fail, and what it has changed before a failure stays
changed.
-/

namespace CloudCluster.Files

/-- A computation on a file tree that answers an `α` or fails with an `ε`. -/
abbrev Action (ε α : Type) := ExceptT ε (StateM Tree) α

namespace Action

/-- Asks a question about the tree. -/
def ask {ε α : Type} (question : Tree → Except ε α) : Action ε α :=
  fun tree => (question tree, tree)

/-- Changes the tree, unless that fails. An edit that fails is taken to have
changed nothing: a computation stops between two edits but never within one. -/
def change {ε : Type} (edit : Tree → Except ε Tree) : Action ε Unit :=
  fun tree => match edit tree with
    | .ok after => (.ok (), after)
    | .error e => (.error e, tree)

/-- Makes a directory with those above it, unless it is there. -/
def makeDirectories (mode : Nat) : Nat → Path → Action Fault Unit
  | 0, _ => throw (.described "failed to create whole tree")
  | fuel + 1, path => do
    if path.isEmpty then return
    match (← get).makeDirectory path mode with
    | .ok tree => set tree
    | .error fault =>
      if fault.isNotFound then
        match path.parent? with
        | none => throw (.described "failed to create whole tree")
        | some parent => do
          makeDirectories mode fuel parent
          match (← get).makeDirectory path mode with
          | .ok tree => set tree
          | .error fault => if !(← get).isDirectory path then throw fault
      else if !(← get).isDirectory path then throw fault

/-- `makeDirectories`, as deep as the path is long. -/
def ensureDirectory (path : Path) (mode : Nat) : Action Fault Unit :=
  makeDirectories mode (path.utf8ByteSize + 1) path

end Action

end CloudCluster.Files
