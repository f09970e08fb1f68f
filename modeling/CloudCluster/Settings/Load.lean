import CloudCluster.Settings.Variable
import CloudCluster.Toml.Read

/-!
Where settings come from.

They come from a file, which is looked for in the working directory and in
those above it, and from the environment, which wins over the file.
-/

namespace CloudCluster.Settings

open Files

/-- The file that settings are kept in. -/
def fileName : Path := "stratus.toml"

/-- A place and those above it, nearest first. -/
def upwards : Nat → Place → List Place
  | 0, place => [place]
  | n + 1, place => place :: upwards n place.dropLast

/-- The tree as it is seen from the directory where a file is found. -/
def findFile (tree : Tree) (path : Path) : Option Tree :=
  let places :=
    if path.isAbsolute then [tree.workingDirectory]
    else upwards tree.workingDirectory.length tree.workingDirectory
  (places.map fun place => { tree with workingDirectory := place }).find? (·.isFile path)

/-- The layer of a file; a file that is not found sets nothing. -/
def fileLayer (tree : Tree) (path : Path) : Except Error Toml.Fields :=
  match findFile tree path with
  | none => .ok []
  | some tree => do
    let text ← (tree.readText path).mapError .unreadable
    (Toml.read text).mapError .malformed

/-- The settings of a file and the environment. -/
def ofFile (tree : Tree) (path : Path) (bindings : List (String × String)) :
    Except ClusterError Settings :=
  let settings := do
    let layer ← fileLayer tree path
    ofFields (overlay layer (Variable.layer bindings))
  settings.mapError fun error => .config error.message

/-- The settings of the usual file and the environment. -/
def load (tree : Tree) (bindings : List (String × String)) : Except ClusterError Settings :=
  ofFile tree fileName bindings

/-- The home directory in an environment, or else that of the account. -/
def homeOf (account : String) (bindings : List (String × String)) : String :=
  match bindings.lookup "HOME" with
  | some home => if home.isEmpty then account else home
  | none => account

end CloudCluster.Settings
