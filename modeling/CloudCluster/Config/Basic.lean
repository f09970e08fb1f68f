import CloudCluster.Refusal
import CloudCluster.Yaml.Document
import CloudCluster.Yaml.Write

/-!
Cluster configs: documents whose root is a mapping.

Values are addressed by a path of string keys. `get?` looks through tags;
`set` makes or replaces the mappings on the way, keeps the place of keys that
are there, and appends new ones.
-/

namespace CloudCluster

open Yaml

/-- A cluster config document. -/
structure ClusterConfig where
  root : Entries
  deriving Repr

namespace ClusterConfig

/-! ### Entries with string keys -/

/-- Whether a key is the string `key`. -/
def isKey (key : String) : Value → Bool
  | .string text => text = key
  | _ => false

/-- The value under a string key. -/
def find? (key : String) : Entries → Option Value
  | [] => none
  | (k, v) :: rest => if isKey key k then some v else find? key rest

/-- Puts a value under a string key: in its place if there is one, else at the
end. -/
def insert (key : String) (value : Value) : Entries → Entries
  | [] => [(.string key, value)]
  | (k, v) :: rest =>
    if isKey key k then (k, value) :: rest else (k, v) :: insert key value rest

/-! ### Values behind tags -/

/-- The value without its tags. -/
def untag : Value → Value
  | .tagged _ value => untag value
  | value => value

/-- The entries of a mapping, with or without tags. -/
def entries? (value : Value) : Option Entries :=
  match untag value with
  | .mapping entries => some entries
  | _ => none

/-- The text of a string, with or without tags. -/
def text? (value : Value) : Option String :=
  match untag value with
  | .string text => some text
  | _ => none

/-- The value of an integer of 64 bits without sign, with or without tags. -/
def natural? (value : Value) : Option Nat :=
  match untag value with
  | .integer n => if 0 ≤ n ∧ n < 0x10000000000000000 then some n.toNat else none
  | _ => none

/-! ### Paths -/

/-- Goes down from a value by keys. -/
def descend : List String → Value → Option Value
  | [], value => some value
  | key :: rest, value => do descend rest (← find? key (← entries? value))

/-- The value at a path; the empty path leads nowhere. -/
def get? (config : ClusterConfig) : List String → Option Value
  | [] => none
  | key :: rest => do descend rest (← find? key config.root)

/-- The string at a path. -/
def getText? (config : ClusterConfig) (path : List String) : Option String :=
  (config.get? path).bind text?

/-- The natural number at a path. -/
def getNatural? (config : ClusterConfig) (path : List String) : Option Nat :=
  (config.get? path).bind natural?

/-- The mapping that `set` goes on in under a key: the one that is there, or an
empty one in place of anything that is no mapping. A mapping behind a tag is
neither. -/
def parentEntries (key : String) (entries : Entries) : Except Defect Entries :=
  match find? key entries with
  | some (.mapping inner) => .ok inner
  | some (.tagged _ value) =>
    match entries? value with
    | some _ => .error .taggedParent
    | none => .ok []
  | _ => .ok []

/-- Puts a value at a path; the empty path changes nothing. -/
def setEntries (value : Value) : List String → Entries → Except Defect Entries
  | [], entries => .ok entries
  | [key], entries => .ok (insert key value entries)
  | key :: next :: rest, entries => do
    let inner ← parentEntries key entries
    let inner ← setEntries value (next :: rest) inner
    return insert key (.mapping inner) entries

/-- The config with a value put at a path. -/
def set (config : ClusterConfig) (path : List String) (value : Value) :
    Except Defect ClusterConfig := do
  return ⟨← setEntries value path config.root⟩

/-! ### Text -/

/-- Reads a config; an empty document is an empty config. -/
def ofYaml (text : String) : Except ClusterError ClusterConfig :=
  match Yaml.read text with
  | .ok (.mapping entries) => .ok ⟨entries⟩
  | .ok .null => .ok ⟨[]⟩
  | .ok _ => .error (.config "cluster config root must be a mapping")
  | .error e => .error (.yaml e)

/-- Writes a config. -/
def toYaml (config : ClusterConfig) : Except ClusterError String :=
  (Yaml.write (.mapping config.root)).mapError .yaml

/-- Equality of documents. -/
def same (a b : ClusterConfig) : Bool :=
  (Value.mapping a.root).same (.mapping b.root)

/-! ### Fields -/

/-- The user that every node is reached as. -/
def sshUser : String := "stratus"

/-- The field `auth.ssh_user`. -/
def sshUser? (config : ClusterConfig) : Option String :=
  config.getText? ["auth", "ssh_user"]

/-- The field `auth.ssh_private_key`, which the provisioning tool fills in. -/
def sshPrivateKey? (config : ClusterConfig) : Option String :=
  config.getText? ["auth", "ssh_private_key"]

end ClusterConfig

end CloudCluster
