import CloudCluster.Config.File
import CloudCluster.Digest.Basic
import CloudCluster.Text.Blank

/-!
A directory of configs, named by what they contain.

A config is written to `config-P.yml`, where `P` is the shortest prefix of at
least four digits of its digest that is free; the record `config-P.sha256`
beside it holds the whole digest. A prefix whose record is the digest belongs
to the config already, and its file is left as it is, so that changes that the
provisioning tool has made to it are found again. If every shorter prefix is
taken, the whole digest is the name.
-/

namespace CloudCluster

open Files

/-- A directory that configs are written to. -/
structure ConfigStore where
  dir : Path
  deriving DecidableEq, Repr

namespace ConfigStore

/-- The shortest prefix of a digest in a name. -/
def minPrefix : Nat := 4

/-- The mode that the directory is made with. -/
def dirMode : Nat := 0o700

/-- The file of a config under a name. -/
def entryPath (store : ConfigStore) (name : String) : Path :=
  Path.join store.dir ("config-" ++ name ++ ".yml")

/-- The file of the digest of the config under a name. -/
def recordPath (store : ConfigStore) (name : String) : Path :=
  Path.join store.dir ("config-" ++ name ++ ".sha256")

/-- The digest that is recorded under a name. -/
def record? (store : ConfigStore) (tree : Tree) (name : String) :
    Except ClusterError (Option String) :=
  match tree.readText (store.recordPath name) with
  | .ok text => .ok (some (Text.trimText text))
  | .error fault => if fault.isNotFound then .ok none else .error (.io fault)

/-- What is found under a prefix of a digest. -/
inductive Slot where
  | free
  | own
  | taken
  deriving DecidableEq, Repr

/-- Looks at the prefix of `n` digits. -/
def slot (store : ConfigStore) (tree : Tree) (digest : Digest) (n : Nat) :
    Except ClusterError Slot := do
  let name := digest.prefixText n
  match tree.status (store.entryPath name) with
  | .error fault => if fault.isNotFound then return .free else throw (.io fault)
  | .ok _ =>
    if (← store.record? tree name) = some digest.text then return .own else return .taken

/-- The lengths of the prefixes that are tried, shortest first. -/
def prefixLengths : List Nat :=
  List.range' minPrefix (64 - minPrefix)

/-- The first prefix among these lengths that is free or belongs to the config
already, and whether it is free; the whole digest counts as free. -/
def choose (store : ConfigStore) (tree : Tree) (digest : Digest) :
    List Nat → Except ClusterError (Nat × Bool)
  | [] => .ok (64, true)
  | n :: rest => do
    match ← store.slot tree digest n with
    | .free => return (n, true)
    | .own => return (n, false)
    | .taken => choose store tree digest rest

/-- Writes a config and then its record. -/
def writeEntry (store : ConfigStore) (name yaml : String) (digest : Digest) :
    Action ClusterError Unit := do
  Action.change fun tree => (tree.writeText (store.entryPath name) yaml).mapError .io
  Action.change fun tree => (tree.writeText (store.recordPath name) digest.text).mapError .io

/-- Writes a config, if it is not there yet, and answers its path. -/
def persist (digestOf : String → Digest) (store : ConfigStore) (config : ClusterConfig) :
    Action ClusterError Path := do
  ExceptT.adapt .io (Action.ensureDirectory store.dir dirMode)
  let yaml ← Action.ask fun _ => config.toYaml
  let digest := digestOf yaml
  let (n, isFree) ← Action.ask fun tree => store.choose tree digest prefixLengths
  let name := digest.prefixText n
  if isFree then store.writeEntry name yaml digest
  return store.entryPath name

end ConfigStore

end CloudCluster
