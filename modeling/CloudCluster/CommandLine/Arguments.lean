import CloudCluster.Spawner
import CloudCluster.Spec

/-!
The arguments of the command line.

A request is a subcommand with options that describe a cluster; the same
options always describe the same one. Arguments are read from left to right,
and the first fault or request for help decides. An option is given at most
once, as `--name value`, as `--name=value`, or by its letter; a value of its
own that begins with a hyphen can only be given behind an equals sign.
-/

namespace CloudCluster.CommandLine

/-! ### Options -/

/-- What an option says of a cluster. -/
inductive Field where
  | provider
  | project
  | clusterName
  | workers
  | headNodeType
  | workerNodeType
  | credentialsFile
  | region
  | zone
  | spawner
  deriving DecidableEq, Repr

namespace Field

/-- The name of an option. -/
def name : Field → String
  | provider => "provider"
  | project => "project"
  | clusterName => "cluster-name"
  | workers => "workers"
  | headNodeType => "head-node-type"
  | workerNodeType => "worker-node-type"
  | credentialsFile => "credentials-file"
  | region => "region"
  | zone => "zone"
  | spawner => "spawner"

/-- All options. -/
def all : List Field :=
  [provider, project, clusterName, workers, headNodeType, workerNodeType, credentialsFile,
    region, zone, spawner]

/-- The option of a name. -/
def ofName? (name : String) : Option Field :=
  all.find? fun field => field.name = name

/-- The option of a letter. -/
def ofLetter? (letter : Char) : Option Field :=
  if letter = 'w' then some workers else none

end Field

/-- The options that are given, with their values. -/
abbrev Given := List (Field × String)

/-- The value of a number of workers: decimal digits with an optional sign. -/
def workerCount? (text : String) : Option UInt32 :=
  let (negative, digits) := match text.toList with
    | '-' :: rest => (true, rest)
    | '+' :: rest => (false, rest)
    | s => (false, s)
  if digits.isEmpty || !digits.all Char.isDigit then none
  else
    let n := digits.foldl (fun n c => n * 10 + (c.toNat - 48)) 0
    if n < 0x100000000 && (!negative || n = 0) then some (UInt32.ofNat n) else none

/-- Whether an option takes a value. -/
def Field.accepts (field : Field) (value : String) : Bool :=
  match field with
  | .workers => (workerCount? value).isSome
  | .credentialsFile => !value.isEmpty
  | _ => true

/-- The provider when none is named. -/
def defaultProvider : Provider := .aws

/-- The options that describe a cluster. -/
structure Arguments where
  provider : String := defaultProvider.name
  project : Option String := none
  clusterName : String := defaultClusterName
  workers : UInt32 := defaultWorkerCount
  headNodeType : Option String := none
  workerNodeType : Option String := none
  credentialsFile : Option String := none
  region : Option String := none
  zone : Option String := none
  spawner : String := Spawner.default.name
  deriving DecidableEq, Repr

namespace Arguments

/-- The options with their values, or else their defaults. -/
def ofGiven (given : Given) : Arguments where
  provider := (given.lookup .provider).getD defaultProvider.name
  project := given.lookup .project
  clusterName := (given.lookup .clusterName).getD defaultClusterName
  workers := ((given.lookup .workers).bind workerCount?).getD defaultWorkerCount
  headNodeType := given.lookup .headNodeType
  workerNodeType := given.lookup .workerNodeType
  credentialsFile := given.lookup .credentialsFile
  region := given.lookup .region
  zone := given.lookup .zone
  spawner := (given.lookup .spawner).getD Spawner.default.name

/-- The spec that the options describe. -/
def spec (arguments : Arguments) : Except ClusterError ClusterSpec := do
  let provider ← Provider.parse arguments.provider
  return {
    provider := {
      provider
      credentialsFile := arguments.credentialsFile
      region := arguments.region
      zone := arguments.zone }
    projectName := arguments.project
    clusterName := arguments.clusterName
    workerCount := arguments.workers
    headNodeType := arguments.headNodeType
    workerNodeType := arguments.workerNodeType }

end Arguments

/-! ### Requests -/

/-- What is done to a cluster. -/
inductive Subcommand where
  | spawn
  | destroy
  | connect
  deriving DecidableEq, Repr

/-- The subcommand of a name. -/
def Subcommand.ofName? (name : String) : Option Subcommand :=
  if name = "spawn" then some spawn
  else if name = "destroy" then some destroy
  else if name = "connect" then some connect
  else none

/-- What the program is asked for. -/
inductive Request where
  | version
  | help
  | act (subcommand : Subcommand) (arguments : Arguments)
  deriving DecidableEq, Repr

/-- Why reading stops before the end: help is asked for, or the arguments are
at fault. -/
inductive Stop where
  | help
  | fault
  deriving DecidableEq, Repr

/-- Cuts a text at its first equals sign. -/
def cutValue (s : List Char) : String × Option String :=
  (String.ofList (s.takeWhile (· ≠ '=')),
    match s.dropWhile (· ≠ '=') with
    | [] => none
    | _ :: value => some (String.ofList value))

/-- Reads an argument that has to be an option: the option, with its value if
there is one in the argument. -/
def readOption (argument : String) : Except Stop (Field × Option String) :=
  match argument.toList with
  | '-' :: '-' :: rest =>
    let (name, value) := cutValue rest
    match Field.ofName? name with
    | some field => .ok (field, value)
    | none => .error (if name = "help" && value.isNone then .help else .fault)
  | '-' :: letter :: rest =>
    match Field.ofLetter? letter, rest with
    | some field, [] => .ok (field, none)
    | some field, '=' :: value => .ok (field, some (String.ofList value))
    | some field, value => .ok (field, some (String.ofList value))
    | none, _ => .error (if letter = 'h' then .help else .fault)
  | _ => .error .fault

/-- Whether an argument can be the value of the option before it. -/
def isValue (argument : String) : Bool :=
  argument.toList.head? ≠ some '-' || argument = "-"

/-- Takes the value of an option. -/
def give (given : Given) (field : Field) (value : String) : Except Stop Given :=
  if (given.lookup field).isSome || !field.accepts value then .error .fault
  else .ok (given ++ [(field, value)])

/-- Reads options. Behind two hyphens nothing may follow. -/
def readOptions (given : Given) : List String → Except Stop Given
  | [] => .ok given
  | ["--"] => .ok given
  | [argument] => do
    match ← readOption argument with
    | (field, some value) => give given field value
    | (_, none) => throw .fault
  | argument :: next :: rest => do
    match ← readOption argument with
    | (field, some value) => readOptions (← give given field value) (next :: rest)
    | (field, none) =>
      if isValue next then readOptions (← give given field next) rest else throw .fault

/-- Reads a request for a subcommand. -/
def readSubcommand (subcommand : Subcommand) (arguments : List String) : Except Stop Request := do
  return .act subcommand (.ofGiven (← readOptions [] arguments))

/-- Whether help can be asked for on a subcommand. -/
def isTopic : List String → Bool
  | [] => true
  | [topic] => (Subcommand.ofName? topic).isSome || topic = "help"
  | _ => false

/-- Reads a request; there is none if the arguments are at fault. -/
def Request.read? : List String → Option Request
  | [] => none
  | first :: rest =>
    match Subcommand.ofName? first with
    | some subcommand =>
      match readSubcommand subcommand rest with
      | .ok request => some request
      | .error .help => some .help
      | .error .fault => none
    | none =>
      match first.toList with
      | '-' :: 'V' :: _ => some .version
      | '-' :: 'h' :: _ => some .help
      | _ =>
        if first = "--version" then some .version
        else if first = "--help" || (first = "help" && isTopic rest) then some .help
        else none

end CloudCluster.CommandLine
