import CloudCluster.Config.File
import CloudCluster.Tool.Environment

/-!
A gateway that provisions nothing.

It succeeds, fails or breaks off as it is told, after a delay. When it brings a
cluster up, it puts the name of a key file into the config, as the launcher
does.
-/

namespace CloudCluster.Tool

open Files

/-- How a mock operation behaves. -/
inductive Behaviour where
  | succeed
  | fail
  | breakOff
  deriving DecidableEq, Repr

/-- A mock gateway, with a count of its calls and the variables of the last. -/
structure Mock where
  create : Behaviour := .succeed
  teardown : Behaviour := .succeed
  delay : Nat := 0
  createCalls : Nat := 0
  teardownCalls : Nat := 0
  lastEnvironment : Option Environment := none
  deriving DecidableEq, Repr

namespace Mock

/-- The address that a mock cluster is reached at. -/
def headAddress : String := "127.0.0.1"

/-- The word for an operation in the messages of the mock. -/
def word : Operation → String
  | .spawn => "up"
  | .destroy => "down"

/-- How the mock is told to behave. -/
def behaviour (mock : Mock) : Operation → Behaviour
  | .spawn => mock.create
  | .destroy => mock.teardown

/-- The mock after a call has begun. -/
def record (mock : Mock) (operation : Operation) (environment : Environment) : Mock :=
  let mock := { mock with lastEnvironment := some environment }
  match operation with
  | .spawn => { mock with createCalls := mock.createCalls + 1 }
  | .destroy => { mock with teardownCalls := mock.teardownCalls + 1 }

/-- The key file of a cluster. -/
def keyFile (config : ClusterConfig) : String :=
  "~/.ssh/stratus-" ++ (config.getText? ["cluster_name"]).getD "cluster" ++ ".pem"

/-- The config with the name of its key file. -/
def withKeyFile (config : ClusterConfig) : Except Defect ClusterConfig :=
  config.set ["auth", "ssh_private_key"] (.string (keyFile config))

/-- Why the mock stops. -/
inductive Stop where
  | error (error : ProvisionError)
  | defect (defect : Defect)
  deriving DecidableEq, Repr

/-- The error for a config that cannot be read or written. -/
def reloadError (path : Path) (error : ClusterError) : Stop :=
  .error (.reload path error.message)

/-- The text that a file is replaced with when a cluster is brought up. -/
def provisioned (tree : Tree) (path : Path) : Except Stop String := do
  let config ← (ClusterConfig.load tree path).mapError (reloadError path)
  let config ← (withKeyFile config).mapError .defect
  config.toYaml.mapError (reloadError path)

/-- Brings a cluster up. -/
def bringUp (path : Path) : Action Stop Unit := do
  let text ← Action.ask fun tree => provisioned tree path
  Action.change fun tree => (tree.writeText path text).mapError fun fault => .error (.io fault)

/-- Acts as the behaviour says. -/
def act (behaviour : Behaviour) (operation : Operation) (path : Path) : Action Stop Unit :=
  let command := "mock " ++ word operation
  match behaviour with
  | .fail => throw (.error (.commandFailed command "exit status: 1" (command ++ " failure")))
  | .breakOff => throw (.defect (.mockInterrupted (word operation)))
  | .succeed => match operation with
    | .spawn => bringUp path
    | .destroy => pure ()

end Mock

end CloudCluster.Tool
