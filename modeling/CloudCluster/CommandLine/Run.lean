import CloudCluster.Cluster
import CloudCluster.CommandLine.Arguments
import CloudCluster.Settings.Load

/-!
What the program does for a request.

Settings are loaded before the options are looked at; then the cluster is made
and the operation is waited for. `connect` spawns the cluster first, which
leaves running nodes alone.
-/

namespace CloudCluster.CommandLine

open Files Tool Lifecycle

/-- What a run of the program leaves behind, other than files. -/
structure Output where
  exit : UInt8 := 0
  out : String := ""
  err : String := ""
  deriving DecidableEq, Repr

/-- The text that says which version this is. -/
def versionText : String := "stratus 0.1.0\n"

/-- The text that says how the program is used. -/
def usageText : String :=
  "Usage: stratus <spawn|destroy|connect> [--name value]...\n" ++
    String.join (Field.all.map fun field => "  --" ++ field.name ++ "\n")

/-- Makes the cluster that arguments describe. -/
def makeCluster (machine : Machine) (bindings : List (String × String))
    (arguments : Arguments) : Except Refusal Cluster × Machine :=
  let described := do
    let settings ← Settings.load machine.tree bindings
    return (settings, ← arguments.spec)
  match described with
  | .error error => (.error (.error error), machine)
  | .ok (settings, spec) => Cluster.create settings machine spec arguments.spawner

/-- The command that reaches the head node. -/
def sshCommand (details : ConnectionDetails) : String :=
  let key := match details.keyFile with
    | some path => " -i " ++ path
    | none => ""
  let port := if details.port = sshPort then "" else s!" -p {details.port.toNat}"
  "ssh" ++ key ++ port ++ " " ++ details.userName ++ "@" ++ details.address

/-- Carries out an operation on a cluster and waits for it. -/
def carryOut (cluster : Cluster) (operation : Operation) : Except Refusal Unit × Session :=
  let (session, result) := cluster.session.call operation true
  (Refusal.ofExcept result, session)

/-- What is printed about a cluster that is ready. -/
def spawnText (cluster : Cluster) : String :=
  s!"Cluster '{cluster.spec.clusterName}' is ready ({cluster.spec.workerCount.toNat} workers)\n" ++
    s!"Config: {cluster.session.current.path}\n"

/-- What is printed about a cluster that is gone. -/
def destroyText (cluster : Cluster) : String :=
  s!"Cluster '{cluster.spec.clusterName}' destroyed\n"

/-- What is printed about the way to a cluster. -/
def connectText (details : ConnectionDetails) : String :=
  sshCommand details ++ "\n" ++ s!"Python: {mainInterpreter}\n"

/-- Does what a subcommand asks for, and answers what to print. -/
def perform (subcommand : Subcommand) (cluster : Cluster) :
    Except Refusal String × Machine :=
  match subcommand with
  | .spawn =>
    let (result, session) := carryOut cluster .spawn
    (result.map fun _ => spawnText cluster, session.machine)
  | .destroy =>
    let (result, session) := carryOut cluster .destroy
    (result.map fun _ => destroyText cluster, session.machine)
  | .connect =>
    match carryOut cluster .spawn with
    | (.error refusal, session) => (.error refusal, session.machine)
    | (.ok (), session) =>
      let (session, details) := session.connectionDetails
      (details.map connectText, session.machine)

/-- Makes a cluster and does what a subcommand asks for. -/
def act (machine : Machine) (bindings : List (String × String)) (subcommand : Subcommand)
    (arguments : Arguments) : Except Refusal String × Machine :=
  match makeCluster machine bindings arguments with
  | (.error refusal, machine) => (.error refusal, machine)
  | (.ok cluster, _) => perform subcommand cluster

/-- The output for a result: an error ends the program with status 1, a defect
breaks it off. -/
def Output.ofResult : Except Refusal String → Output
  | .ok text => { out := text }
  | .error (.error error) => { exit := 1, err := s!"Error: {error.chain}\n" }
  | .error (.defect defect) => { exit := 101, err := defect.message ++ "\n" }

/-- Runs the program with arguments on a machine, in an environment. The
account's home directory counts if the environment names none. -/
def run (machine : Machine) (account : Path) (bindings : List (String × String))
    (arguments : List String) : Output × Machine :=
  match Request.read? arguments with
  | none => ({ exit := 2, err := usageText }, machine)
  | some .version => ({ out := versionText }, machine)
  | some .help => ({ out := usageText }, machine)
  | some (.act subcommand arguments) =>
    let machine := { machine with
      home := Settings.homeOf account bindings
      searchPath := bindings.lookup "PATH" }
    let (result, machine) := act machine bindings subcommand arguments
    (.ofResult result, machine)

end CloudCluster.CommandLine
