import CloudCluster.Error
import CloudCluster.Text.Blank
import CloudCluster.Text.Utf8
import CloudCluster.Tool.Process

/-!
The cluster launcher `ray`.

Every call is a run of the launcher that asks nothing of its user. It has done
its work if it exits with zero; what it prints matters for the address of the
head node only, which is the last line that is not blank.
-/

namespace CloudCluster.Tool

open Files

/-- The name that the launcher is looked for by. -/
def launcherName : String := "ray"

/-- What the launcher is asked to do. -/
inductive Command where
  | up
  | down
  | headAddress
  deriving DecidableEq, Repr

/-- The arguments of a call for the config in a file. -/
def Command.arguments (path : Path) : Command → List String
  | up => ["up", path, "--yes", "--no-restart"]
  | down => ["down", path, "--yes"]
  | headAddress => ["get-head-ip", path]

namespace Launcher

/-- The launcher's path: the one that is given, or the first that is found. -/
def locate (machine : Machine) (binary : Option Path) : Except ProvisionError Path :=
  match binary with
  | some path => .ok path
  | none =>
    match machine.which? launcherName with
    | some path => .ok path
    | none => .error (.toolNotFound s!"{launcherName}: cannot find binary path")

/-- A command line, for messages. -/
def commandLine (binary : Path) (arguments : List String) : String :=
  " ".intercalate (binary :: arguments)

/-- What a response says: its standard output, if the run was a success. -/
def interpret (binary : Path) (arguments : List String) (response : Response) :
    Except ProvisionError String :=
  if response.ending.isSuccess then .ok (Text.decodeLossyText response.out)
  else
    .error (.commandFailed (commandLine binary arguments) response.ending.text
      (Text.trimText (Text.decodeLossyText response.err)))

/-- Runs the launcher and answers its standard output. -/
def run (machine : Machine) (binary : Option Path) (command : Command) (path : Path)
    (environment : Environment) : Except ProvisionError String × Machine :=
  match locate machine binary with
  | .error e => (.error e, machine)
  | .ok binary =>
    let arguments := command.arguments path
    let (response, machine) := machine.run binary { arguments, environment }
    match response with
    | .error fault => (.error (.io fault), machine)
    | .ok response => (interpret binary arguments response, machine)

/-- The address in the launcher's output: its last line that is not blank. -/
def parseAddress (out : String) : Except ProvisionError String :=
  let words := ((Text.lines out.toList).map Text.trim).filter (!·.isEmpty)
  match words.getLast? with
  | some address => .ok (String.ofList address)
  | none => .error (.invalidOutput "no head node address printed")

end Launcher

end CloudCluster.Tool
