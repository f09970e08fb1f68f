import CloudCluster.Files.Fault
import CloudCluster.Operation
import CloudCluster.Yaml.Error

/-!
Why a cluster operation fails.

`ProvisionError` is what the provisioning tool or the way to it can do wrong;
`ClusterError` is what a caller sees. `message` is the text of an error on its
own, `chain` the text with all its causes.
-/

namespace CloudCluster

/-- Failures of a call to the provisioning tool. -/
inductive ProvisionError where
  | toolNotFound (reason : String)
  | commandFailed (command status stderr : String)
  | invalidOutput (reason : String)
  | interrupted (reason : String)
  | reload (path reason : String)
  | io (fault : Files.Fault)
  deriving DecidableEq, Repr

namespace ProvisionError

/-- The text of an error. -/
def message : ProvisionError → String
  | toolNotFound reason => s!"provisioning tool not found: {reason}"
  | commandFailed command status stderr =>
    "\x60" ++ command ++ "\x60 exited with " ++ status ++ ": " ++ stderr
  | invalidOutput reason => s!"unexpected tool output: {reason}"
  | interrupted reason => s!"interrupted: {reason}"
  | reload path reason => s!"cannot reload cluster config {path}: {reason}"
  | io fault => s!"I/O error: {fault.message}"

/-- The text of the error below this one. -/
def cause? : ProvisionError → Option String
  | io fault => some fault.message
  | _ => none

end ProvisionError

/-- Failures that a caller of the library sees. -/
inductive ClusterError where
  | unsupportedProvider (provider : String)
  | cannotSpawn (cause : ProvisionError)
  | cannotDestroy (cause : ProvisionError)
  | cannotConnect (cause : ProvisionError)
  | operationInProgress (requested running : Operation)
  | unknownSpawner (name : String)
  | config (reason : String)
  | io (fault : Files.Fault)
  | yaml (error : Yaml.Error)
  | internal (reason : String)
  deriving DecidableEq, Repr

namespace ClusterError

/-- The text of an error, without its causes. -/
def message : ClusterError → String
  | unsupportedProvider provider => s!"unsupported provider: {provider}"
  | cannotSpawn _ => "cannot spawn cluster"
  | cannotDestroy _ => "cannot destroy cluster"
  | cannotConnect _ => "cannot get cluster connection details"
  | operationInProgress requested running =>
    s!"cannot {requested.name} cluster while {running.name} is in progress"
  | unknownSpawner name => s!"unknown spawner: {name}"
  | config reason => s!"configuration error: {reason}"
  | io fault => s!"I/O error: {fault.message}"
  | yaml error => s!"YAML error: {error.message}"
  | internal reason => s!"internal error: {reason}"

/-- The provisioning failure that an error reports. -/
def provisionCause? : ClusterError → Option ProvisionError
  | cannotSpawn cause | cannotDestroy cause | cannotConnect cause => some cause
  | _ => none

/-- The texts of the errors below this one, nearest first. -/
def causes : ClusterError → List String
  | cannotSpawn cause | cannotDestroy cause | cannotConnect cause =>
    cause.message :: cause.cause?.toList
  | io fault => [fault.message]
  | yaml error => [error.message]
  | _ => []

/-- The text of an error followed by those of all its causes. -/
def chain (error : ClusterError) : String :=
  ": ".intercalate (error.message :: error.causes)

/-- The error that reports a failed operation. -/
def ofFailure (operation : Operation) (cause : ProvisionError) : ClusterError :=
  match operation with
  | .spawn => .cannotSpawn cause
  | .destroy => .cannotDestroy cause

end ClusterError

end CloudCluster
