import CloudCluster.Files.Path
import CloudCluster.Operation

/-!
Where a cluster is in its life.

A spawn leads from `notSpawned` over `spawning` to `ready`, a destroy over
`destroying` back to `notSpawned`. An operation that fails leads back to where
it began.
-/

namespace CloudCluster.Lifecycle

/-- Where a cluster is in its life. -/
inductive ClusterState where
  /-- No nodes exist: never spawned, failed to spawn, or destroyed. -/
  | notSpawned
  /-- A spawn is in progress. -/
  | spawning
  /-- The nodes are up, and the config describes them. -/
  | ready
  /-- A destroy is in progress. -/
  | destroying
  deriving DecidableEq, Repr

namespace ClusterState

/-- The name of a state. -/
def name : ClusterState → String
  | notSpawned => "not_spawned"
  | spawning => "spawning"
  | ready => "ready"
  | destroying => "destroying"

/-- The name of a state in descriptions for developers. -/
def label : ClusterState → String
  | notSpawned => "NotSpawned"
  | spawning => "Spawning"
  | ready => "Ready"
  | destroying => "Destroying"

/-- The state while an operation is in progress. -/
def during : Operation → ClusterState
  | .spawn => spawning
  | .destroy => destroying

/-- The state after an operation has succeeded. -/
def after : Operation → ClusterState
  | .spawn => ready
  | .destroy => notSpawned

/-- Whether an operation is in progress. -/
def inProgress : ClusterState → Bool
  | spawning | destroying => true
  | notSpawned | ready => false

end ClusterState

/-- The port that nodes are reached at. -/
def sshPort : UInt16 := 22

/-- The interpreter that remote work is launched with. -/
def mainInterpreter : Files.Path := "~/miniconda/envs/stratus/bin/python"

/-- How to reach the head node of a cluster that is ready. -/
structure ConnectionDetails where
  userName : String
  keyFile : Option Files.Path
  address : String
  port : UInt16 := sshPort
  deriving DecidableEq, Repr

end CloudCluster.Lifecycle
