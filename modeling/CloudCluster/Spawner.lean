import CloudCluster.Error

/-!
The ways a cluster can be provisioned.
-/

namespace CloudCluster

/-- `rayscale` drives the cluster launcher; `mock` provisions nothing. -/
inductive Spawner where
  | rayscale
  | mock
  deriving DecidableEq, Repr

namespace Spawner

/-- The selector of a spawner. -/
def name : Spawner → String
  | rayscale => "rayscale"
  | mock => "mock"

/-- The spawner that is used when none is named. -/
def default : Spawner := rayscale

/-- The spawner with exactly this selector. -/
def parse (text : String) : Except ClusterError Spawner :=
  if text = "rayscale" then .ok rayscale
  else if text = "mock" then .ok mock
  else .error (.unknownSpawner text)

end Spawner

end CloudCluster
