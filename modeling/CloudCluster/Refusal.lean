import CloudCluster.Error

/-!
How a call can end without a result.

An error is an answer to the caller. A defect means that the call was not
allowed to be made, or that an assumption of the program fails; it ends the
task that makes the call.
-/

namespace CloudCluster

/-- The assumptions that can fail. -/
inductive Defect where
  /-- A key path leads through a mapping that has a tag. -/
  | taggedParent
  /-- Connection details are asked of a cluster that is not ready. -/
  | notReady
  /-- The mock gateway was told to break off. -/
  | mockInterrupted (command : String)
  /-- A background body breaks off with this text. -/
  | described (text : String)
  deriving DecidableEq, Repr

/-- The text that a defect leaves behind. -/
def Defect.message : Defect → String
  | taggedParent => "internal error: entered unreachable code: entry was just made a mapping"
  | notReady => "cluster is not ready, cannot get connection details"
  | mockInterrupted command => s!"mock {command} interrupted"
  | described text => text

/-- Why a call has no result. -/
inductive Refusal where
  | error (error : ClusterError)
  | defect (defect : Defect)
  deriving DecidableEq, Repr

/-- A call that fails with errors only. -/
def Refusal.ofExcept {α : Type} (result : Except ClusterError α) : Except Refusal α :=
  result.mapError .error

end CloudCluster
