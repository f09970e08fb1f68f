/-!
The two lifecycle operations.
-/

namespace CloudCluster

/-- What can be done to a cluster: create or reconcile it, or tear it down. -/
inductive Operation where
  | spawn
  | destroy
  deriving DecidableEq, Repr

namespace Operation

/-- The name used in messages. -/
def name : Operation → String
  | spawn => "spawn"
  | destroy => "destroy"

/-- The operation that may not run at the same time. -/
def other : Operation → Operation
  | spawn => destroy
  | destroy => spawn

end Operation

end CloudCluster
