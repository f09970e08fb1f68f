import CloudCluster.Config.Basic
import CloudCluster.Files.Action

/-!
Configs in files.
-/

namespace CloudCluster

open Files

/-- Reads the config that a file holds. -/
def ClusterConfig.load (tree : Tree) (path : Path) : Except ClusterError ClusterConfig := do
  let text ← (tree.readText path).mapError .io
  ClusterConfig.ofYaml text

end CloudCluster
