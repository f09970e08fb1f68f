import CloudCluster.Config.File
import CloudCluster.Config.Template

/-!
Settings.

They say where configs are kept, what they are based on, and how the nodes and
the launcher are reached. Paths in them may begin with a tilde.
-/

namespace CloudCluster

open Files

/-- The directory that configs are kept in when no other is given. -/
def defaultConfigDir : Path := "~/.stratus/cloud"

/-- The settings of this program. Without a template the built-in one is used;
without a path, the launcher is looked for by its name. -/
structure Settings where
  configDir : Path := defaultConfigDir
  socksProxy : Option String := none
  template : Option Path := none
  launcher : Option Path := none
  deriving DecidableEq, Repr

namespace Settings

/-- The directory that configs are kept in, with the home directory filled in. -/
def resolvedConfigDir (settings : Settings) (home : String) : Path :=
  Path.expandHome home settings.configDir

/-- The config that others are based on. -/
def baseTemplate (settings : Settings) (home : String) (tree : Tree) :
    Except ClusterError ClusterConfig :=
  match settings.template with
  | some path => ClusterConfig.load tree (Path.expandHome home path)
  | none => .ok ClusterConfig.baseTemplate

end Settings

end CloudCluster
