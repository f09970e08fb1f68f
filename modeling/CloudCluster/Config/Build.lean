import CloudCluster.Config.Template
import CloudCluster.Shell.Quote
import CloudCluster.Spec

/-!
Filling a spec into a template.

`assignments` lists what a spec sets, in order; `build` carries them out on a
template. The three bounds on the number of workers are one number, so that
the cluster never scales by itself.
-/

namespace CloudCluster

open Yaml

/-- The command that tunnels SSH through a proxy at an address. -/
def proxyCommand (address : String) : String :=
  "nc -x " ++ Shell.quote address ++ " %h %p"

/-- A path in a config and the value that goes there. -/
abbrev Assignment := List String × Value

namespace ClusterConfig

/-- What a spec sets in a config, in order. -/
def assignments (profile : Profile) (proxy : Option String) (spec : ClusterSpec) :
    List Assignment :=
  let workers : Value := .integer spec.workerCount.toNat
  let placement := profile.placementFields spec.provider.region spec.provider.zone
  [(["cluster_name"], .string spec.clusterName),
    (["min_workers"], workers),
    (["max_workers"], workers),
    (["initial_workers"], workers),
    (["provider", "type"], .string spec.provider.provider.name)] ++
  placement.map (fun (key, value) => (["provider", key], .string value)) ++
  [(["auth", "ssh_user"], .string sshUser)] ++
  ((proxy.filter (· ≠ "")).map fun address =>
    (["auth", "ssh_proxy_command"], Value.string (proxyCommand address))).toList ++
  (spec.headNodeType.map fun type =>
    (["head_node", profile.instanceTypeKey], Value.string type)).toList ++
  (spec.workerNodeType.map fun type =>
    (["worker_nodes", profile.instanceTypeKey], Value.string type)).toList

/-- Carries out assignments one after the other. -/
def assign (config : ClusterConfig) : List Assignment → Except Defect ClusterConfig
  | [] => .ok config
  | (path, value) :: rest => do assign (← config.set path value) rest

/-- The config for a spec, on the base of a template. An empty proxy address
counts as none. -/
def build (template : ClusterConfig) (proxy : Option String) (spec : ClusterSpec) :
    Except Refusal ClusterConfig := do
  let profile ← Refusal.ofExcept spec.provider.provider.profile
  (template.assign (assignments profile proxy spec)).mapError .defect

end ClusterConfig

end CloudCluster
