import CloudCluster.Config.Build
import CloudCluster.Config.Store
import CloudCluster.Digest.Sha256
import CloudCluster.Lifecycle.Session
import CloudCluster.Settings.Basic
import CloudCluster.Spawner

/-!
Clusters.

A `Cluster` is made from a spec: its config is built and persisted, and a
controller takes over its lifecycle. Nothing is provisioned by that, and
nothing is written unless a config could be built.
-/

namespace CloudCluster

open Files Tool Lifecycle

/-- The gateway of a spawner. -/
def Spawner.gateway (settings : Settings) : Spawner → Gateway
  | .rayscale => .launcher settings.launcher
  | .mock => .mock {}

/-- The environment of the launcher for a spec: the credentials file, if there
is one, under the variable of the provider. -/
def ClusterSpec.environment (spec : ClusterSpec) : Except ClusterError Environment :=
  match spec.provider.credentialsFile with
  | none => .ok .empty
  | some path => do
    let profile ← spec.provider.provider.profile
    return Environment.empty.set profile.credentialsVariable path

/-- A cluster, with the session that its lifecycle takes place in. -/
structure Cluster where
  spec : ClusterSpec
  session : Session

namespace Cluster

/-- Builds and persists the config for a spec, and makes a controller for it. -/
def prepare (settings : Settings) (home : String) (spec : ClusterSpec) :
    Action Refusal Controller := do
  let environment ← Action.ask fun _ => Refusal.ofExcept spec.environment
  let template ← Action.ask fun tree => Refusal.ofExcept (settings.baseTemplate home tree)
  let config ← Action.ask fun _ => template.build settings.socksProxy spec
  let store : ConfigStore := ⟨settings.resolvedConfigDir home⟩
  let path ← ExceptT.adapt .error (store.persist Sha256.hashText config)
  return Controller.new path environment config

/-- Makes a cluster on a gateway. The machine is answered too, as it is then. -/
def new (settings : Settings) (machine : Machine) (spec : ClusterSpec) (gateway : Gateway) :
    Except Refusal Cluster × Machine :=
  let (result, tree) := (prepare settings machine.home spec).run machine.tree
  let machine := { machine with tree }
  (result.map fun current => { spec, session := { machine, gateway, current } }, machine)

/-- Makes a cluster with the spawner of a name, which is looked at before
anything else. -/
def create (settings : Settings) (machine : Machine) (spec : ClusterSpec) (spawner : String) :
    Except Refusal Cluster × Machine :=
  match Spawner.parse spawner with
  | .error error => (.error (.error error), machine)
  | .ok spawner => new settings machine spec (spawner.gateway settings)

/-- Makes the cluster anew, from the same spec and on the same gateway. What
the old one has begun goes on. -/
def renew (settings : Settings) (cluster : Cluster) : Cluster × Except Refusal Path :=
  let session := cluster.session
  let (result, tree) := (prepare settings session.machine.home cluster.spec).run
    session.machine.tree
  let session := { session with machine := { session.machine with tree } }
  match result with
  | .ok controller =>
    ({ cluster with session := session.renew controller }, .ok controller.path)
  | .error refusal => ({ cluster with session }, .error refusal)

end Cluster

end CloudCluster
