import CloudCluster.Lifecycle.Session
import CloudCluster.Proofs.Except

/-!
The first spawn of a cluster on the launcher.

When the controller is new, a spawn that is waited for starts the only body there
is. It runs the launcher and loads the file that this has left (`reconcile`), and the
caller's answer is what that comes to (`call_spawn`). So an answer of success means
that the cluster is ready and has the config from the file.
-/

namespace CloudCluster.Lifecycle.Session

open Files Tool

variable {machine after : Machine} {binary : Option Path} {path : Path} {environment : Environment}
  {config document : ClusterConfig} {state : ClusterState} {error : Option ClusterError}

/-- What a spawn comes to: the launcher's `up`, and then the config that is in the file. -/
def reconcile (machine : Machine) (binary : Option Path) (path : Path)
    (environment : Environment) : Except ProvisionError ClusterConfig × Machine :=
  match Launcher.run machine binary .up path environment with
  | (.error cause, after) => (.error cause, after)
  | (.ok _, after) =>
    ((ClusterConfig.load after.tree path).mapError fun error => .reload path error.message, after)

theorem reconcile_snd :
    (reconcile machine binary path environment).2 =
      (Launcher.run machine binary .up path environment).2 := by
  unfold reconcile
  rcases Launcher.run machine binary .up path environment with ⟨_ | _, _⟩ <;> rfl

/-- A spawn comes to a config iff the launcher succeeds and leaves that in the file. -/
theorem reconcile_eq_ok_iff :
    (reconcile machine binary path environment).1 = .ok document ↔
      (∃ out, (Launcher.run machine binary .up path environment).1 = .ok out) ∧
      ClusterConfig.load (Launcher.run machine binary .up path environment).2.tree path =
        .ok document := by
  unfold reconcile
  rcases Launcher.run machine binary .up path environment with ⟨_ | _, _⟩
  · simp
  · simp [mapError_eq_ok]

/-! ### The stages of the first spawn -/

/-- A session whose controller is new. -/
def opened (machine : Machine) (binary : Option Path) (path : Path) (environment : Environment)
    (config : ClusterConfig) : Session :=
  { machine, gateway := .launcher binary, current := .new path environment config }

/-- A controller whose first spawn is in progress. -/
def spawning (path : Path) (environment : Environment) (config : ClusterConfig) (body : Body) :
    Controller :=
  { path, environment, state := .spawning, config := some config,
    spawner := {
      operation := .spawn, silent := true
      stage := .body { body, rollbackTo := .notSpawned } } }

/-- The session in which the caller waits for the first spawn. -/
def queued (machine : Machine) (binary : Option Path) (path : Path) (environment : Environment)
    (config : ClusterConfig) : Session :=
  { machine, gateway := .launcher binary, current := spawning path environment config .queued,
    queue := [⟨0, .spawn⟩] }

/-- The session when the launcher has answered. -/
def answered (machine : Machine) (binary : Option Path) (path : Path) (environment : Environment)
    (config : ClusterConfig) : Session :=
  { machine, gateway := .launcher binary, current := spawning path environment config .calling,
    begun := 1 }

/-- The session when the first spawn has ended. -/
def ended (machine : Machine) (binary : Option Path) (path : Path) (environment : Environment)
    (state : ClusterState) (config : ClusterConfig) (error : Option ClusterError) : Session :=
  { machine, gateway := .launcher binary, begun := 1
    current := {
      path, environment, state, config := some config
      spawner := { operation := .spawn, silent := true, stage := .done, error } } }

/-! ### From stage to stage -/

theorem beginBodies_queued (config : ClusterConfig) {ran : Except ProvisionError String}
    (launched : Launcher.run machine binary .up path environment = (ran, after)) :
    (queued machine binary path environment config).beginBodies =
      (answered after binary path environment config).close ⟨0, .spawn⟩
        (ran.map (fun _ => ()) |>.mapError .error) := by
  have result : ran = (Launcher.run machine binary .up path environment).1 := by rw [launched]
  have left : after = (Launcher.run machine binary .up path environment).2 := by rw [launched]
  rw [result, left]
  rfl

theorem close_failure (cause : ProvisionError) :
    (answered machine binary path environment config).close ⟨0, .spawn⟩ (.error (.error cause)) =
      ended machine binary path environment .notSpawned config (some (.cannotSpawn cause)) := by
  unfold close
  rfl

theorem close_success
    (loaded : ClusterConfig.load machine.tree path = .ok document) :
    (answered machine binary path environment config).close ⟨0, .spawn⟩ (.ok ()) =
      ended machine binary path environment .ready document none := by
  have read : ClusterConfig.load (answered machine binary path environment config).machine.tree
      ((answered machine binary path environment config).controller 0).path = .ok document := loaded
  unfold close
  dsimp only
  rw [read]
  rfl

theorem close_unloaded {error : ClusterError}
    (unloaded : ClusterConfig.load machine.tree path = .error error) :
    (answered machine binary path environment config).close ⟨0, .spawn⟩ (.ok ()) =
      ended machine binary path environment .notSpawned config
        (some (.cannotSpawn (.reload path error.message))) := by
  have read : ClusterConfig.load (answered machine binary path environment config).machine.tree
      ((answered machine binary path environment config).controller 0).path = .error error :=
    unloaded
  unfold close
  dsimp only
  rw [read]
  rfl

/-- The caller is answered when the body has ended. -/
theorem call_of_ended
    (begun : (queued machine binary path environment config).beginBodies =
      ended after binary path environment state document error) :
    (opened machine binary path environment config).call .spawn true =
      (ended after binary path environment state document none,
        error.elim (.ok ()) .error) := by
  have waited (done : Session → Bool) :
      (queued machine binary path environment config).waitUntil done =
        ended after binary path environment state document error := by
    unfold waitUntil
    rw [begun]
    rfl
  have entered : (opened machine binary path environment config).enterAll [⟨.spawn, true⟩] =
      (queued machine binary path environment config, [(⟨.spawn, true⟩, none)]) := rfl
  unfold call callAll
  rw [entered]
  dsimp only
  rw [if_neg (by simp), waited]
  cases error <;> rfl

/-- A first spawn is answered with what it comes to, and leaves the cluster ready with
the config from the file or as it was. -/
theorem call_spawn :
    (opened machine binary path environment config).call .spawn true =
      match reconcile machine binary path environment with
      | (.ok document, after) =>
        (ended after binary path environment .ready document none, .ok ())
      | (.error cause, after) =>
        (ended after binary path environment .notSpawned config none,
          .error (.cannotSpawn cause)) := by
  unfold reconcile
  rcases launched : Launcher.run machine binary .up path environment with ⟨cause | out, after⟩
  · have begun := beginBodies_queued config launched
    simp only [Except.map, mapError_error] at begun
    exact call_of_ended (begun.trans (close_failure cause))
  · have begun := beginBodies_queued config launched
    simp only [Except.map, mapError_ok] at begun
    cases loaded : ClusterConfig.load after.tree path with
    | ok document =>
        dsimp only
        rw [loaded]
        exact call_of_ended (begun.trans (close_success loaded))
    | error error =>
        dsimp only
        rw [loaded]
        exact call_of_ended (begun.trans (close_unloaded loaded))

end CloudCluster.Lifecycle.Session
