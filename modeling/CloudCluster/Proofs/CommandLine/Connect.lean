import CloudCluster.CommandLine.Run
import CloudCluster.Proofs.Files.Action
import CloudCluster.Proofs.Lifecycle.FirstSpawn
import CloudCluster.Proofs.Tool.Launcher

/-!
Connecting to a cluster on the launcher.

`connect` spawns the cluster that it has just made, and asks for the way to it. The
cluster's session is new then (`session_of_makeCluster`), so the launcher alone
decides what comes of it: `perform_connect` says what that is, and `Connects` what a
user can rely on.
-/

namespace CloudCluster.CommandLine

open Files Tool Lifecycle

variable {machine prepared : Machine} {bindings : List (String × String)} {arguments : Arguments}
  {cluster : Cluster} {binary : Option Path} {path : Path} {environment : Environment}
  {config : ClusterConfig}

/-! ### Clusters that have just been made -/

theorem prepared_controller {settings : Settings} {home : String} {spec : ClusterSpec}
    {tree later : Tree} {controller : Controller}
    (done : (Cluster.prepare settings home spec).run tree = (.ok controller, later)) :
    ∃ path environment config, controller = .new path environment config := by
  simp only [Cluster.prepare, Action.run_bind, Action.run_ask, Action.run_adapt,
    Action.run_pure] at done
  split at done
  · split at done
    · split at done
      · split at done
        · cases done
          exact ⟨_, _, _, rfl⟩
        · cases done
      · cases done
    · cases done
  · cases done

/-- A cluster that has just been made is in a new session, and nothing has been run. -/
theorem session_of_makeCluster
    (made : makeCluster machine bindings arguments = (.ok cluster, prepared))
    (rayscale : arguments.spawner = Spawner.rayscale.name) :
    prepared.runs = machine.runs ∧ ∃ binary path environment config,
      cluster.session = Session.opened prepared binary path environment config := by
  unfold makeCluster at made
  dsimp only at made
  split at made
  · cases made
  · next settings spec _ =>
    have parsed : Spawner.parse arguments.spawner = .ok .rayscale := by
      rw [rayscale]
      rfl
    unfold Cluster.create at made
    rw [parsed] at made
    simp only [Cluster.new, Spawner.gateway] at made
    rcases done : (Cluster.prepare settings machine.home spec).run machine.tree with
      ⟨refusal | controller, later⟩
    · rw [done] at made
      cases made
    · rw [done] at made
      obtain ⟨path, environment, config, rfl⟩ := prepared_controller done
      cases made
      exact ⟨rfl, settings.launcher, path, environment, config, rfl⟩

/-! ### What connecting comes to -/

/-- The way to a cluster whose config is this. -/
def detailsOf (config : ClusterConfig) (address : String) : ConnectionDetails where
  userName := config.sshUser?.getD ClusterConfig.sshUser
  keyFile := config.sshPrivateKey?
  address := address

/-- The answer of `connect` when a config is left behind: the way to the cluster, if the
launcher says where that is. -/
def answer (config : ClusterConfig) (address : Except ProvisionError String) :
    Except Refusal String :=
  (address.mapError fun cause => .error (.cannotConnect cause)).map fun address =>
    connectText (detailsOf config address)

/-- What connecting to a cluster comes to, by what the launcher does. -/
theorem perform_connect
    (new : cluster.session = Session.opened machine binary path environment config) :
    perform .connect cluster =
      match Session.reconcile machine binary path environment with
      | (.error cause, after) => (.error (.error (.cannotSpawn cause)), after)
      | (.ok document, after) =>
        let ran := Launcher.run after binary .headAddress path environment
        (answer document (ran.1 >>= Launcher.parseAddress), ran.2) := by
  unfold perform carryOut
  rw [new, Session.call_spawn]
  rcases Session.reconcile machine binary path environment with ⟨cause | document, after⟩
  · rfl
  · have asked :
        (Session.ended after binary path environment .ready document none).connectionDetails =
        ({ Session.ended after binary path environment .ready document none with
            machine := (Launcher.run after binary .headAddress path environment).2 },
          Refusal.ofExcept (Controller.Inquiry.details ⟨document, path, environment⟩
            ((Launcher.run after binary .headAddress path environment).1 >>=
              Launcher.parseAddress))) := rfl
    dsimp only [Refusal.ofExcept, Except.mapError]
    rw [asked]
    dsimp only
    cases (Launcher.run after binary .headAddress path environment).1 >>=
      Launcher.parseAddress with
    | error cause => rfl
    | ok address => rfl

/-- What a user can rely on who connects with the launcher on a machine. -/
structure Connects (machine : Machine) (binary : Option Path) (path : Path)
    (environment : Environment) (outcome : Except Refusal String × Machine) : Prop where
  /-- It succeeds iff `up` exits with zero and leaves a file that can be loaded, and
  then `get-head-ip` exits with zero and prints a line that is not blank. -/
  succeeds_iff : outcome.1.isOk = true ↔
    let after := (Launcher.run machine binary .up path environment).2
    (∃ response, Launcher.Responds machine binary .up path environment response ∧
      response.ending = .exited 0) ∧
    (∃ config, ClusterConfig.load after.tree path = .ok config) ∧
    ∃ response, Launcher.Responds after binary .headAddress path environment response ∧
      response.ending = .exited 0 ∧
      ∃ line ∈ Text.lines (Text.decodeLossyText response.out).toList,
        ∃ c ∈ line, Text.isBlank c = false
  /-- The user and the key are those in the file as `up` has left it, and the address is
  the one that `get-head-ip` has printed. -/
  prints : ∀ text, outcome.1 = .ok text →
    let after := (Launcher.run machine binary .up path environment).2
    ∃ config address, ClusterConfig.load after.tree path = .ok config ∧
      ((Launcher.run after binary .headAddress path environment).1 >>=
        Launcher.parseAddress) = .ok address ∧
      text = connectText (detailsOf config address)
  /-- It fails with an error that says which of the two it could not do. -/
  fails : ∀ refusal, outcome.1 = .error refusal → ∃ cause,
    refusal = .error (.cannotSpawn cause) ∨ refusal = .error (.cannotConnect cause)
  /-- It runs `up` first, and `get-head-ip` only after a file could be loaded. -/
  runs : ∃ ran, outcome.2.runs = machine.runs ++ ran ∧
    ran <+: [Launcher.invocation .up path environment,
      Launcher.invocation .headAddress path environment] ∧
    (Launcher.invocation .headAddress path environment ∈ ran →
      (∃ response, Launcher.Responds machine binary .up path environment response ∧
        response.ending = .exited 0) ∧
      ∃ config, ClusterConfig.load
        (Launcher.run machine binary .up path environment).2.tree path = .ok config)

theorem invocation_ne (path : Path) (environment : Environment) :
    Launcher.invocation .headAddress path environment ≠
      Launcher.invocation .up path environment := by
  simp [Launcher.invocation, Command.arguments]

/-- If no config is left behind, `up` or the loading has failed. -/
theorem connects_of_unspawned {after : Machine} {cause : ProvisionError}
    (unspawned : Session.reconcile machine binary path environment = (.error cause, after)) :
    Connects machine binary path environment (.error (.error (.cannotSpawn cause)), after) := by
  have left : after = (Launcher.run machine binary .up path environment).2 :=
    (congrArg Prod.snd unspawned).symm.trans Session.reconcile_snd
  obtain ⟨ran, runs, started⟩ := Launcher.runs_of_run machine binary .up path environment
  constructor
  · constructor
    · intro success
      cases success
    · rintro ⟨exits, ⟨document, loaded⟩, _⟩
      have spawned := Session.reconcile_eq_ok_iff.mpr ⟨Launcher.exits_iff.mpr exits, loaded⟩
      cases (congrArg Prod.fst unspawned).symm.trans spawned
  · intro text success
    cases success
  · intro refusal failure
    cases failure
    exact ⟨cause, Or.inl rfl⟩
  · rw [left]
    refine ⟨ran, runs, ?_, ?_⟩
    · rcases started with rfl | ⟨rfl, _⟩
      · exact List.prefix_append _ _
      · exact List.nil_prefix
    · intro asked
      rcases started with rfl | ⟨rfl, _⟩
      · exact absurd (List.mem_singleton.mp asked) (invocation_ne path environment)
      · cases asked

/-- After `up` has succeeded, at most `get-head-ip` is run. -/
theorem runs_of_spawned {out : String}
    (success : (Launcher.run machine binary .up path environment).1 = .ok out) :
    let after := (Launcher.run machine binary .up path environment).2
    ∃ ran, (Launcher.run after binary .headAddress path environment).2.runs =
        machine.runs ++ ran ∧
      ran <+: [Launcher.invocation .up path environment,
        Launcher.invocation .headAddress path environment] := by
  intro after
  obtain ⟨first, runs, started⟩ := Launcher.runs_of_run machine binary .up path environment
  obtain ⟨second, runs', started'⟩ :=
    Launcher.runs_of_run after binary .headAddress path environment
  refine ⟨first ++ second, ?_, ?_⟩
  · rw [runs', runs, List.append_assoc]
  · rcases started with rfl | ⟨_, refused⟩
    · rcases started' with rfl | ⟨rfl, _⟩
      · exact List.prefix_rfl
      · exact List.prefix_append _ _
    · rw [success] at refused
      cases refused

/-- If a config is left behind, the answer is that of `get-head-ip`. -/
theorem connects_of_spawned {after : Machine}
    (spawned : Session.reconcile machine binary path environment = (.ok config, after)) :
    Connects machine binary path environment
      (answer config ((Launcher.run after binary .headAddress path environment).1 >>=
        Launcher.parseAddress),
      (Launcher.run after binary .headAddress path environment).2) := by
  have left : (Launcher.run machine binary .up path environment).2 = after :=
    Session.reconcile_snd.symm.trans (congrArg Prod.snd spawned)
  obtain ⟨⟨out, success⟩, loaded⟩ := Session.reconcile_eq_ok_iff.mp (congrArg Prod.fst spawned)
  have exits := Launcher.exits_iff.mp ⟨out, success⟩
  obtain ⟨ran, runs, order⟩ := runs_of_spawned success
  rw [left] at loaded runs
  constructor
  · dsimp only
    rw [left, answer, isOk_map, isOk_mapError, Launcher.address_isOk_iff]
    constructor
    · intro address
      exact ⟨exits, ⟨config, loaded⟩, address⟩
    · rintro ⟨_, _, address⟩
      exact address
  · intro text success
    dsimp only
    rw [left]
    cases address : (Launcher.run after binary .headAddress path environment).1 >>=
        Launcher.parseAddress with
    | error cause =>
        rw [address] at success
        cases success
    | ok address' =>
        rw [address] at success
        cases success
        exact ⟨config, address', loaded, rfl, rfl⟩
  · intro refusal failure
    cases address : (Launcher.run after binary .headAddress path environment).1 >>=
        Launcher.parseAddress with
    | error cause =>
        rw [address] at failure
        cases failure
        exact ⟨cause, Or.inr rfl⟩
    | ok address' =>
        rw [address] at failure
        cases failure
  · refine ⟨ran, runs, order, fun _ => ⟨exits, config, ?_⟩⟩
    rw [left]
    exact loaded

theorem connects_perform
    (new : cluster.session = Session.opened machine binary path environment config) :
    Connects machine binary path environment (perform .connect cluster) := by
  rw [perform_connect new]
  rcases outcome : Session.reconcile machine binary path environment with ⟨cause | document, after⟩
  · exact connects_of_unspawned outcome
  · exact connects_of_spawned outcome

/-- Connecting with the launcher never meets a cluster that is not ready or has no
config. -/
theorem connect_with_launcher
    (made : makeCluster machine bindings arguments = (.ok cluster, prepared))
    (rayscale : arguments.spawner = Spawner.rayscale.name) :
    prepared.runs = machine.runs ∧ ∃ binary, cluster.session.gateway = .launcher binary ∧
      Connects prepared binary cluster.session.current.path cluster.session.current.environment
        (act machine bindings .connect arguments) := by
  obtain ⟨runs, binary, path, environment, config, new⟩ := session_of_makeCluster made rayscale
  have acted : act machine bindings .connect arguments = perform .connect cluster := by
    rw [act, made]
  rw [acted, new]
  exact ⟨runs, binary, rfl, connects_perform new⟩

/-! ### A launcher that rewrites the file -/

/-- A launcher that names another user in the file, and logs before the address. -/
def renamingLauncher : Program
  | "up" :: path :: _, tree =>
    match tree.writeText path "auth:\n  ssh_user: ray\n" with
    | .ok later => ({}, later)
    | .error _ => ({ ending := .exited 1 }, tree)
  | ["get-head-ip", _], tree => ({ out := "ready\n10.0.0.7\n".toUTF8 }, tree)
  | _, tree => ({}, tree)

/-- A machine with that launcher and a small template. -/
def renamingMachine : Machine where
  tree := { entries := [(["base.yml"], .file "a: 1\n".toUTF8 0o644),
    (["bin"], .directory 0o755), (["bin", "ray"], .file .empty 0o755)] }
  programs := [(["bin", "ray"], renamingLauncher)]
  searchPath := some "/bin"
  home := "/home"

/-- The launcher's user is printed, not the one that the config was made with. -/
theorem connect_with_renaming_launcher :
    let bindings := [("STRATUS_TEMPLATE", "/base.yml")]
    (act renamingMachine bindings .connect {}).1 =
        .ok "ssh ray@10.0.0.7\nPython: ~/miniconda/envs/stratus/bin/python\n" ∧
    ∃ cluster prepared, makeCluster renamingMachine bindings {} = (.ok cluster, prepared) ∧
      ({} : Arguments).spawner = Spawner.rayscale.name ∧
      prepared.runs = [] ∧ ∃ binary, cluster.session.gateway = .launcher binary ∧
        Connects prepared binary cluster.session.current.path cluster.session.current.environment
          (act renamingMachine bindings .connect {}) := by
  intro bindings
  have connected : (act renamingMachine bindings .connect {}).1 =
      .ok "ssh ray@10.0.0.7\nPython: ~/miniconda/envs/stratus/bin/python\n" := by
    decide +kernel
  refine ⟨connected, ?_⟩
  rcases made : makeCluster renamingMachine bindings {} with ⟨refusal | cluster, prepared⟩
  · rw [act, made] at connected
    cases connected
  · exact ⟨cluster, prepared, rfl, rfl, connect_with_launcher made rfl⟩

end CloudCluster.CommandLine
