import CloudCluster.Proofs.Config.Access
import CloudCluster.Proofs.Config.Distinct
import CloudCluster.Proofs.Files.Action
import CloudCluster.Proofs.Store.Equal
import CloudCluster.Tool.Gateway
import Mathlib.Control.Monad.Basic

/-!
What the mock leaves of a config file.

A mock that stops has changed nothing (`unchanged_of_stopped`), as it writes last. One that
brings a cluster up has read a config, put a key file into it and written it back
(`act_spawn_eq_ok_iff`). `Provisioned` says what has become of the config then. Its key
file is named after the cluster, whose name stays, so to put it in a second time changes
nothing (`withKeyFile_again`). `file_kept_or_provisioned` says this of a call from its
beginning to its answer, whatever the mock is told to do and however long it sleeps.
-/

namespace CloudCluster

open Files Tree

namespace ClusterConfig

/-- A config is read as it is from the text that is written for it. -/
def ReadsBack (config : ClusterConfig) : Prop :=
  ∀ text, config.toYaml = .ok text → ofYaml text = .ok config

/-- A text is read as a config if that is the same document, entry by entry. -/
theorem ofYaml_of_aligned {text : String} {config : ClusterConfig}
    (distinct : config.distinct = true) (read : (ofYaml text).toOption.any
      (fun parsed => parsed.same config && parsed.aligned config) = true) :
    ofYaml text = .ok config := by
  cases parsed : ofYaml text with
  | error error =>
      rw [parsed] at read
      cases read
  | ok other =>
      rw [parsed] at read
      obtain ⟨same, lined⟩ := Bool.and_eq_true_iff.mp read
      rw [eq_of_aligned (distinct_ofYaml parsed) distinct same lined]

end ClusterConfig

namespace Tool.Mock

variable {behaviour : Behaviour} {operation : Operation} {path : Path} {tree later : Tree}
  {original changed : ClusterConfig} {text : String} {stop : Stop}

/-- Where the key file is named. -/
abbrev keyPath : List String := ["auth", "ssh_private_key"]

/-! ### One call -/

theorem load_congr {found : Tree} (same : found.status path = tree.status path) :
    ClusterConfig.load found path = ClusterConfig.load tree path := by
  rw [ClusterConfig.load, ClusterConfig.load, readText_congr same]

theorem provisioned_eq_ok_iff : provisioned tree path = .ok text ↔
    ∃ original changed, ClusterConfig.load tree path = .ok original ∧
      withKeyFile original = .ok changed ∧ changed.toYaml = .ok text := by
  simp only [provisioned, bind_eq_ok, mapError_eq_ok, exists_and_left]

theorem run_bringUp (path : Path) (tree : Tree) :
    (bringUp path).run tree = match provisioned tree path with
      | .error stop => (.error stop, tree)
      | .ok text => match tree.writeText path text with
        | .error fault => (.error (.error (.io fault)), tree)
        | .ok later => (.ok (), later) := by
  simp only [bringUp, Action.run_bind, Action.run_ask, Action.run_change]
  cases provisioned tree path with
  | error stop => rfl
  | ok text =>
      dsimp only
      cases tree.writeText path text <;> rfl

theorem unchanged_of_stopped
    (stopped : (act behaviour operation path).run tree = (.error stop, later)) : later = tree := by
  cases behaviour with
  | fail =>
      cases stopped
      rfl
  | breakOff =>
      cases stopped
      rfl
  | succeed =>
      cases operation with
      | destroy => cases stopped
      | spawn =>
          rw [act, run_bringUp] at stopped
          split at stopped
          · cases stopped
            rfl
          · split at stopped
            · cases stopped
              rfl
            · cases stopped

theorem act_spawn_eq_ok_iff : (act behaviour .spawn path).run tree = (.ok (), later) ↔
    behaviour = .succeed ∧ ∃ text, provisioned tree path = .ok text ∧
      tree.writeText path text = .ok later := by
  constructor
  · intro acted
    cases behaviour with
    | fail => cases acted
    | breakOff => cases acted
    | succeed =>
        rw [act, run_bringUp] at acted
        split at acted
        · cases acted
        · next text put =>
          split at acted
          · cases acted
          · next wrote =>
            cases acted
            exact ⟨rfl, text, put, wrote⟩
  · rintro ⟨rfl, text, put, wrote⟩
    rw [act, run_bringUp, put]
    simp only [wrote]

/-! ### What has become of a config -/

/-- A config has got a key file, which is named after its cluster, and is the same document
otherwise. -/
structure Keyed (original changed : ClusterConfig) : Prop where
  /-- One value is put, in its place or behind the others. -/
  put : original.set keyPath (.string (keyFile original)) = .ok changed
  keyFile : changed.getText? keyPath =
    some ("~/.ssh/stratus-" ++ (original.getText? ["cluster_name"]).getD "cluster" ++ ".pem")
  others : ∀ other, Divergent keyPath other → changed.get? other = original.get? other

/-- The config in a file has got a key file. -/
structure Provisioned (tree later : Tree) (path : Path) (original changed : ClusterConfig) :
    Prop extends Keyed original changed where
  loads : ClusterConfig.load tree path = .ok original
  loadsAfter : ClusterConfig.load later path = .ok changed
  /-- The file holds the text of the new config, and has the mode it had. -/
  rewritten : ∃ before mode text, tree.status path = .ok (.file before mode) ∧
    changed.toYaml = .ok text ∧ later.status path = .ok (.file text.toUTF8 mode)

theorem keyed_of_withKeyFile (named : withKeyFile original = .ok changed) :
    Keyed original changed := by
  have put := ClusterConfig.set_eq_ok_iff.mp named
  refine ⟨named, ?_, fun other => ClusterConfig.get?_setEntries_of_divergent put⟩
  rw [ClusterConfig.getText?, ClusterConfig.get?_setEntries_self (by decide) put]
  rfl

/-- The name of the cluster stays, and so the name of the key file. -/
theorem withKeyFile_again (named : withKeyFile original = .ok changed) :
    withKeyFile changed = .ok changed := by
  have name := (keyed_of_withKeyFile named).others ["cluster_name"] (by decide)
  have key : keyFile changed = keyFile original := by
    unfold keyFile
    rw [ClusterConfig.getText?, ClusterConfig.getText?, name]
  have put := ClusterConfig.set_eq_ok_iff.mp named
  rw [withKeyFile, key]
  exact ClusterConfig.set_eq_ok_iff.mpr (ClusterConfig.setEntries_again put)

theorem provisioned_of_acted (acted : (act behaviour .spawn path).run tree = (.ok (), later))
    (readsBack : ∀ original changed, ClusterConfig.load tree path = .ok original →
      withKeyFile original = .ok changed → changed.ReadsBack) :
    ∃ original changed, Provisioned tree later path original changed := by
  obtain ⟨_, text, put, wrote⟩ := act_spawn_eq_ok_iff.mp acted
  obtain ⟨original, changed, loads, named, written⟩ := provisioned_eq_ok_iff.mp put
  obtain ⟨_, read, _⟩ := bind_eq_ok.mp loads
  obtain ⟨before, mode, found⟩ := status_of_readText (mapError_eq_ok.mp read)
  have holds := status_of_overwritten found wrote
  have loadsAfter : ClusterConfig.load later path = .ok changed := by
    rw [ClusterConfig.load, readText_of_status holds]
    exact readsBack original changed loads named text written
  exact ⟨original, changed, keyed_of_withKeyFile named, loads, loadsAfter,
    before, mode, text, found, written, holds⟩

/-- A second call writes what is there. -/
theorem Provisioned.again (provisioned : Provisioned tree later path original changed)
    {found last : Tree} (untouched : found.status path = later.status path)
    (acted : (act behaviour .spawn path).run found = (.ok (), last)) :
    last.status path = later.status path := by
  obtain ⟨_, text', put, wrote⟩ := act_spawn_eq_ok_iff.mp acted
  obtain ⟨original', changed', loads, named, written'⟩ := provisioned_eq_ok_iff.mp put
  obtain ⟨_, mode, text, _, written, holds⟩ := provisioned.rewritten
  have sameOriginal : original' = changed := by
    rw [load_congr untouched] at loads
    exact Except.ok.inj (loads.symm.trans provisioned.loadsAfter)
  have sameChanged : changed' = changed := by
    have again := withKeyFile_again provisioned.put
    rw [sameOriginal, again] at named
    exact (Except.ok.inj named).symm
  have sameText : text' = text := by
    rw [sameChanged] at written'
    exact Except.ok.inj (written'.symm.trans written)
  rw [sameText] at wrote
  rw [status_of_overwritten (untouched.trans holds) wrote, holds]

/-! ### From the beginning of a call to its answer -/

/-- A call to bring a cluster up is answered: at once, or when the mock has slept, while
nobody else touches the file. -/
inductive Answered (mock : Mock) (path : Path) (environment : Environment) (machine : Machine) :
    Except Stop Unit → Tree → Prop where
  | atOnce {result gateway later}
      (begun : (Gateway.mock mock).begin machine .spawn path environment =
        (.ended result, gateway, later)) :
      Answered mock path environment machine result later.tree
  | slept {delay behaviour gateway asleep awake result later}
      (begun : (Gateway.mock mock).begin machine .spawn path environment =
        (.asleep delay behaviour, gateway, asleep))
      (untouched : Tree.status awake path = asleep.tree.status path)
      (acted : (act behaviour .spawn path).run awake = (result, later)) :
      Answered mock path environment machine result later

variable {mock : Mock} {environment : Environment} {machine : Machine} {result : Except Stop Unit}

/-- The mock acts on the file that was there when the call began, as it was told then. -/
theorem Answered.acted (answered : Answered mock path environment machine result later) :
    ∃ tree, tree.status path = machine.tree.status path ∧
      (act mock.create .spawn path).run tree = (result, later) := by
  cases answered with
  | atOnce begun =>
      simp only [Gateway.begin, behaviour] at begun
      split at begun
      · cases begun
        exact ⟨machine.tree, rfl, rfl⟩
      · cases begun
  | slept begun untouched acted =>
      simp only [Gateway.begin, behaviour] at begun
      split at begun
      · cases begun
      · cases begun
        exact ⟨_, untouched, acted⟩

/-- A call that fails or breaks off leaves the file as it was, whatever that was. One that
brings the cluster up leaves the same document with a key file in it, and a second one leaves
every byte of that, provided that YAML reads the new config from what it writes for it. -/
theorem file_kept_or_provisioned
    (readsBack : ∀ original changed, ClusterConfig.load machine.tree path = .ok original →
      withKeyFile original = .ok changed → changed.ReadsBack)
    (answered : Answered mock path environment machine result later) :
    (∀ stop, result = .error stop → later.status path = machine.tree.status path) ∧
    (result = .ok () →
      (∃ original changed, Provisioned machine.tree later path original changed) ∧
      ∀ mock environment machine last, machine.tree.status path = later.status path →
        Answered mock path environment machine (.ok ()) last →
        last.status path = later.status path) := by
  obtain ⟨tree, same, acted⟩ := answered.acted
  constructor
  · rintro stop rfl
    rw [unchanged_of_stopped acted, same]
  · rintro rfl
    have readsBack' : ∀ original changed, ClusterConfig.load tree path = .ok original →
        withKeyFile original = .ok changed → changed.ReadsBack := by
      rwa [load_congr same]
    obtain ⟨original, changed, provisioned⟩ := provisioned_of_acted acted readsBack'
    refine ⟨⟨original, changed, ?_⟩, ?_⟩
    · exact { provisioned with
        loads := load_congr same ▸ provisioned.loads
        rewritten := same ▸ provisioned.rewritten }
    · intro mock environment machine last untouched answered
      obtain ⟨found, same, acted⟩ := answered.acted
      exact provisioned.again (same.trans untouched) acted

/-- A mock that has slept puts the key file behind the name of the cluster. -/
theorem provisioned_after_sleep :
    let tree : Tree := { entries := [(["c.yml"], .file "cluster_name: demo\n".toUTF8 0o600)] }
    let text := "cluster_name: demo\nauth:\n  ssh_private_key: ~/.ssh/stratus-demo.pem\n"
    let mock : Mock := { delay := 5 }
    ∃ later original changed, later.readText "c.yml" = .ok text ∧
      Answered mock "c.yml" .empty { tree } (.ok ()) later ∧
      Provisioned tree later "c.yml" original changed := by
  intro tree text mock
  let original : ClusterConfig := ⟨[(.string "cluster_name", .string "demo")]⟩
  let changed : ClusterConfig :=
    ⟨[(.string "cluster_name", .string "demo"), (.string "auth", .mapping
      [(.string "ssh_private_key", .string "~/.ssh/stratus-demo.pem")])]⟩
  let later : Tree := tree.insert ["c.yml"] (.file text.toUTF8 0o600)
  have read : tree.readText "c.yml" = .ok "cluster_name: demo\n" := by decide +kernel
  have parsed : ClusterConfig.ofYaml "cluster_name: demo\n" = .ok original :=
    ClusterConfig.ofYaml_of_aligned (by decide) (by decide +kernel)
  have loads : ClusterConfig.load tree "c.yml" = .ok original :=
    bind_eq_ok.mpr ⟨_, mapError_eq_ok.mpr read, parsed⟩
  have named : withKeyFile original = .ok changed := rfl
  have written : changed.toYaml = .ok text := by decide +kernel
  have wrote : tree.writeText "c.yml" text = .ok later := by decide +kernel
  have readsBack : ∀ original' changed', ClusterConfig.load tree "c.yml" = .ok original' →
      withKeyFile original' = .ok changed' → changed'.ReadsBack := by
    intro original' changed' loads' named' text' written'
    cases loads.symm.trans loads'
    cases named.symm.trans named'
    cases written.symm.trans written'
    exact ClusterConfig.ofYaml_of_aligned (by decide) (by decide +kernel)
  have acted : (act .succeed .spawn "c.yml").run tree = (.ok (), later) :=
    act_spawn_eq_ok_iff.mpr
      ⟨rfl, text, provisioned_eq_ok_iff.mpr ⟨original, changed, loads, named, written⟩, wrote⟩
  have answered : Answered mock "c.yml" .empty { tree } (.ok ()) later :=
    .slept rfl rfl acted
  obtain ⟨original, changed, provisioned⟩ :=
    ((file_kept_or_provisioned readsBack answered).2 rfl).1
  exact ⟨later, original, changed, by decide +kernel, answered, provisioned⟩

end Tool.Mock

end CloudCluster
