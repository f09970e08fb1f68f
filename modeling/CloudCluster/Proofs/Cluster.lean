import CloudCluster.Cluster
import CloudCluster.Proofs.Files.Action

/-!
Opening a cluster.

All that can be done without the directory of configs is done first: `groundwork` is that
part, and it only asks (`run_prepare`). Where it fails, the machine is left as it was
(`new_of_groundwork_error`). An `Obstacle` is a reason for it to fail with an error; a
spawner that is not known comes before all of it. A provider without a profile is an obstacle
that is met at one of two steps, before the template or behind it, and of two obstacles the
first is answered (`create_unsupported_iff`).
-/

namespace CloudCluster

open Files Tool Lifecycle

namespace Spawner

theorem parse_name (spawner : Spawner) : parse spawner.name = .ok spawner := by
  cases spawner <;> rfl

theorem parse_of_unknown {text : String} (unknown : ∀ known : Spawner, text ≠ known.name) :
    parse text = .error (.unknownSpawner text) := by
  have notRayscale : text ≠ "rayscale" := unknown .rayscale
  have notMock : text ≠ "mock" := unknown .mock
  rw [parse, if_neg notRayscale, if_neg notMock]

end Spawner

theorem Provider.profile_of_unsupported {provider : Provider}
    (unsupported : ∀ profile, provider.profile ≠ .ok profile) :
    provider.profile = .error (.unsupportedProvider provider.name) := by
  cases provider with
  | aws => exact absurd rfl (unsupported .aws)
  | gcp => rfl
  | azure => rfl

namespace Cluster

variable {settings : Settings} {machine : Machine} {spec : ClusterSpec} {spawner : String}
  {home : String} {tree : Tree}

/-- What is done for a cluster before its config is persisted. -/
def groundwork (settings : Settings) (home : String) (tree : Tree) (spec : ClusterSpec) :
    Except Refusal (Environment × ClusterConfig) := do
  let environment ← Refusal.ofExcept spec.environment
  let template ← Refusal.ofExcept (settings.baseTemplate home tree)
  let config ← template.build settings.socksProxy spec
  return (environment, config)

/-- The reasons why a cluster is not opened, before anything is written. -/
inductive Obstacle (settings : Settings) (machine : Machine) (spec : ClusterSpec)
    (spawner : String) : Prop where
  | unknown (unknown : ∀ known : Spawner, spawner ≠ known.name)
  | unsupported (unsupported : ∀ profile, spec.provider.provider.profile ≠ .ok profile)
  | unreadable {path fault} (given : settings.template = some path)
      (unreadable : machine.tree.readText (Path.expandHome machine.home path) = .error fault)
  | malformed {path text error} (given : settings.template = some path)
      (read : machine.tree.readText (Path.expandHome machine.home path) = .ok text)
      (malformed : Yaml.read text = .error error)
  | rootless {path text value} (given : settings.template = some path)
      (read : machine.tree.readText (Path.expandHome machine.home path) = .ok text)
      (parsed : Yaml.read text = .ok value) (notMapping : ∀ entries, value ≠ .mapping entries)
      (notNull : value ≠ .null)

/-! ### Before persisting -/

/-- Before persisting, the tree is only asked. -/
theorem run_prepare_of_error {refusal : Refusal}
    (failed : groundwork settings home tree spec = .error refusal) :
    (prepare settings home spec).run tree = (.error refusal, tree) := by
  unfold groundwork at failed
  simp only [prepare, Action.run_bind, Action.run_ask]
  cases environment : Refusal.ofExcept spec.environment with
  | error refusal =>
      rw [environment] at failed
      cases failed
      rfl
  | ok environment' =>
      rw [environment] at failed
      cases template : Refusal.ofExcept (settings.baseTemplate home tree) with
      | error refusal =>
          rw [template] at failed
          cases failed
          simp only [template]
      | ok template' =>
          rw [template] at failed
          cases config : template'.build settings.socksProxy spec with
          | error refusal =>
              simp only [bind, Except.bind, config] at failed
              cases failed
              simp only [template, config]
          | ok config' =>
              simp only [bind, Except.bind, config] at failed
              cases failed

/-- A cluster whose groundwork fails is not made, and nothing else is. -/
theorem new_of_groundwork_error {refusal : Refusal} (gateway : Gateway)
    (failed : groundwork settings machine.home machine.tree spec = .error refusal) :
    new settings machine spec gateway = (.error refusal, machine) := by
  simp only [new, run_prepare_of_error failed, Except.map]

theorem create_name (known : Spawner) :
    create settings machine spec known.name =
      new settings machine spec (known.gateway settings) := by
  rw [create, Spawner.parse_name]

theorem create_of_unknown (unknown : ∀ known : Spawner, spawner ≠ known.name) :
    create settings machine spec spawner =
      (.error (.error (.unknownSpawner spawner)), machine) := by
  rw [create, Spawner.parse_of_unknown unknown]

/-- What is changed when a cluster is opened comes after all of the groundwork, with a
spawner that is known. -/
theorem groundwork_of_changed
    (changed : (create settings machine spec spawner).2 ≠ machine) :
    (∃ known : Spawner, spawner = known.name) ∧
      ∃ done, groundwork settings machine.home machine.tree spec = .ok done := by
  by_cases known : ∃ known : Spawner, spawner = known.name
  · refine ⟨known, ?_⟩
    obtain ⟨known, rfl⟩ := known
    cases done : groundwork settings machine.home machine.tree spec with
    | ok made => exact ⟨made, rfl⟩
    | error refusal =>
        rw [create_name, new_of_groundwork_error _ done] at changed
        exact absurd rfl changed
  · rw [create_of_unknown (not_exists.mp known)] at changed
    exact absurd rfl changed

/-! ### Obstacles -/

theorem build_of_unsupported (template : ClusterConfig) (proxy : Option String)
    (unsupported : ∀ profile, spec.provider.provider.profile ≠ .ok profile) :
    template.build proxy spec =
      .error (.error (.unsupportedProvider spec.provider.provider.name)) := by
  rw [ClusterConfig.build, Provider.profile_of_unsupported unsupported]
  rfl

/-- What is missed first without a profile: only a credentials file is asked for before the
template. -/
def firstMissed (settings : Settings) (home : String) (tree : Tree) (spec : ClusterSpec) :
    ClusterError :=
  match spec.provider.credentialsFile, settings.baseTemplate home tree with
  | none, .error cause => cause
  | _, _ => .unsupportedProvider spec.provider.provider.name

theorem groundwork_of_unsupported
    (unsupported : ∀ profile, spec.provider.provider.profile ≠ .ok profile) :
    groundwork settings home tree spec =
      .error (.error (firstMissed settings home tree spec)) := by
  unfold groundwork ClusterSpec.environment firstMissed
  cases spec.provider.credentialsFile with
  | some file =>
      rw [Provider.profile_of_unsupported unsupported]
      rfl
  | none =>
      cases settings.baseTemplate home tree with
      | error cause => rfl
      | ok template =>
          have failed := build_of_unsupported template settings.socksProxy unsupported
          simp only [Refusal.ofExcept, mapError_ok, bind, Except.bind, failed]

theorem groundwork_of_template_error {cause : ClusterError}
    (failed : settings.baseTemplate home tree = .error cause) :
    ∃ error, groundwork settings home tree spec = .error (.error error) := by
  unfold groundwork
  cases spec.environment with
  | error error => exact ⟨error, rfl⟩
  | ok environment =>
      rw [failed]
      exact ⟨cause, rfl⟩

theorem baseTemplate_of_unreadable {path : Path} {fault : Fault}
    (given : settings.template = some path)
    (unreadable : tree.readText (Path.expandHome home path) = .error fault) :
    settings.baseTemplate home tree = .error (.io fault) := by
  simp only [Settings.baseTemplate, given, ClusterConfig.load, unreadable]
  rfl

theorem baseTemplate_of_read {path : Path} {text : String}
    (given : settings.template = some path)
    (read : tree.readText (Path.expandHome home path) = .ok text) :
    settings.baseTemplate home tree = ClusterConfig.ofYaml text := by
  simp only [Settings.baseTemplate, given, ClusterConfig.load, read]
  rfl

/-- Past the spawner, every obstacle is one to the groundwork. -/
theorem Obstacle.groundwork_error {known : Spawner}
    (obstacle : Obstacle settings machine spec known.name) :
    ∃ error, groundwork settings machine.home machine.tree spec = .error (.error error) := by
  cases obstacle with
  | unknown unknown => exact absurd rfl (unknown known)
  | unsupported unsupported => exact ⟨_, groundwork_of_unsupported unsupported⟩
  | unreadable given unreadable =>
      exact groundwork_of_template_error (baseTemplate_of_unreadable given unreadable)
  | @malformed path text error given read malformed =>
      have failed : ClusterConfig.ofYaml text = .error (.yaml error) := by
        rw [ClusterConfig.ofYaml, malformed]
      exact groundwork_of_template_error ((baseTemplate_of_read given read).trans failed)
  | @rootless path text value given read parsed notMapping notNull =>
      have failed : ClusterConfig.ofYaml text =
          .error (.config "cluster config root must be a mapping") := by
        rw [ClusterConfig.ofYaml, parsed]
        cases value with
        | mapping entries => exact absurd rfl (notMapping entries)
        | null => exact absurd rfl notNull
        | _ => rfl
      exact groundwork_of_template_error ((baseTemplate_of_read given read).trans failed)

/-- With any obstacle, opening a cluster is answered with an error and leaves the machine,
with its files and its runs of the launcher, as it was; a spawner that is not known is
answered with its name, whatever else is in the way. Nothing at all is changed unless the
groundwork was done. -/
theorem create_of_obstacle (settings : Settings) (machine : Machine) (spec : ClusterSpec)
    (spawner : String) :
    (Obstacle settings machine spec spawner → ∃ error,
      create settings machine spec spawner = (.error (.error error), machine)) ∧
    ((∀ known : Spawner, spawner ≠ known.name) →
      create settings machine spec spawner =
        (.error (.error (.unknownSpawner spawner)), machine)) ∧
    ((create settings machine spec spawner).2 ≠ machine →
      (∃ known : Spawner, spawner = known.name) ∧
        ∃ done, groundwork settings machine.home machine.tree spec = .ok done) := by
  refine ⟨?_, create_of_unknown, groundwork_of_changed⟩
  intro obstacle
  by_cases known : ∃ known : Spawner, spawner = known.name
  · obtain ⟨known, rfl⟩ := known
    obtain ⟨error, failed⟩ := obstacle.groundwork_error
    refine ⟨error, ?_⟩
    rw [create_name, new_of_groundwork_error _ failed]
  · exact ⟨.unknownSpawner spawner, create_of_unknown (not_exists.mp known)⟩

/-- A spawner that is not known with a provider that has no profile, the provider alone,
and neither, on an empty template. -/
theorem create_with_and_without_obstacles :
    let settings : Settings := { configDir := "cloud", template := some "base.yml" }
    let machine : Machine := { tree := { entries := [(["base.yml"], .file ⟨#[]⟩ 0o644)] } }
    let gcp : ClusterSpec := { provider := { provider := .gcp } }
    let aws : ClusterSpec := { provider := { provider := .aws } }
    create settings machine gcp "kubernetes" =
      (.error (.error (.unknownSpawner "kubernetes")), machine) ∧
    (∃ error, create settings machine gcp "mock" = (.error (.error error), machine)) ∧
    ∃ done, groundwork settings machine.home machine.tree aws = .ok done := by
  intro settings machine gcp aws
  have unknown : ∀ known : Spawner, "kubernetes" ≠ known.name := by
    intro known
    cases known <;> decide
  have unsupported : ∀ profile, gcp.provider.provider.profile ≠ .ok profile := by
    intro profile same
    cases same
  have written : (create settings machine aws "mock").2.tree ≠ machine.tree := by
    decide +kernel
  refine ⟨?_, ?_, ?_⟩
  · exact (create_of_obstacle settings machine gcp "kubernetes").2.1 unknown
  · exact (create_of_obstacle settings machine gcp "mock").1 (.unsupported unsupported)
  · exact ((create_of_obstacle settings machine aws "mock").2.2
      (mt (congrArg Machine.tree) written)).2

/-! ### Providers without a profile -/

/-- A template is refused for what the file is or what it says, not for a provider. -/
theorem baseTemplate_ne_unsupported (name : String) :
    settings.baseTemplate home tree ≠ .error (.unsupportedProvider name) := by
  unfold Settings.baseTemplate
  cases settings.template with
  | none => exact nofun
  | some path =>
      dsimp only
      rw [ClusterConfig.load]
      cases tree.readText (Path.expandHome home path) with
      | error fault => exact nofun
      | ok text =>
          intro missed
          change ClusterConfig.ofYaml text = _ at missed
          unfold ClusterConfig.ofYaml at missed
          split at missed <;> cases missed

theorem create_of_unsupported (spec : ClusterSpec) (known : Spawner)
    (unsupported : ∀ profile, spec.provider.provider.profile ≠ .ok profile) :
    create settings machine spec known.name =
      (.error (.error (firstMissed settings machine.home machine.tree spec)), machine) := by
  rw [create_name, new_of_groundwork_error _ (groundwork_of_unsupported unsupported)]

/-- The provider is missed first iff there is a credentials file or a template. -/
theorem firstMissed_eq_iff (settings : Settings) (home : String) (tree : Tree)
    (spec : ClusterSpec) :
    firstMissed settings home tree spec = .unsupportedProvider spec.provider.provider.name ↔
      (∃ file, spec.provider.credentialsFile = some file) ∨
        ∃ template, settings.baseTemplate home tree = .ok template := by
  unfold firstMissed
  cases spec.provider.credentialsFile with
  | some file => simp
  | none =>
      cases loaded : settings.baseTemplate home tree with
      | ok template => simp
      | error cause =>
          have other : cause ≠ .unsupportedProvider spec.provider.provider.name := by
            rintro rfl
            exact baseTemplate_ne_unsupported _ loaded
          simp [other]

/-- A provider without a profile is named in the answer, whatever else the spec, the settings
and the files are, iff the spec has a credentials file or the template can be loaded; without
both, the answer is what is wrong with the template. So a spec without a credentials file is
answered as it is with one iff the template can be loaded. -/
theorem create_unsupported_iff (settings : Settings) (machine : Machine) (spec : ClusterSpec)
    (known : Spawner) (unsupported : ∀ profile, spec.provider.provider.profile ≠ .ok profile) :
    (create settings machine spec known.name =
        (.error (.error (.unsupportedProvider spec.provider.provider.name)), machine) ↔
      (∃ file, spec.provider.credentialsFile = some file) ∨
        ∃ template, settings.baseTemplate machine.home machine.tree = .ok template) ∧
    (spec.provider.credentialsFile = none → ∀ cause,
      settings.baseTemplate machine.home machine.tree = .error cause →
        create settings machine spec known.name = (.error (.error cause), machine)) ∧
    (spec.provider.credentialsFile = none → ∀ file,
      (create settings machine (spec.withCredentialsFile file) known.name =
          create settings machine spec known.name ↔
        ∃ template, settings.baseTemplate machine.home machine.tree = .ok template)) := by
  refine ⟨?_, ?_, ?_⟩
  · rw [create_of_unsupported spec known unsupported]
    simpa using firstMissed_eq_iff settings machine.home machine.tree spec
  · intro bare cause failed
    rw [create_of_unsupported spec known unsupported, firstMissed, bare, failed]
  · intro bare file
    have named : firstMissed settings machine.home machine.tree (spec.withCredentialsFile file) =
        .unsupportedProvider spec.provider.provider.name := rfl
    rw [create_of_unsupported spec known unsupported,
      create_of_unsupported (spec.withCredentialsFile file) known unsupported, named]
    simpa [bare, eq_comm] using firstMissed_eq_iff settings machine.home machine.tree spec

/-- A template that is missing is looked for only when there is no credentials file. -/
theorem create_unsupported_with_credentials :
    let machine : Machine := { tree := {} }
    let bare : ClusterSpec := { provider := { provider := .azure } }
    (∀ profile, Provider.azure.profile ≠ .ok profile) ∧
    create { template := some "base.yml" } machine (bare.withCredentialsFile "azure.json")
        "rayscale" = (.error (.error (.unsupportedProvider "azure")), machine) ∧
    create {} machine bare "mock" = (.error (.error (.unsupportedProvider "azure")), machine) := by
  intro machine bare
  have unsupported : ∀ profile, Provider.azure.profile ≠ .ok profile := nofun
  refine ⟨unsupported, ?_, ?_⟩
  · exact (create_unsupported_iff _ machine (bare.withCredentialsFile "azure.json") .rayscale
      unsupported).1.mpr (.inl ⟨_, rfl⟩)
  · exact (create_unsupported_iff {} machine bare .mock unsupported).1.mpr (.inr ⟨_, rfl⟩)

/-- One provider, one template that is missing, and two answers. -/
theorem unsupported_provider_behind_template :
    let settings : Settings := { configDir := "cloud", template := some "missing.yml" }
    let machine : Machine := { tree := {} }
    let spec : ClusterSpec := { provider := { provider := .gcp } }
    create settings machine spec "mock" =
      (.error (.error (.io (.system .notFound))), machine) ∧
    create settings machine (spec.withCredentialsFile "gcp.json") "mock" =
      (.error (.error (.unsupportedProvider "gcp")), machine) := by
  intro settings machine spec
  have unsupported : ∀ profile, Provider.gcp.profile ≠ .ok profile := nofun
  have unreadable : ({} : Tree).readText (Path.expandHome "" "missing.yml") =
      .error (.system .notFound) := by
    decide +kernel
  have missing : settings.baseTemplate machine.home machine.tree =
      .error (.io (.system .notFound)) :=
    baseTemplate_of_unreadable rfl unreadable
  refine ⟨?_, ?_⟩
  · have first : firstMissed settings machine.home machine.tree spec =
        .io (.system .notFound) := by
      rw [firstMissed, missing]
    exact first ▸ create_of_unsupported spec .mock unsupported
  · exact create_of_unsupported (spec.withCredentialsFile "gcp.json") .mock unsupported

end Cluster

end CloudCluster
