import CloudCluster.Proofs.Config.Access
import Mathlib.Data.List.Pairwise

/-!
What a config says after a spec was filled in.

`ClusterSpec.fields` is a table of all that a spec can say, and of the value that it says
there. `build` assigns just the values of the table (`assignments_eq`), and the paths of the
table diverge from each other whatever the values are (`divergent_paths`). So no assignment
is in the way of another, and a template keeps all that the spec says nothing of.
-/

namespace CloudCluster

open Yaml

/-- All paths that a spec can set, with their values. What has no value is left to the
template: a region, a zone or a proxy that is absent or empty, and absent node types. -/
def ClusterSpec.fields (proxy : Option String) (spec : ClusterSpec) :
    List (List String × Option Value) :=
  [(["cluster_name"], some (.string spec.clusterName)),
    (["min_workers"], some (.integer spec.workerCount.toNat)),
    (["max_workers"], some (.integer spec.workerCount.toNat)),
    (["initial_workers"], some (.integer spec.workerCount.toNat)),
    (["provider", "type"], some (.string spec.provider.provider.name)),
    (["provider", "region"], (spec.provider.region.filter (· ≠ "")).map .string),
    (["provider", "zone"], (spec.provider.zone.filter (· ≠ "")).map .string),
    (["auth", "ssh_user"], some (.string "stratus")),
    (["auth", "ssh_proxy_command"],
      (proxy.filter (· ≠ "")).map fun address => .string (proxyCommand address)),
    (["head_node", "InstanceType"], spec.headNodeType.map .string),
    (["worker_nodes", "InstanceType"], spec.workerNodeType.map .string)]

/-- The paths of the table, which are the same for every spec. -/
def ClusterSpec.paths : List (List String) :=
  [["cluster_name"], ["min_workers"], ["max_workers"], ["initial_workers"], ["provider", "type"],
    ["provider", "region"], ["provider", "zone"], ["auth", "ssh_user"],
    ["auth", "ssh_proxy_command"], ["head_node", "InstanceType"], ["worker_nodes", "InstanceType"]]

namespace ClusterConfig

variable {template config : ClusterConfig} {proxy : Option String} {spec : ClusterSpec}
  {path : List String} {value : Value}

theorem paths_fields : (spec.fields proxy).map Prod.fst = ClusterSpec.paths := rfl

theorem mem_paths {field : Option Value} (mem : (path, field) ∈ spec.fields proxy) :
    path ∈ ClusterSpec.paths := by
  have known : path ∈ (spec.fields proxy).map Prod.fst := List.mem_map.mpr ⟨_, mem, rfl⟩
  rwa [paths_fields] at known

theorem divergent_paths : ClusterSpec.paths.Pairwise Divergent := by
  decide

theorem divergent_fields :
    (spec.fields proxy).Pairwise fun first second => Divergent first.1 second.1 := by
  rw [← List.pairwise_map, paths_fields]
  exact divergent_paths

/-- A spec sets the values of its table. -/
theorem assignments_eq : assignments .aws proxy spec =
    (spec.fields proxy).filterMap fun field => field.2.map (field.1, ·) := by
  unfold assignments Profile.placementFields ClusterSpec.fields
  generalize spec.provider.region.filter (· ≠ "") = region
  generalize spec.provider.zone.filter (· ≠ "") = zone
  generalize proxy.filter (· ≠ "") = proxy
  cases region <;> cases zone <;> cases proxy <;> cases spec.headNodeType <;>
    cases spec.workerNodeType <;> rfl

/-- Only one provider has a profile to build a config with. -/
theorem assign_of_build (built : template.build proxy spec = .ok config) :
    template.assign (assignments .aws proxy spec) = .ok config := by
  obtain ⟨profile, supported, assigned⟩ := bind_eq_ok.mp built
  have aws : profile = .aws := by
    cases provider : spec.provider.provider <;> rw [provider] at supported <;> cases supported
    rfl
  rw [← aws]
  exact mapError_eq_ok.mp assigned

theorem divergent_assignments :
    (assignments .aws proxy spec).Pairwise fun first second => Divergent first.1 second.1 := by
  rw [assignments_eq, List.pairwise_filterMap]
  refine divergent_fields.imp ?_
  intro first second divergent assignment mem assignment' mem'
  obtain ⟨value, _, rfl⟩ := Option.map_eq_some_iff.mp mem
  obtain ⟨value', _, rfl⟩ := Option.map_eq_some_iff.mp mem'
  exact divergent

theorem mem_assignments_iff :
    (path, value) ∈ assignments .aws proxy spec ↔ (path, some value) ∈ spec.fields proxy := by
  rw [assignments_eq, List.mem_filterMap]
  constructor
  · rintro ⟨⟨path', _⟩, mem, is⟩
    obtain ⟨value', rfl, same⟩ := Option.map_eq_some_iff.mp is
    cases same
    exact mem
  · intro mem
    exact ⟨_, mem, rfl⟩

theorem get?_build_of_value (built : template.build proxy spec = .ok config)
    (field : (path, some value) ∈ spec.fields proxy) : config.get? path = some value := by
  have notNil : path ≠ [] := by
    rintro rfl
    exact absurd (mem_paths field) (by decide)
  exact get?_assign_of_mem (assign_of_build built) divergent_assignments notNil
    (mem_assignments_iff.mpr field)

theorem get?_build_of_divergent (built : template.build proxy spec = .ok config)
    (divergent : ∀ written value, (written, some value) ∈ spec.fields proxy →
      Divergent written path) : config.get? path = template.get? path := by
  refine get?_assign_of_divergent (assign_of_build built) ?_
  rintro ⟨written, value⟩ mem
  exact divergent written value (mem_assignments_iff.mp mem)

/-- A path of the table without a value diverges from those that have one. -/
theorem divergent_of_unset (unset : (path, none) ∈ spec.fields proxy) {written : List String}
    (field : (written, some value) ∈ spec.fields proxy) : Divergent written path := by
  have : Std.Symm fun first second : List String × Option Value =>
      Divergent first.1 second.1 := ⟨fun _ _ => Divergent.symm⟩
  exact divergent_fields.forall field unset (by simp)

theorem natural?_natCast {n : Nat} (bound : (n : Int) < 0x10000000000000000) :
    natural? (.integer n) = some n := by
  unfold natural? untag
  dsimp only
  rw [if_pos ⟨Int.natCast_nonneg n, bound⟩, Int.toNat_natCast]

theorem getNatural?_of_integer {count : UInt32}
    (reads : config.get? path = some (.integer count.toNat)) :
    config.getNatural? path = some count.toNat := by
  have bound : (count.toNat : Int) < 0x10000000000000000 := by
    have := count.toNat_lt
    omega
  rw [getNatural?, reads, Option.bind_some, natural?_natCast bound]

/-- Whatever the template is, a config that is built on it has every value of the spec, the
three numbers of workers among them. Every path that the spec has no value for, and every
path beside those that it has one for, is as on the template. -/
theorem build_sets_fields_only (built : template.build proxy spec = .ok config) :
    (∀ path value, (path, some value) ∈ spec.fields proxy → config.get? path = some value) ∧
    (∀ key ∈ ["min_workers", "max_workers", "initial_workers"],
      config.getNatural? [key] = some spec.workerCount.toNat) ∧
    (∀ path, (path, none) ∈ spec.fields proxy → config.get? path = template.get? path) ∧
    ∀ path, (∀ written value, (written, some value) ∈ spec.fields proxy →
      Divergent written path) → config.get? path = template.get? path := by
  refine ⟨fun path value field => get?_build_of_value built field, ?_, ?_, ?_⟩
  · intro key mem
    have field : ([key], some (.integer spec.workerCount.toNat)) ∈ spec.fields proxy := by
      simp only [List.mem_cons, List.not_mem_nil, or_false] at mem
      rcases mem with rfl | rfl | rfl <;> simp [ClusterSpec.fields]
    exact getNatural?_of_integer (get?_build_of_value built field)
  · intro path unset
    refine get?_build_of_divergent built ?_
    intro written value field
    exact divergent_of_unset unset field
  · intro path divergent
    exact get?_build_of_divergent built divergent

/-- A text, a sequence and nothing at all are in the place of parents. The mapping behind a
tag is no parent of this spec, and is read through. -/
theorem build_on_odd_template :
    let template : ClusterConfig := ⟨[
      (.string "provider", .string "gcp"),
      (.string "auth", .sequence [.null]),
      (.string "head_node",
        .tagged ⟨"kept"⟩ (.mapping [(.string "InstanceType", .string "p3.2xlarge")])),
      (.string "min_workers", .mapping []),
      (.string "docker", .mapping [(.string "image", .string "ray")])]⟩
    let spec : ClusterSpec :=
      { provider := { provider := .aws, region := some "", zone := some "us-west-1a" }
        workerCount := 3
        workerNodeType := some "m5.large" }
    ∃ config, template.build (some "proxy host:1080") spec = .ok config ∧
      config.getNatural? ["min_workers"] = some 3 ∧
      config.get? ["provider", "zone"] = some (.string "us-west-1a") ∧
      config.get? ["auth", "ssh_proxy_command"] =
        some (.string "nc -x 'proxy host:1080' %h %p") ∧
      config.get? ["provider", "region"] = none ∧
      config.get? ["head_node", "InstanceType"] = some (.string "p3.2xlarge") ∧
      config.get? ["docker", "image"] = some (.string "ray") := by
  intro template spec
  have untagged : ∀ parent ∈ spec.parents, ¬ TaggedAt parent template.root := by decide
  obtain ⟨config, built⟩ : ∃ config, template.build (some "proxy host:1080") spec = .ok config :=
    build_of_untagged rfl untagged
  obtain ⟨values, workers, unset, beside⟩ := build_sets_fields_only built
  refine ⟨config, built, workers _ (by simp), values _ _ ?_, values _ _ ?_, unset _ ?_, unset _ ?_,
    beside _ ?_⟩
  · simp [ClusterSpec.fields, spec, Option.filter]
  · have command : proxyCommand "proxy host:1080" = "nc -x 'proxy host:1080' %h %p" := rfl
    simp [ClusterSpec.fields, command, Option.filter]
  · simp [ClusterSpec.fields, spec, Option.filter]
  · simp [ClusterSpec.fields, spec]
  · intro written value field
    have apart : ∀ written ∈ ClusterSpec.paths, Divergent written ["docker", "image"] := by decide
    exact apart written (mem_paths field)

end ClusterConfig

end CloudCluster
