import CloudCluster.Proofs.Config.Distinct
import CloudCluster.Proofs.Store.History
import CloudCluster.Proofs.Yaml.Write

/-!
Equal configs in a directory.

Equal configs both have a text or both have none, but the texts differ where the
documents list their keys in different orders or have different zeros. Where they are
`aligned`, the texts are one, and the configs share a file. All configs that are read or
built are `distinct`, which is what this takes.
-/

namespace CloudCluster

open Files Yaml

variable {digestOf : String → Digest} {store : ConfigStore} {tree : Tree} {a b : ClusterConfig}

namespace ClusterConfig

/-- Whether two configs that are the same list their keys in one order and have the same
floats. -/
def aligned (a b : ClusterConfig) : Bool :=
  (Value.mapping a.root).aligned (.mapping b.root)

theorem isOk_toYaml (config : ClusterConfig) :
    config.toYaml.isOk = writable false (.mapping config.root) := by
  rw [← isOk_write, toYaml]
  cases write (.mapping config.root) <;> rfl

theorem eq_of_aligned (distinct_a : a.distinct = true) (distinct_b : b.distinct = true)
    (equal : a.same b = true) (lined : a.aligned b = true) : a = b := by
  have roots := Value.eq_of_same_of_aligned distinct_a distinct_b equal lined
  obtain ⟨root⟩ := a
  obtain ⟨root'⟩ := b
  exact congrArg ClusterConfig.mk (Value.mapping.inj roots)

end ClusterConfig

namespace ConfigStore

/-- A config with the text of the one before it is found where that is. -/
theorem persist_again {path : Path} (text : a.toYaml = b.toYaml)
    (answered : ((persist digestOf store a).run tree).1 = .ok path) :
    ((persist digestOf store b).run ((persist digestOf store a).run tree).2).1 = .ok path := by
  obtain ⟨yaml, n, text', rfl, settled⟩ :=
    (persists_run digestOf store a tree).settled answered
  exact persist_of_settled settled (text.symm.trans text')

/-- Equal configs both have a text or both have none. If they list their keys in one
order and have the same floats, it is the same text, and they are persisted under the
same path. -/
theorem text_of_same (distinct_a : a.distinct = true) (distinct_b : b.distinct = true)
    (equal : a.same b = true) :
    a.toYaml.isOk = b.toYaml.isOk ∧
    (a.aligned b = true → a.toYaml = b.toYaml ∧
      ∀ digestOf store tree path, ((persist digestOf store a).run tree).1 = .ok path →
        ((persist digestOf store b).run ((persist digestOf store a).run tree).2).1 =
          .ok path) := by
  constructor
  · rw [ClusterConfig.isOk_toYaml, ClusterConfig.isOk_toYaml]
    exact writable_of_same distinct_a equal false
  · intro lined
    have text : a.toYaml = b.toYaml := by
      rw [ClusterConfig.eq_of_aligned distinct_a distinct_b equal lined]
    exact ⟨text, fun digestOf store tree path => persist_again text⟩

/-- Configs of different orders both have a text, and one of one order is found again. -/
theorem text_of_small_configs :
    let a : ClusterConfig := ⟨[(.string "a", .integer 1), (.string "b", .integer 2)]⟩
    let b : ClusterConfig := ⟨[(.string "b", .integer 2), (.string "a", .integer 1)]⟩
    let first := (persist Sha256.hashText ⟨"cloud"⟩ a).run {}
    (a.distinct = true ∧ b.distinct = true ∧ a.same b = true ∧ a.toYaml.isOk = b.toYaml.isOk) ∧
    a.same a = true ∧ a.aligned a = true ∧ first.1 = .ok "cloud/config-d02b.yml" ∧
    ((persist Sha256.hashText ⟨"cloud"⟩ a).run first.2).1 = .ok "cloud/config-d02b.yml" := by
  intro a b first
  have distinct_a : a.distinct = true := by decide
  have distinct_b : b.distinct = true := by decide
  have equal : a.same b = true := by decide
  have equal' : a.same a = true := by decide
  have lined : a.aligned a = true := by decide
  have answered : first.1 = .ok "cloud/config-d02b.yml" := by decide +kernel
  have again := ((text_of_same distinct_a distinct_a equal').2 lined).2 Sha256.hashText ⟨"cloud"⟩
    {} _ answered
  exact ⟨⟨distinct_a, distinct_b, equal, (text_of_same distinct_a distinct_b equal).1⟩, equal',
    lined, answered, again⟩

/-- Equal configs of different orders have different texts, and different paths. -/
theorem text_of_reordered :
    let a : ClusterConfig := ⟨[(.string "a", .integer 1), (.string "b", .integer 2)]⟩
    let b : ClusterConfig := ⟨[(.string "b", .integer 2), (.string "a", .integer 1)]⟩
    let first := (persist Sha256.hashText ⟨"cloud"⟩ a).run {}
    a.same b = true ∧ a.toYaml = .ok "a: 1\nb: 2\n" ∧ b.toYaml = .ok "b: 2\na: 1\n" ∧
    first.1 = .ok "cloud/config-d02b.yml" ∧
    ((persist Sha256.hashText ⟨"cloud"⟩ b).run first.2).1 = .ok "cloud/config-2ada.yml" := by
  decide +kernel

end ConfigStore

end CloudCluster
