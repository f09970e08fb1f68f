import CloudCluster.Config.Build
import CloudCluster.Config.File
import CloudCluster.Proofs.Yaml.Distinct

/-!
Configs have each key once.

Configs are read from texts, and specs are filled in by putting values at paths; neither
makes a mapping with a key twice (`distinct_load`, `distinct_build`).
-/

namespace CloudCluster.ClusterConfig

open Files Yaml

/-- Whether every mapping of a config has each key once. -/
def distinct (config : ClusterConfig) : Bool :=
  (Value.mapping config.root).distinct

variable {config changed : ClusterConfig} {key : String} {value : Value} {entries : Entries}

theorem distinct_ofYaml {text : String} (read : ofYaml text = .ok config) :
    config.distinct = true := by
  unfold ofYaml at read
  split at read
  · next entries done =>
    cases read
    exact distinct_read done
  · cases read
    rfl
  · cases read
  · cases read

theorem distinct_load {tree : Tree} {path : Path} (loaded : load tree path = .ok config) :
    config.distinct = true := by
  obtain ⟨text, _, read⟩ := bind_eq_ok.mp loaded
  exact distinct_ofYaml read

/-! ### Putting values at paths -/

theorem same_string {other : Value} :
    other.same (.string key) = isKey key other := by
  cases other <;> rfl

/-- An inserted entry has the key that was there, or the new one. -/
theorem key_of_mem_insert {entry : Value × Value} (mem : entry ∈ insert key value entries) :
    entry.1 = .string key ∨ ∃ before ∈ entries, before.1 = entry.1 := by
  induction entries with
  | nil =>
      rw [insert, List.mem_singleton] at mem
      exact Or.inl (by rw [mem])
  | cons head rest ih =>
      rw [insert] at mem
      split at mem
      · rcases List.mem_cons.mp mem with rfl | behind
        · exact Or.inr ⟨head, List.mem_cons_self, rfl⟩
        · exact Or.inr ⟨entry, List.mem_cons_of_mem _ behind, rfl⟩
      · rcases List.mem_cons.mp mem with rfl | behind
        · exact Or.inr ⟨head, List.mem_cons_self, rfl⟩
        · rcases ih behind with new | ⟨before, mem', same⟩
          · exact Or.inl new
          · exact Or.inr ⟨before, List.mem_cons_of_mem _ mem', same⟩

theorem distinct_insert (once : Value.distinctEntries entries = true)
    (ofValue : value.distinct = true) :
    Value.distinctEntries (insert key value entries) = true := by
  induction entries with
  | nil => simp [insert, Value.distinctEntries, Value.distinct, ofValue]
  | cons head rest ih =>
      obtain ⟨k, v⟩ := head
      simp only [Value.distinctEntries, Bool.and_eq_true, List.all_eq_true,
        Bool.not_eq_true'] at once
      obtain ⟨⟨⟨ofKey, ofOld⟩, fresh⟩, behind⟩ := once
      rw [insert]
      split
      · simp only [Value.distinctEntries, Bool.and_eq_true, List.all_eq_true, Bool.not_eq_true']
        exact ⟨⟨⟨ofKey, ofValue⟩, fresh⟩, behind⟩
      · next other =>
        simp only [Value.distinctEntries, Bool.and_eq_true, List.all_eq_true, Bool.not_eq_true']
        refine ⟨⟨⟨ofKey, ofOld⟩, fun entry mem => ?_⟩, ih behind⟩
        rcases key_of_mem_insert mem with new | ⟨before, mem', same⟩
        · rw [new, same_string]
          exact Bool.eq_false_iff.mpr other
        · rw [← same]
          exact fresh before mem'

theorem distinct_of_find? (once : Value.distinctEntries entries = true)
    (found : find? key entries = some value) : value.distinct = true := by
  induction entries with
  | nil => cases found
  | cons head rest ih =>
      have parts := (Value.distinctEntries_iff.mp once).1
      rw [find?] at found
      split at found
      · cases found
        exact (parts head List.mem_cons_self).2
      · simp only [Value.distinctEntries, Bool.and_eq_true] at once
        exact ih once.2 found

theorem distinct_parentEntries {inner : Entries} (once : Value.distinctEntries entries = true)
    (parent : parentEntries key entries = .ok inner) : Value.distinctEntries inner = true := by
  unfold parentEntries at parent
  split at parent
  · next found =>
    cases parent
    exact distinct_of_find? once found
  · split at parent
    · cases parent
    · cases parent
      rfl
  · cases parent
    rfl

theorem distinct_setEntries {path : List String} {after : Entries}
    (once : Value.distinctEntries entries = true) (ofValue : value.distinct = true)
    (put : setEntries value path entries = .ok after) : Value.distinctEntries after = true := by
  induction path generalizing entries after with
  | nil =>
      cases put
      exact once
  | cons key rest ih =>
      cases rest with
      | nil =>
          cases put
          exact distinct_insert once ofValue
      | cons next rest =>
          obtain ⟨inner, parent, put'⟩ := bind_eq_ok.mp put
          obtain ⟨inner', below, same⟩ := bind_eq_ok.mp put'
          cases same
          exact distinct_insert once (ih (distinct_parentEntries once parent) below)

theorem distinct_set {path : List String} (once : config.distinct = true)
    (ofValue : value.distinct = true) (put : config.set path value = .ok changed) :
    changed.distinct = true := by
  obtain ⟨root, entered, same⟩ := bind_eq_ok.mp put
  cases same
  exact distinct_setEntries once ofValue entered

/-! ### Filling in specs -/

theorem distinct_of_assignment {profile : Profile} {proxy : Option String} {spec : ClusterSpec}
    {assignment : Assignment} (mem : assignment ∈ assignments profile proxy spec) :
    assignment.2.distinct = true := by
  simp only [assignments, List.mem_append, List.mem_cons, List.mem_map, List.not_mem_nil,
    Option.mem_toList, Option.map_eq_some_iff, or_false] at mem
  rcases mem with ((((mem | ⟨_, _, rfl⟩) | rfl) | ⟨_, _, rfl⟩) | ⟨_, _, rfl⟩) | ⟨_, _, rfl⟩
  · rcases mem with rfl | rfl | rfl | rfl | rfl <;> rfl
  all_goals rfl

theorem distinct_assign {work : List Assignment} (once : config.distinct = true)
    (each : ∀ assignment ∈ work, assignment.2.distinct = true)
    (done : config.assign work = .ok changed) : changed.distinct = true := by
  induction work generalizing config with
  | nil =>
      cases done
      exact once
  | cons assignment rest ih =>
      obtain ⟨ofValue, each⟩ := List.forall_mem_cons.mp each
      obtain ⟨next, put, done⟩ := bind_eq_ok.mp done
      exact ih (distinct_set once ofValue put) each done

theorem distinct_baseTemplate : baseTemplate.distinct = true := by
  decide +kernel

/-- A config that is built has each key once if its template has. -/
theorem distinct_build {template : ClusterConfig} {proxy : Option String} {spec : ClusterSpec}
    (once : template.distinct = true) (built : template.build proxy spec = .ok config) :
    config.distinct = true := by
  obtain ⟨profile, _, assigned⟩ := bind_eq_ok.mp built
  exact distinct_assign once (fun _ mem => distinct_of_assignment mem) (mapError_eq_ok.mp assigned)

end CloudCluster.ClusterConfig
