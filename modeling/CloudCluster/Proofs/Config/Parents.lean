import CloudCluster.Config.Build
import CloudCluster.Proofs.Except

/-!
Parents on the way to a value.

`set` replaces a parent that is no mapping. A mapping behind a tag is taken for a mapping
and still cannot be gone into: `Blocked` says that a path leads to one, and exactly then
`set` has no result (`setEntries_of_blocked`, `setEntries_of_clear`). A value that was put
at one path blocks no other that does not go on from it (`blocked_setEntries_iff`), so the
template alone decides whether a config can be built (`set_and_build_unless_tagged`).
-/

namespace CloudCluster

open Yaml

namespace ClusterConfig

/-- A mapping behind a tag is under a key. -/
def TaggedAt (key : String) (entries : Entries) : Prop :=
  ∃ tag value inner, find? key entries = some (.tagged tag value) ∧ entries? value = some inner

/-- The entries of a mapping behind a tag. -/
def taggedEntries? : Value → Option Entries
  | .tagged _ value => entries? value
  | _ => none

theorem taggedAt_iff {key : String} {entries : Entries} :
    TaggedAt key entries ↔ ((find? key entries).bind taggedEntries?).isSome = true := by
  rw [Option.isSome_iff_exists]
  constructor
  · rintro ⟨tag, value, inner, found, mapping⟩
    exact ⟨inner, by rw [found]; exact mapping⟩
  · rintro ⟨inner, entered⟩
    obtain ⟨value, found, mapping⟩ := Option.bind_eq_some_iff.mp entered
    cases value <;> first | exact ⟨_, _, inner, found, mapping⟩ | cases mapping

instance (key : String) (entries : Entries) : Decidable (TaggedAt key entries) :=
  decidable_of_iff _ taggedAt_iff.symm

/-- A path leads to a mapping behind a tag before its last key. -/
inductive Blocked : List String → Entries → Prop where
  | here {key next rest entries} (tagged : TaggedAt key entries) :
      Blocked (key :: next :: rest) entries
  | deeper {key next rest entries inner} (found : find? key entries = some (.mapping inner))
      (blocked : Blocked (next :: rest) inner) : Blocked (key :: next :: rest) entries

end ClusterConfig

/-- The keys that a spec sets values below. -/
def ClusterSpec.parents (spec : ClusterSpec) : List String :=
  ["provider", "auth"] ++ (spec.headNodeType.map fun _ => "head_node").toList ++
    (spec.workerNodeType.map fun _ => "worker_nodes").toList

namespace ClusterConfig

variable {entries after inner : Entries} {key next : String} {path rest : List String}
  {value : Value}

/-! ### Entries under keys -/

theorem find?_insert_self (key : String) (value : Value) (entries : Entries) :
    find? key (insert key value entries) = some value := by
  induction entries with
  | nil => simp [insert, find?, isKey]
  | cons entry rest ih =>
      obtain ⟨k, v⟩ := entry
      rw [insert]
      cases same : isKey key k with
      | true => simp [find?, same]
      | false => simpa [find?, same] using ih

theorem find?_insert_of_ne {other : String} (different : other ≠ key) :
    find? other (insert key value entries) = find? other entries := by
  induction entries with
  | nil => simp [insert, find?, isKey, Ne.symm different]
  | cons entry rest ih =>
      obtain ⟨k, v⟩ := entry
      rw [insert]
      cases same : isKey key k with
      | true =>
          have notOther : isKey other k = false := by
            cases k with
            | string text =>
                have text_eq : text = key := by simpa [isKey] using same
                simpa [isKey, text_eq] using Ne.symm different
            | _ => rfl
          simp [find?, notOther]
      | false => simp [find?, ih]

/-! ### Blocked paths -/

theorem not_blocked_singleton : ¬ Blocked [key] entries := by
  intro blocked
  cases blocked

/-- Only what is under its first key can block a path. -/
theorem Blocked.of_find?_eq (blocked : Blocked (key :: rest) entries)
    (same : find? key after = find? key entries) : Blocked (key :: rest) after := by
  cases blocked with
  | here tagged =>
      obtain ⟨tag, value, inner, found, mapping⟩ := tagged
      exact .here ⟨tag, value, inner, same.trans found, mapping⟩
  | deeper found blocked => exact .deeper (same.trans found) blocked

theorem blocked_congr (same : find? key after = find? key entries) :
    Blocked (key :: rest) after ↔ Blocked (key :: rest) entries := by
  constructor
  · intro blocked
    exact blocked.of_find?_eq same.symm
  · intro blocked
    exact blocked.of_find?_eq same

/-- In a mapping, the rest of the path decides. -/
theorem blocked_cons_of_mapping (found : find? key entries = some (.mapping inner)) :
    Blocked (key :: next :: rest) entries ↔ Blocked (next :: rest) inner := by
  constructor
  · intro blocked
    cases blocked with
    | here tagged =>
        obtain ⟨tag, value, inner', found', _⟩ := tagged
        rw [found] at found'
        cases found'
    | deeper found' blocked =>
        rw [found] at found'
        cases found'
        exact blocked
  · intro blocked
    exact .deeper found blocked

theorem not_blocked_nil : ¬ Blocked path [] := by
  intro blocked
  cases blocked with
  | here tagged =>
      obtain ⟨_, _, _, found, _⟩ := tagged
      cases found
  | deeper found => cases found

/-- Where `set` goes on, the path is blocked iff it is blocked from there. -/
theorem blocked_cons_of_parentEntries (parent : parentEntries key entries = .ok inner) :
    Blocked (key :: next :: rest) entries ↔ Blocked (next :: rest) inner := by
  unfold parentEntries at parent
  split at parent
  · next found =>
    cases parent
    exact blocked_cons_of_mapping found
  · next tag value found =>
    split at parent
    · cases parent
    · next noMapping =>
      cases parent
      refine iff_of_false ?_ not_blocked_nil
      intro blocked
      cases blocked with
      | here tagged =>
          obtain ⟨_, _, _, found', mapping⟩ := tagged
          rw [found] at found'
          cases found'
          rw [noMapping] at mapping
          cases mapping
      | deeper found' =>
          rw [found] at found'
          cases found'
  · next notMapping notTagged =>
    cases parent
    refine iff_of_false ?_ not_blocked_nil
    intro blocked
    cases blocked with
    | here tagged =>
        obtain ⟨_, _, _, found, _⟩ := tagged
        exact notTagged _ _ found
    | deeper found => exact notMapping _ found

/-- `set` can go on under a key unless a mapping with a tag is there. -/
theorem parentEntries_cases (key : String) (entries : Entries) :
    (∃ inner, parentEntries key entries = .ok inner) ∨ TaggedAt key entries := by
  unfold parentEntries
  split
  · exact .inl ⟨_, rfl⟩
  · next tag value found =>
    split
    · next inner mapping => exact .inr ⟨tag, value, inner, found, mapping⟩
    · exact .inl ⟨_, rfl⟩
  · exact .inl ⟨_, rfl⟩

/-! ### Putting a value -/

theorem setEntries_of_blocked (value : Value) (blocked : Blocked path entries) :
    setEntries value path entries = .error .taggedParent := by
  induction blocked with
  | here tagged =>
      obtain ⟨tag, value', inner, found, mapping⟩ := tagged
      simp [setEntries, parentEntries, found, mapping, bind, Except.bind]
  | deeper found blocked ih =>
      simp [setEntries, parentEntries, found, ih, bind, Except.bind]

theorem setEntries_of_clear (value : Value) (clear : ¬ Blocked path entries) :
    ∃ after, setEntries value path entries = .ok after := by
  induction path generalizing entries with
  | nil => exact ⟨entries, rfl⟩
  | cons key rest ih =>
      cases rest with
      | nil => exact ⟨insert key value entries, rfl⟩
      | cons next rest =>
          rcases parentEntries_cases key entries with ⟨inner, parent⟩ | tagged
          · obtain ⟨after, put⟩ := ih (mt (blocked_cons_of_parentEntries parent).mpr clear)
            refine ⟨insert key (.mapping after) entries, ?_⟩
            simp [setEntries, parent, put, bind, Except.bind, pure, Except.pure]
          · exact absurd (.here tagged) clear

/-- A value blocks no path but those that go on from it. -/
theorem blocked_setEntries_iff {other : List String}
    (put : setEntries value path entries = .ok after) (apart : path <+: other → path = other) :
    Blocked other after ↔ Blocked other entries := by
  induction path generalizing entries after other with
  | nil =>
      cases put
      rfl
  | cons key rest ih =>
      cases other with
      | nil => exact iff_of_false nofun nofun
      | cons key' rest' =>
          by_cases same : key' = key
          · subst same
            cases rest with
            | nil =>
                have last : rest' = [] := by simpa using (apart (by simp)).symm
                subst last
                exact iff_of_false not_blocked_singleton not_blocked_singleton
            | cons next rest =>
                obtain ⟨inner, parent, put⟩ := bind_eq_ok.mp put
                obtain ⟨inner', below, done⟩ := bind_eq_ok.mp put
                cases done
                cases rest' with
                | nil => exact iff_of_false not_blocked_singleton not_blocked_singleton
                | cons next' rest' =>
                    have apart' : next :: rest <+: next' :: rest' →
                        next :: rest = next' :: rest' := by
                      intro goesOn
                      have same := apart ((List.prefix_cons_inj key').mpr goesOn)
                      exact (List.cons.inj same).2
                    rw [blocked_cons_of_mapping (find?_insert_self _ _ _),
                      blocked_cons_of_parentEntries parent]
                    exact ih below apart'
          · cases rest with
            | nil =>
                cases put
                exact blocked_congr (find?_insert_of_ne same)
            | cons next rest =>
                obtain ⟨inner, parent, put⟩ := bind_eq_ok.mp put
                obtain ⟨inner', below, done⟩ := bind_eq_ok.mp put
                cases done
                exact blocked_congr (find?_insert_of_ne same)

/-! ### Assignments -/

/-- Assignments none of whose paths goes on from another. -/
def Apart (work : List Assignment) : Prop :=
  ∀ first ∈ work, ∀ second ∈ work, first.1 <+: second.1 → first.1 = second.1

variable {config : ClusterConfig} {work : List Assignment} {assignment : Assignment}

theorem Apart.tail (apart : Apart (assignment :: work)) : Apart work :=
  fun first mem second mem' =>
    apart first (List.mem_cons_of_mem _ mem) second (List.mem_cons_of_mem _ mem')

/-- The first of some assignments blocks none of the others. -/
theorem Apart.blocked_iff (apart : Apart (assignment :: work)) {root : Entries}
    (put : setEntries assignment.2 assignment.1 root = .ok after) :
    ∀ later ∈ work, (Blocked later.1 after ↔ Blocked later.1 root) := by
  intro later mem
  exact blocked_setEntries_iff put
    (apart assignment List.mem_cons_self later (List.mem_cons_of_mem _ mem))

theorem assign_cons (put : setEntries assignment.2 assignment.1 config.root = .ok after) :
    config.assign (assignment :: work) = (⟨after⟩ : ClusterConfig).assign work := by
  simp [assign, set, put, bind, Except.bind, pure, Except.pure]

theorem assign_of_clear (apart : Apart work)
    (clear : ∀ assignment ∈ work, ¬ Blocked assignment.1 config.root) :
    ∃ done, config.assign work = .ok done := by
  induction work generalizing config with
  | nil => exact ⟨config, rfl⟩
  | cons assignment rest ih =>
      obtain ⟨clearHere, clearBehind⟩ := List.forall_mem_cons.mp clear
      obtain ⟨after, put⟩ := setEntries_of_clear assignment.2 clearHere
      rw [assign_cons put]
      refine ih apart.tail ?_
      intro later mem
      exact mt (apart.blocked_iff put later mem).mp (clearBehind later mem)

theorem assign_of_blocked (apart : Apart work) (mem : assignment ∈ work)
    (blocked : Blocked assignment.1 config.root) :
    config.assign work = .error .taggedParent := by
  induction work generalizing config with
  | nil => cases mem
  | cons first rest ih =>
      by_cases here : Blocked first.1 config.root
      · simp [assign, set, setEntries_of_blocked first.2 here, bind, Except.bind]
      · obtain ⟨after, put⟩ := setEntries_of_clear first.2 here
        rw [assign_cons put]
        rcases List.mem_cons.mp mem with rfl | behind
        · exact absurd blocked here
        · exact ih apart.tail behind ((apart.blocked_iff put assignment behind).mpr blocked)

/-! ### Filling in specs -/

variable {profile : Profile} {proxy : Option String} {spec : ClusterSpec} {template : ClusterConfig}

/-- A spec sets values at the root, and below its parents. -/
theorem path_of_assignment (mem : assignment ∈ assignments profile proxy spec) :
    (∃ key ∈ ["cluster_name", "min_workers", "max_workers", "initial_workers"],
      assignment.1 = [key]) ∨
    ∃ parent ∈ spec.parents, ∃ key, assignment.1 = [parent, key] := by
  simp only [assignments, List.mem_append, List.mem_cons, List.mem_map, List.not_mem_nil,
    Option.mem_toList, Option.map_eq_some_iff, or_false] at mem
  rcases mem with ((((mem | ⟨_, _, rfl⟩) | rfl) | ⟨_, _, rfl⟩) | ⟨_, head, rfl⟩) | ⟨_, worker, rfl⟩
  · rcases mem with rfl | rfl | rfl | rfl | rfl
    · exact .inl ⟨_, by simp, rfl⟩
    · exact .inl ⟨_, by simp, rfl⟩
    · exact .inl ⟨_, by simp, rfl⟩
    · exact .inl ⟨_, by simp, rfl⟩
    · exact .inr ⟨"provider", by simp [ClusterSpec.parents], _, rfl⟩
  · exact .inr ⟨"provider", by simp [ClusterSpec.parents], _, rfl⟩
  · exact .inr ⟨"auth", by simp [ClusterSpec.parents], _, rfl⟩
  · exact .inr ⟨"auth", by simp [ClusterSpec.parents], _, rfl⟩
  · exact .inr ⟨"head_node", by simp [ClusterSpec.parents, head], _, rfl⟩
  · exact .inr ⟨"worker_nodes", by simp [ClusterSpec.parents, worker], _, rfl⟩

/-- Below each of its parents a spec sets a value. -/
theorem assignment_of_parent (profile : Profile) (proxy : Option String) {parent : String}
    (mem : parent ∈ spec.parents) :
    ∃ assignment ∈ assignments profile proxy spec, ∃ key, assignment.1 = [parent, key] := by
  simp only [ClusterSpec.parents, List.mem_append, List.mem_cons, List.not_mem_nil, or_false,
    Option.mem_toList, Option.map_eq_some_iff] at mem
  rcases mem with ((rfl | rfl) | ⟨type, given, rfl⟩) | ⟨type, given, rfl⟩
  · exact ⟨(["provider", "type"], .string spec.provider.provider.name), by simp [assignments], _, rfl⟩
  · exact ⟨(["auth", "ssh_user"], .string sshUser), by simp [assignments], _, rfl⟩
  · exact ⟨(["head_node", profile.instanceTypeKey], .string type),
      by simp [assignments, given], _, rfl⟩
  · exact ⟨(["worker_nodes", profile.instanceTypeKey], .string type),
      by simp [assignments, given], _, rfl⟩

theorem parent_cases {parent : String} (mem : parent ∈ spec.parents) :
    parent ∈ ["provider", "auth", "head_node", "worker_nodes"] := by
  simp only [ClusterSpec.parents, List.mem_append, List.mem_cons, List.not_mem_nil, or_false,
    Option.mem_toList, Option.map_eq_some_iff] at mem
  rcases mem with ((rfl | rfl) | ⟨_, _, rfl⟩) | ⟨_, _, rfl⟩ <;> decide

/-- No parent is one of the keys at the root that are given a value. -/
theorem apart_assignments : Apart (assignments profile proxy spec) := by
  intro first mem second mem' goesOn
  rcases path_of_assignment mem with ⟨key, root, path⟩ | ⟨parent, _, key, path⟩ <;>
    rcases path_of_assignment mem' with ⟨key', _, path'⟩ | ⟨parent', isParent, key', path'⟩ <;>
    rw [path, path'] at goesOn ⊢
  · exact goesOn.eq_of_length rfl
  · have same : key = parent' := (List.cons_prefix_cons.mp goesOn).1
    have disjoint : ∀ key ∈ ["cluster_name", "min_workers", "max_workers", "initial_workers"],
        key ∉ ["provider", "auth", "head_node", "worker_nodes"] := by decide
    exact absurd (same ▸ parent_cases isParent) (disjoint key root)
  · exact absurd goesOn.length_le (by simp)
  · exact goesOn.eq_of_length rfl

theorem blocked_pair_iff : Blocked [key, next] entries ↔ TaggedAt key entries := by
  constructor
  · intro blocked
    cases blocked with
    | here tagged => exact tagged
    | deeper found blocked => exact absurd blocked not_blocked_singleton
  · intro tagged
    exact .here tagged

/-- What is asked of a template alone decides about all assignments of a spec. -/
theorem clear_of_untagged (untagged : ∀ parent ∈ spec.parents, ¬ TaggedAt parent entries) :
    ∀ assignment ∈ assignments profile proxy spec, ¬ Blocked assignment.1 entries := by
  intro assignment mem
  rcases path_of_assignment mem with ⟨key, _, path⟩ | ⟨parent, isParent, key, path⟩
  · rw [path]
    exact not_blocked_singleton
  · rw [path, blocked_pair_iff]
    exact untagged parent isParent

theorem build_of_untagged (supported : spec.provider.provider.profile = .ok profile)
    (untagged : ∀ parent ∈ spec.parents, ¬ TaggedAt parent template.root) :
    ∃ config, template.build proxy spec = .ok config := by
  obtain ⟨config, assigned⟩ : ∃ config,
      template.assign (assignments profile proxy spec) = .ok config :=
    assign_of_clear apart_assignments (clear_of_untagged untagged)
  refine ⟨config, ?_⟩
  simp [build, supported, Refusal.ofExcept, assigned, bind, Except.bind]

theorem build_of_tagged (supported : spec.provider.provider.profile = .ok profile)
    {parent : String} (isParent : parent ∈ spec.parents)
    (tagged : TaggedAt parent template.root) :
    template.build proxy spec = .error (.defect .taggedParent) := by
  obtain ⟨assignment, mem, key, path⟩ :=
    assignment_of_parent profile proxy isParent
  have blocked : Blocked assignment.1 template.root := path ▸ blocked_pair_iff.mpr tagged
  have failed := assign_of_blocked apart_assignments mem blocked
  simp [build, supported, Refusal.ofExcept, failed, bind, Except.bind]

/-- A value can be put at any path of a config, whatever is on the way, but for a mapping
behind a tag; and a config can be built on it as a template, but for such a mapping under
a key that the spec sets values below. -/
theorem set_and_build_unless_tagged (config : ClusterConfig) :
    (∀ path value,
      (Blocked path config.root → config.set path value = .error .taggedParent) ∧
      (¬ Blocked path config.root → ∃ after, config.set path value = .ok after)) ∧
    ∀ proxy spec profile, spec.provider.provider.profile = .ok profile →
      ((∃ parent ∈ spec.parents, TaggedAt parent config.root) →
        config.build proxy spec = .error (.defect .taggedParent)) ∧
      ((∀ parent ∈ spec.parents, ¬ TaggedAt parent config.root) →
        ∃ built, config.build proxy spec = .ok built) := by
  constructor
  · intro path value
    constructor
    · intro blocked
      simp [set, setEntries_of_blocked value blocked, bind, Except.bind]
    · intro clear
      obtain ⟨after, put⟩ := setEntries_of_clear value clear
      refine ⟨⟨after⟩, ?_⟩
      simp [set, put, bind, Except.bind, pure, Except.pure]
  · intro proxy spec profile supported
    constructor
    · rintro ⟨parent, isParent, tagged⟩
      exact build_of_tagged supported isParent tagged
    · intro untagged
      exact build_of_untagged supported untagged

/-- A text behind a tag is replaced, a mapping behind a tag is not. -/
theorem set_and_build_below_tags :
    let text : ClusterConfig := ⟨[(.string "auth", .tagged ⟨"custom"⟩ (.string "ubuntu"))]⟩
    let mapping : ClusterConfig := ⟨[(.string "auth", .tagged ⟨"custom"⟩ (.mapping []))]⟩
    let path := ["auth", "ssh_user"]
    let spec : ClusterSpec := { provider := { provider := .aws } }
    (∃ after, text.set path (.string "stratus") = .ok after) ∧
    (∃ config, text.build none spec = .ok config) ∧
    mapping.set path (.string "stratus") = .error .taggedParent ∧
    mapping.build none spec = .error (.defect .taggedParent) := by
  intro text mapping path spec
  have supported : spec.provider.provider.profile = .ok .aws := rfl
  have inTheWay : TaggedAt "auth" mapping.root := ⟨_, _, [], rfl, rfl⟩
  have untagged : ∀ parent ∈ spec.parents, ¬ TaggedAt parent text.root := by
    rintro parent mem ⟨tag, value, inner, found, entries⟩
    rcases List.mem_cons.mp mem with rfl | mem
    · cases found
    · cases List.mem_singleton.mp mem
      cases found
      cases entries
  have clear : ¬ Blocked path text.root := by
    rw [blocked_pair_iff]
    exact untagged "auth" (by decide)
  refine ⟨?_, ?_, ?_, ?_⟩
  · exact ((set_and_build_unless_tagged text).1 path _).2 clear
  · exact ((set_and_build_unless_tagged text).2 none spec _ supported).2 untagged
  · exact ((set_and_build_unless_tagged mapping).1 path _).1 (.here inTheWay)
  · exact ((set_and_build_unless_tagged mapping).2 none spec _ supported).1
      ⟨"auth", by decide, inTheWay⟩

/-- A template that can be read, and that nothing can be built on. -/
theorem no_build_on_tagged_text :
    let text := "auth: !custom\n  ssh_user: ubuntu\n"
    let spec : ClusterSpec := { provider := { provider := .aws } }
    ∃ template, ofYaml text = .ok template ∧
      template.set ["auth", "ssh_user"] (.string "stratus") = .error .taggedParent ∧
      template.build none spec = .error (.defect .taggedParent) := by
  intro text spec
  have readTagged : (ofYaml text).toOption.any (decide <| TaggedAt "auth" ·.root) = true := by
    decide +kernel
  cases read : ofYaml text with
  | error error =>
    rw [read] at readTagged
    cases readTagged
  | ok template =>
    rw [read] at readTagged
    have inTheWay : TaggedAt "auth" template.root := of_decide_eq_true readTagged
    refine ⟨template, rfl, ?_, ?_⟩
    · rw [set, setEntries_of_blocked _ (.here inTheWay)]
      rfl
    · have supported : spec.provider.provider.profile = .ok .aws := rfl
      exact build_of_tagged supported (by decide) inTheWay

end ClusterConfig

end CloudCluster
