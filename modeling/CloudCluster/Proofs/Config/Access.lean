import CloudCluster.Proofs.Config.Parents

/-!
What is read after a value was put.

`get?` goes down into the mapping that `set` has gone on in, or has made
(`get?_of_parentEntries`). So a value is read where it was put (`get?_setEntries_self`), and
nothing changes for a path that diverges from it (`get?_setEntries_of_divergent`). Paths of
which one goes on from the other are not compared: what is on the way to a value is
replaced, and what was below it is gone. A value that was put before at the same path leaves
no trace (`setEntries_overwrite`).
-/

namespace CloudCluster

open Yaml

/-- Neither path goes on from the other. -/
def Divergent (path other : List String) : Prop :=
  ¬ path <+: other ∧ ¬ other <+: path

instance (path other : List String) : Decidable (Divergent path other) :=
  inferInstanceAs (Decidable (_ ∧ _))

namespace Divergent

variable {path other : List String} {key : String}

theorem symm (divergent : Divergent path other) : Divergent other path :=
  ⟨divergent.2, divergent.1⟩

theorem ne_nil (divergent : Divergent path other) : path ≠ [] ∧ other ≠ [] := by
  constructor
  · rintro rfl
    exact divergent.1 List.nil_prefix
  · rintro rfl
    exact divergent.2 List.nil_prefix

/-- Paths that begin with one key diverge behind it. -/
theorem tail (divergent : Divergent (key :: path) (key :: other)) : Divergent path other :=
  ⟨mt (List.prefix_cons_inj key).mpr divergent.1, mt (List.prefix_cons_inj key).mpr divergent.2⟩

end Divergent

namespace ClusterConfig

variable {entries after inner : Entries} {key next : String} {path other rest : List String}
  {value : Value} {config done : ClusterConfig} {work : List Assignment}

/-! ### Going down -/

theorem get?_cons_cons (key next : String) (rest : List String) (entries : Entries) :
    (⟨entries⟩ : ClusterConfig).get? (key :: next :: rest) =
      ((find? key entries).bind entries?).bind fun inner =>
        (⟨inner⟩ : ClusterConfig).get? (next :: rest) := by
  simp [get?, descend, Option.bind_assoc, bind]

/-- Only what is under its first key matters to a path. -/
theorem get?_congr (same : find? key after = find? key entries) :
    (⟨after⟩ : ClusterConfig).get? (key :: rest) =
      (⟨entries⟩ : ClusterConfig).get? (key :: rest) := by
  simp only [get?, same]

/-- `set` goes on in the mapping that is read under a key, or in an empty one. -/
theorem entries_of_parentEntries (parent : parentEntries key entries = .ok inner) :
    ((find? key entries).bind entries?).getD [] = inner := by
  unfold parentEntries at parent
  split at parent
  · next found =>
    cases parent
    rw [found]
    rfl
  · next tag value found =>
    split at parent
    · cases parent
    · next noMapping =>
      cases parent
      rw [found, Option.bind_some, show entries? (.tagged tag value) = _ from noMapping]
      rfl
  · next notMapping notTagged =>
    cases parent
    cases found : find? key entries with
    | none => rfl
    | some value =>
        cases value with
        | mapping inner => exact absurd found (notMapping inner)
        | tagged tag value => exact absurd found (notTagged tag value)
        | _ => rfl

/-- Where `set` goes on, it is read on from there. -/
theorem get?_of_parentEntries (parent : parentEntries key entries = .ok inner) :
    (⟨entries⟩ : ClusterConfig).get? (key :: next :: rest) =
      (⟨inner⟩ : ClusterConfig).get? (next :: rest) := by
  rw [get?_cons_cons, ← entries_of_parentEntries parent]
  cases (find? key entries).bind entries? with
  | none => rfl
  | some inner => rfl

theorem parentEntries_insert_mapping (key : String) (inner entries : Entries) :
    parentEntries key (insert key (.mapping inner) entries) = .ok inner := by
  rw [parentEntries, find?_insert_self]

/-- A mapping that was put under a key is read on from. -/
theorem get?_insert_mapping (key next : String) (rest : List String) (inner entries : Entries) :
    (⟨insert key (.mapping inner) entries⟩ : ClusterConfig).get? (key :: next :: rest) =
      (⟨inner⟩ : ClusterConfig).get? (next :: rest) :=
  get?_of_parentEntries (parentEntries_insert_mapping key inner entries)

/-! ### Putting a value -/

theorem set_eq_ok_iff : config.set path value = .ok done ↔
    setEntries value path config.root = .ok done.root := by
  constructor
  · intro placed
    obtain ⟨after, put, same⟩ := bind_eq_ok.mp placed
    cases same
    exact put
  · intro put
    exact bind_eq_ok.mpr ⟨_, put, rfl⟩

theorem setEntries_cons_cons_eq_ok
    (put : setEntries value (key :: next :: rest) entries = .ok after) :
    ∃ inner inner', parentEntries key entries = .ok inner ∧
      setEntries value (next :: rest) inner = .ok inner' ∧
      after = insert key (.mapping inner') entries := by
  obtain ⟨inner, parent, onward⟩ := bind_eq_ok.mp put
  obtain ⟨inner', below, done⟩ := bind_eq_ok.mp onward
  cases done
  exact ⟨inner, inner', parent, below, rfl⟩

/-- Nothing is put but under the first key of the path. -/
theorem find?_setEntries_of_ne {key' : String}
    (put : setEntries value (key :: rest) entries = .ok after) (different : key' ≠ key) :
    find? key' after = find? key' entries := by
  cases rest with
  | nil =>
      cases put
      exact find?_insert_of_ne different
  | cons next rest =>
      obtain ⟨_, _, _, _, rfl⟩ := setEntries_cons_cons_eq_ok put
      exact find?_insert_of_ne different

theorem get?_setEntries_self (notNil : path ≠ [])
    (put : setEntries value path entries = .ok after) :
    (⟨after⟩ : ClusterConfig).get? path = some value := by
  induction path generalizing entries after with
  | nil => exact absurd rfl notNil
  | cons key rest ih =>
      cases rest with
      | nil =>
          cases put
          simp [get?, find?_insert_self, descend]
      | cons next rest =>
          obtain ⟨inner, inner', _, below, rfl⟩ := setEntries_cons_cons_eq_ok put
          rw [get?_insert_mapping]
          exact ih (List.cons_ne_nil _ _) below

theorem get?_setEntries_of_divergent (put : setEntries value path entries = .ok after)
    (divergent : Divergent path other) :
    (⟨after⟩ : ClusterConfig).get? other = (⟨entries⟩ : ClusterConfig).get? other := by
  induction path generalizing entries after other with
  | nil => exact absurd rfl divergent.ne_nil.1
  | cons key rest ih =>
      obtain ⟨key', rest', rfl⟩ := List.exists_cons_of_ne_nil divergent.ne_nil.2
      by_cases same : key' = key
      · subst same
        -- Both go on, as neither path ends at the key that they share.
        obtain ⟨next, rest, rfl⟩ := List.exists_cons_of_ne_nil divergent.tail.ne_nil.1
        obtain ⟨next', rest', rfl⟩ := List.exists_cons_of_ne_nil divergent.tail.ne_nil.2
        obtain ⟨inner, inner', parent, below, rfl⟩ := setEntries_cons_cons_eq_ok put
        rw [get?_insert_mapping, get?_of_parentEntries parent]
        exact ih below divergent.tail
      · exact get?_congr (find?_setEntries_of_ne put same)

theorem insert_insert (key : String) (value other : Value) (entries : Entries) :
    insert key other (insert key value entries) = insert key other entries := by
  induction entries with
  | nil => simp [insert, isKey]
  | cons entry rest ih =>
      obtain ⟨k, v⟩ := entry
      rw [insert, insert]
      cases same : isKey key k with
      | true => simp [insert, same]
      | false => simp [insert, same, ih]

/-- Of two values that are put at one path only the second counts. -/
theorem setEntries_overwrite (put : setEntries value path entries = .ok after)
    (other : Value) : setEntries other path after = setEntries other path entries := by
  induction path generalizing entries after with
  | nil =>
      cases put
      rfl
  | cons key rest ih =>
      cases rest with
      | nil =>
          cases put
          exact congrArg Except.ok (insert_insert key value other entries)
      | cons next rest =>
          obtain ⟨inner, inner', parent, below, rfl⟩ := setEntries_cons_cons_eq_ok put
          simp only [setEntries, parent, parentEntries_insert_mapping, ih below, insert_insert,
            bind, Except.bind]

/-- A value that was put is there: putting it once more changes nothing. -/
theorem setEntries_again (put : setEntries value path entries = .ok after) :
    setEntries value path after = .ok after :=
  (setEntries_overwrite put value).trans put

/-! ### Assignments -/

theorem assign_cons_eq_ok {assignment : Assignment}
    (assigned : config.assign (assignment :: work) = .ok done) :
    ∃ after, setEntries assignment.2 assignment.1 config.root = .ok after ∧
      (⟨after⟩ : ClusterConfig).assign work = .ok done := by
  obtain ⟨next, placed, others⟩ := bind_eq_ok.mp assigned
  exact ⟨next.root, set_eq_ok_iff.mp placed, others⟩

/-- Assignments leave a path alone that diverges from all of theirs. -/
theorem get?_assign_of_divergent (assigned : config.assign work = .ok done)
    (divergent : ∀ assignment ∈ work, Divergent assignment.1 path) :
    done.get? path = config.get? path := by
  induction work generalizing config with
  | nil =>
      cases assigned
      rfl
  | cons assignment rest ih =>
      obtain ⟨after, put, others⟩ := assign_cons_eq_ok assigned
      obtain ⟨here, behind⟩ := List.forall_mem_cons.mp divergent
      rw [ih others behind]
      exact get?_setEntries_of_divergent put here

/-- What is assigned is read, if the paths diverge from each other. -/
theorem get?_assign_of_mem (assigned : config.assign work = .ok done)
    (divergent : work.Pairwise fun first second => Divergent first.1 second.1)
    (notNil : path ≠ []) (mem : (path, value) ∈ work) : done.get? path = some value := by
  induction work generalizing config with
  | nil => cases mem
  | cons assignment rest ih =>
      obtain ⟨after, put, others⟩ := assign_cons_eq_ok assigned
      obtain ⟨here, behind⟩ := List.pairwise_cons.mp divergent
      rcases List.mem_cons.mp mem with rfl | later
      · rw [get?_assign_of_divergent others fun later mem => (here later mem).symm]
        exact get?_setEntries_self notNil put
      · exact ih others behind later

end ClusterConfig

end CloudCluster
