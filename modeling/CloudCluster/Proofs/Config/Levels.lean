import CloudCluster.Proofs.Config.Access

/-!
What putting a value does to the mappings on the way.

A value that is put at a path goes through a mapping at each of its levels. Each of them
gets one new value: in the place of the first entry with that key, or behind all entries if
there is none (`Entered`). All other entries, with those whose keys are no strings, stay
what and where they are. `set_laws` has this beside the laws of reading what was put.
-/

namespace CloudCluster.ClusterConfig

open Yaml

/-- The entries of the mapping at a path, which are those of the root at the empty one;
there are none where no mapping is. -/
def level (config : ClusterConfig) : List String → Entries
  | [] => config.root
  | key :: rest => ((config.get? (key :: rest)).bind entries?).getD []

/-- Entries before and after one of them gets a new value or is added. -/
inductive Entered (key : String) (value : Value) : Entries → Entries → Prop where
  | replaced (front : Entries) {back old} (first : ∀ entry ∈ front, entry.1 ≠ .string key) :
      Entered key value (front ++ (.string key, old) :: back)
        (front ++ (.string key, value) :: back)
  | appended {entries} (fresh : ∀ entry ∈ entries, entry.1 ≠ .string key) :
      Entered key value entries (entries ++ [(.string key, value)])

variable {config done : ClusterConfig} {entries after inner : Entries} {key : String}
  {path above below : List String} {value : Value}

theorem isKey_iff {other : Value} : isKey key other = true ↔ other = .string key := by
  cases other <;> simp [isKey]

theorem Entered.behind {entry : Value × Value} (entered : Entered key value entries after)
    (other : entry.1 ≠ .string key) : Entered key value (entry :: entries) (entry :: after) := by
  cases entered with
  | replaced front first =>
      exact .replaced (entry :: front) (List.forall_mem_cons.mpr ⟨other, first⟩)
  | appended fresh => exact .appended (List.forall_mem_cons.mpr ⟨other, fresh⟩)

theorem entered_insert (key : String) (value : Value) (entries : Entries) :
    Entered key value entries (insert key value entries) := by
  induction entries with
  | nil => exact .appended (List.forall_mem_nil _)
  | cons entry rest ih =>
      obtain ⟨k, v⟩ := entry
      rw [insert]
      split
      · next same =>
        rw [isKey_iff.mp same]
        exact .replaced [] (List.forall_mem_nil _)
      · next other => exact ih.behind (mt isKey_iff.mpr other)

/-! ### Levels -/

/-- The level below a key is the one that `set` goes on in. -/
theorem level_of_parentEntries (parent : parentEntries key entries = .ok inner)
    (above : List String) :
    (⟨entries⟩ : ClusterConfig).level (key :: above) = (⟨inner⟩ : ClusterConfig).level above := by
  cases above with
  | nil =>
      have read : (⟨entries⟩ : ClusterConfig).get? [key] = find? key entries := by
        simp [get?, descend, bind]
      rw [level, level, read, entries_of_parentEntries parent]
  | cons next rest => rw [level, level, get?_of_parentEntries parent]

/-- On each level above a value that is put, the key of its path gets a new value. -/
theorem entered_level (put : setEntries value (above ++ key :: below) entries = .ok after) :
    ∃ placed, Entered key placed ((⟨entries⟩ : ClusterConfig).level above)
      ((⟨after⟩ : ClusterConfig).level above) := by
  induction above generalizing entries after with
  | nil =>
      cases below with
      | nil =>
          cases put
          exact ⟨value, entered_insert key value entries⟩
      | cons next below =>
          obtain ⟨_, inner', _, _, rfl⟩ := setEntries_cons_cons_eq_ok put
          exact ⟨.mapping inner', entered_insert key (.mapping inner') entries⟩
  | cons first above ih =>
      obtain ⟨next, rest, onward⟩ : ∃ next rest, above ++ key :: below = next :: rest :=
        List.exists_cons_of_ne_nil (by simp)
      rw [List.cons_append, onward] at put
      obtain ⟨inner, inner', parent, inside, rfl⟩ := setEntries_cons_cons_eq_ok put
      rw [← onward] at inside
      rw [level_of_parentEntries parent,
        level_of_parentEntries (parentEntries_insert_mapping first inner' entries)]
      exact ih inside

/-! ### All laws -/

/-- Whatever a config and a value are, if the value can be put at a path then it is read
there; what is read at a path that diverges from it is as before; another value that is put
there gives the config that it would have given alone; and on each level above it one entry
is new or has a new value, and all others are as and where they were. -/
theorem set_laws (notNil : path ≠ []) (put : config.set path value = .ok done) :
    done.get? path = some value ∧
    (∀ other, Divergent path other → done.get? other = config.get? other) ∧
    (∀ other, ∃ final, done.set path other = .ok final ∧ config.set path other = .ok final) ∧
    ∀ above key below, path = above ++ key :: below →
      ∃ placed, Entered key placed (config.level above) (done.level above) := by
  have entered : setEntries value path config.root = .ok done.root := set_eq_ok_iff.mp put
  refine ⟨get?_setEntries_self notNil entered, ?_, ?_, ?_⟩
  · intro other divergent
    exact get?_setEntries_of_divergent entered divergent
  · intro other
    have clear : ¬ Blocked path config.root := by
      intro blocked
      rw [setEntries_of_blocked value blocked] at entered
      cases entered
    obtain ⟨final, alone⟩ := setEntries_of_clear other clear
    have second := (setEntries_overwrite entered other).trans alone
    exact ⟨⟨final⟩, set_eq_ok_iff.mpr second, set_eq_ok_iff.mpr alone⟩
  · rintro above key below rfl
    exact entered_level entered

/-- A sequence is in the place of a parent and another parent is missing; a key that is no
string stands between the others. -/
theorem set_laws_through_sequence :
    let config : ClusterConfig := ⟨[
      (.string "auth", .sequence [.null]),
      (.integer 1, .string "one"),
      (.string "docker", .mapping [(.string "image", .string "ray")])]⟩
    let path := ["auth", "proxy", "port"]
    ∃ done, config.set path (.integer 1080) = .ok done ∧
      done.get? path = some (.integer 1080) ∧
      done.get? ["docker", "image"] = some (.string "ray") ∧
      (∃ final, done.set path .null = .ok final ∧ config.set path .null = .ok final) ∧
      (∃ placed, Entered "auth" placed config.root done.root) ∧
      ∃ placed, Entered "proxy" placed [] (done.level ["auth"]) := by
  intro config path
  obtain ⟨done, put⟩ : ∃ done, config.set path (.integer 1080) = .ok done := ⟨_, rfl⟩
  obtain ⟨here, beside, again, levels⟩ := set_laws (List.cons_ne_nil _ _) put
  exact ⟨done, put, here, beside _ (by decide), again _, levels [] "auth" ["proxy", "port"] rfl,
    levels ["auth"] "proxy" ["port"] rfl⟩

end CloudCluster.ClusterConfig
