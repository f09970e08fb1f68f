import CloudCluster.Proofs.Config.Access
import CloudCluster.Settings.Variable

/-!
Fields laid over others, path by path.

A path is `Clear` in a layer if there are only tables on the way, with each key once, and
no table at its end. For such a path, laying the layer over another one means that its value
counts if it has one, and else the other's (`valueAt?_overlay`); what else the two layers
have does not matter.
-/

namespace CloudCluster.Settings

open Toml

/-- The value that a path leads to, from table to table. -/
def valueAt? : Fields → List String → Option Value
  | _, [] => none
  | fields, [key] => fields.lookup key
  | fields, key :: next :: rest =>
    ((fields.lookup key).bind fields?).bind fun inner => valueAt? inner (next :: rest)

/-- The text that a value is. -/
def text? : Value → Option String
  | .string text => some text
  | _ => none

/-- Fields can be laid over others along a path, whose value is no table. -/
def Clear : List String → Fields → Prop
  | [], _ => True
  | [key], fields =>
    (fields.map Prod.fst).Nodup ∧ ∀ inner, fields.lookup key ≠ some (.table inner)
  | key :: next :: rest, fields =>
    (fields.map Prod.fst).Nodup ∧ ∀ value, fields.lookup key = some value →
      ∃ inner, value = .table inner ∧ Clear (next :: rest) inner

variable {lower upper inner fields : Fields} {key other : String} {path : List String}
  {value : Value}

/-! ### One level -/

theorem lookup_put_self (key : String) (value : Value) (fields : Fields) :
    (put key value fields).lookup key = some value := by
  induction fields with
  | nil => simp [put]
  | cons field rest ih =>
      obtain ⟨k, v⟩ := field
      rw [put]
      by_cases same : k = key
      · simp [same]
      · have different : (key == k) = false := by simpa using Ne.symm same
        simp [same, List.lookup_cons, different, ih]

theorem lookup_put_of_ne (different : other ≠ key) :
    (put key value fields).lookup other = fields.lookup other := by
  have apart : (other == key) = false := by simpa using different
  induction fields with
  | nil => simp [put, List.lookup_cons, apart]
  | cons field rest ih =>
      obtain ⟨k, v⟩ := field
      rw [put]
      by_cases same : k = key
      · simp [same, List.lookup_cons, apart]
      · simp [same, List.lookup_cons, ih]

theorem mem_keys_put (mem : other ∈ (put key value fields).map Prod.fst) :
    other = key ∨ other ∈ fields.map Prod.fst := by
  induction fields with
  | nil => exact .inl (by simpa [put] using mem)
  | cons field rest ih =>
      obtain ⟨k, v⟩ := field
      rw [put] at mem
      split at mem
      · simp only [List.map_cons, List.mem_cons] at mem ⊢
        exact mem.imp_right .inr
      · simp only [List.map_cons, List.mem_cons] at mem ⊢
        rcases mem with rfl | mem
        · exact .inr (.inl rfl)
        · exact (ih mem).imp_right .inr

theorem nodup_put (once : (fields.map Prod.fst).Nodup) :
    ((put key value fields).map Prod.fst).Nodup := by
  induction fields with
  | nil => simp [put]
  | cons field rest ih =>
      obtain ⟨k, v⟩ := field
      rw [List.map_cons, List.nodup_cons] at once
      rw [put]
      split
      · next same =>
        rw [List.map_cons, List.nodup_cons]
        exact same ▸ once
      · next different =>
        rw [List.map_cons, List.nodup_cons]
        refine ⟨fun mem => ?_, ih once.2⟩
        rcases mem_keys_put mem with same | mem
        · exact different same
        · exact once.1 mem

theorem nodup_overlay (once : (lower.map Prod.fst).Nodup) :
    ((overlay lower upper).map Prod.fst).Nodup := by
  induction upper generalizing lower with
  | nil => simpa [overlay] using once
  | cons field rest ih =>
      obtain ⟨k, v⟩ := field
      rw [overlay]
      exact ih (nodup_put once)

/-- What is under a key after the upper fields, which have each key once, are laid over the
lower. -/
theorem lookup_overlay (once : (upper.map Prod.fst).Nodup) : (overlay lower upper).lookup key =
    match upper.lookup key with
    | none => lower.lookup key
    | some value => some (overlayValue (lower.lookup key) value) := by
  induction upper generalizing lower with
  | nil => simp [overlay]
  | cons field rest ih =>
      obtain ⟨k, v⟩ := field
      rw [List.map_cons, List.nodup_cons] at once
      rw [overlay, ih once.2]
      by_cases same : key = k
      · subst same
        have behind : rest.lookup key = none := by
          rw [List.lookup_eq_none_iff]
          intro field mem
          have different : key ≠ field.1 := fun same =>
            once.1 (List.mem_map.mpr ⟨field, mem, same.symm⟩)
          simpa using different
        simp [behind, lookup_put_self]
      · have different : (key == k) = false := by simpa using same
        simp only [List.lookup_cons, different, lookup_put_of_ne same]

/-- A value under a key after the upper fields are laid over the lower is one of the lower
that the upper leave alone, or one of the upper, laid over what was below it. -/
theorem lookup_overlay_eq_some (once : (upper.map Prod.fst).Nodup)
    (found : (overlay lower upper).lookup key = some value) :
    lower.lookup key = some value ∨
      ∃ laid, upper.lookup key = some laid ∧ overlayValue (lower.lookup key) laid = value := by
  rw [lookup_overlay once] at found
  cases above : upper.lookup key with
  | none =>
      rw [above] at found
      exact .inl found
  | some laid =>
      rw [above] at found
      exact .inr ⟨laid, rfl, Option.some.inj found⟩

/-! ### Along a path -/

theorem valueAt?_nil (path : List String) : valueAt? [] path = none := by
  rcases path with _ | ⟨key, _ | ⟨next, rest⟩⟩ <;> rfl

theorem clear_nil (path : List String) : Clear path [] := by
  rcases path with _ | ⟨key, _ | ⟨next, rest⟩⟩ <;> simp [Clear]

/-- Along a path that is clear in the upper fields, they win if they have a value. -/
theorem valueAt?_overlay (clear : Clear path upper) :
    valueAt? (overlay lower upper) path = (valueAt? upper path).or (valueAt? lower path) := by
  induction path generalizing lower upper with
  | nil => rfl
  | cons key rest ih =>
      cases rest with
      | nil =>
          obtain ⟨once, noTable⟩ := clear
          rw [valueAt?, valueAt?, valueAt?, lookup_overlay once]
          cases found : upper.lookup key with
          | none => rfl
          | some value =>
              cases value with
              | table inner => exact absurd found (noTable inner)
              | _ => rfl
      | cons next rest =>
          obtain ⟨once, tables⟩ := clear
          rw [valueAt?, valueAt?, valueAt?, lookup_overlay once]
          cases found : upper.lookup key with
          | none => rfl
          | some value =>
              obtain ⟨inner, rfl, clear⟩ := tables value found
              simp only [overlayValue, Option.bind_some, fields?, ih clear]
              cases (lower.lookup key).bind fields? with
              | none => simp [valueAt?_nil]
              | some inner' => rfl

theorem clear_overlay (clearLower : Clear path lower) (clearUpper : Clear path upper) :
    Clear path (overlay lower upper) := by
  induction path generalizing lower upper with
  | nil => trivial
  | cons key rest ih =>
      cases rest with
      | nil =>
          obtain ⟨onceLower, noTable⟩ := clearLower
          obtain ⟨once, noTableUpper⟩ := clearUpper
          refine ⟨nodup_overlay onceLower, fun inner found => ?_⟩
          rcases lookup_overlay_eq_some once found with below | ⟨laid, above, same⟩
          · exact noTable inner below
          · cases laid with
            | table inner => exact noTableUpper inner above
            | _ => cases same
      | cons next rest =>
          obtain ⟨onceLower, tables⟩ := clearLower
          obtain ⟨once, tablesUpper⟩ := clearUpper
          refine ⟨nodup_overlay onceLower, fun value found => ?_⟩
          rcases lookup_overlay_eq_some once found with below | ⟨laid, above, rfl⟩
          · exact tables value below
          · obtain ⟨inner, rfl, clear⟩ := tablesUpper laid above
            refine ⟨_, rfl, ih ?_ clear⟩
            cases below : lower.lookup key with
            | none => exact clear_nil _
            | some value =>
                obtain ⟨inner', rfl, clear'⟩ := tables value below
                exact clear'

end CloudCluster.Settings
