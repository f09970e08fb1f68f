import CloudCluster.Proofs.Settings.Layer

/-!
What variables set.

A variable alone makes a layer with one value, under the path that its name leads to
(`single`), and the layers of several are laid over one another in ascending order of name.
So the last of those that set something at a path counts (`last?`), and this is all there is
to the path in the layer of all of them, if each of them `Fits` it (`valueAt?_layer`).
-/

namespace CloudCluster.Settings.Variable

open Toml

/-- The layer of one variable. -/
def single (binding : String × String) : Fields :=
  match path? binding.1 with
  | some target => nest (value binding.2) target
  | none => []

/-- The value that a variable sets at a path. -/
def set? (path : List String) (binding : String × String) : Option Value :=
  valueAt? (single binding) path

/-- The value that variables set at a path: that of the last one to set any, in ascending
order of name. -/
def last? (bindings : List (String × String)) (path : List String) : Option Value :=
  (bindings.mergeSort fun a b => a.1 ≤ b.1).reverse.findSome? (set? path)

/-- How a variable may stand to the path of a text: it can set a text there, or a table with
a text or nothing at the last key; else its name has to lead elsewhere. -/
inductive Fits (path : List String) (binding : String × String) : Prop
  | text (target : path? binding.1 = some path) (text : (text? (value binding.2)).isSome)
  | table {front : List String} {key : String} {fields : Fields}
      (target : path? binding.1 = some front) (last : path = front ++ [key])
      (table : value binding.2 = .table fields)
      (text : ∀ set ∈ fields.lookup key, (text? set).isSome)
  | apart (elsewhere : ∀ target ∈ path? binding.1, Divergent target path)

variable {bindings others : List (String × String)} {binding : String × String}
  {path target : List String} {under fields : Fields} {set : Value}

/-! ### The text of a variable -/

theorem nodup_readFields {fuel : Nat} {before after : Fields} {s rest : List Char}
    (read : readFields fuel before s = some (after, rest))
    (once : (before.map Prod.fst).Nodup) : (after.map Prod.fst).Nodup := by
  induction fuel generalizing before s with
  | zero =>
      rw [readFields.eq_def] at read
      split at read
      · cases read
        exact once
      · cases read
      · next impossible _ => cases impossible
  | succ fuel ih =>
      by_cases closed : ∃ more, s = '\x7d' :: more
      · obtain ⟨more, rfl⟩ := closed
        rw [readFields] at read
        cases read
        exact once
      · rw [readFields.eq_3 _ _ _ fun more same => closed ⟨more, same⟩] at read
        obtain ⟨⟨key, more⟩, -, read⟩ := Option.bind_eq_some_iff.mp read
        dsimp only at read
        split at read
        · obtain ⟨⟨value, more⟩, -, read⟩ := Option.bind_eq_some_iff.mp read
          dsimp only at read
          split at read
          · exact ih read (nodup_put once)
          · cases read
            exact nodup_put once
          · cases read
        · cases read

/-- What holds no others is no table. -/
theorem readSimple_ne_table {s rest : List Char} {value : Value}
    (read : readSimple s = some (value, rest)) (fields : Fields) : value ≠ .table fields := by
  unfold readSimple at read
  split at read
  · cases read
    exact Value.noConfusion
  split at read
  · cases read
    exact Value.noConfusion
  split at read
  · obtain ⟨_, -, same⟩ := Option.map_eq_some_iff.mp read
    cases same
    exact Value.noConfusion
  · cases read
    exact Value.noConfusion
  · cases read
  · cases read
    unfold valueOfWord
    split
    · exact Value.noConfusion
    · split <;> exact Value.noConfusion

/-- A table that a variable sets has each key once, as of two fields with one key the latter
counts. -/
theorem nodup_of_value {text : String} (set : value text = .table fields) :
    (fields.map Prod.fst).Nodup := by
  unfold value at set
  split at set
  · next read =>
    subst set
    rw [readValue.eq_2] at read
    split at read
    · obtain ⟨_, -, read⟩ := Option.bind_eq_some_iff.mp read
      cases read
    · obtain ⟨⟨inner, more⟩, inside, read⟩ := Option.bind_eq_some_iff.mp read
      have same : inner = fields := by
        have same := (Prod.mk.inj (Option.some.inj read)).1
        injection same
      exact nodup_readFields (same ▸ inside) (by simp)
    · obtain ⟨⟨simple, more⟩, inside, read⟩ := Option.bind_eq_some_iff.mp read
      have same : simple = .table fields := (Prod.mk.inj (Option.some.inj read)).1
      exact absurd same (readSimple_ne_table inside fields)
  · cases set

/-! ### One variable -/

/-- A value that is set elsewhere does not meet a path. -/
theorem nest_of_divergent (divergent : Divergent target path) (set : Value) :
    Clear path (nest set target) ∧ valueAt? (nest set target) path = none := by
  induction target generalizing path with
  | nil => exact absurd rfl divergent.ne_nil.1
  | cons key rest ih =>
      obtain ⟨key', rest', rfl⟩ := List.exists_cons_of_ne_nil divergent.ne_nil.2
      by_cases same : key' = key
      · subst same
        -- Behind their common key both go on.
        have goesOn := divergent.tail.ne_nil
        obtain ⟨next, more, rfl⟩ := List.exists_cons_of_ne_nil goesOn.1
        obtain ⟨next', more', rfl⟩ := List.exists_cons_of_ne_nil goesOn.2
        obtain ⟨clear, nothing⟩ := ih divergent.tail
        exact ⟨by simpa [nest, Clear] using clear, by simpa [nest, valueAt?, fields?] using nothing⟩
      · have apart : (key' == key) = false := by simpa using same
        cases rest <;> cases rest' <;> simp [nest, Clear, valueAt?, List.lookup_cons, apart]

theorem clear_nest (noTable : ∀ inner, set ≠ .table inner) (path : List String) :
    Clear path (nest set path) := by
  induction path with
  | nil => trivial
  | cons key rest ih =>
      cases rest with
      | nil => simpa [nest, Clear] using noTable
      | cons next rest => simpa [nest, Clear] using ih

theorem valueAt?_nest (set : Value) (notNil : path ≠ []) :
    valueAt? (nest set path) path = some set := by
  induction path with
  | nil => exact absurd rfl notNil
  | cons key rest ih =>
      cases rest with
      | nil => simp [nest, valueAt?]
      | cons next rest => simpa [nest, valueAt?, fields?] using ih (List.cons_ne_nil _ _)

/-- A table that is set just above the end of a path. -/
theorem nest_table {front : List String} (notNil : front ≠ []) (key : String) (fields : Fields) :
    (Clear [key] fields → Clear (front ++ [key]) (nest (.table fields) front)) ∧
      valueAt? (nest (.table fields) front) (front ++ [key]) = fields.lookup key := by
  induction front with
  | nil => exact absurd rfl notNil
  | cons first rest ih =>
      cases rest with
      | nil => simp [nest, Clear, valueAt?, fields?]
      | cons next rest => simpa [nest, Clear, valueAt?, fields?] using ih (List.cons_ne_nil _ _)

theorem cutDots_ne_nil (s : List Char) : cutDots s ≠ [] := by
  cases s with
  | nil => exact List.cons_ne_nil _ _
  | cons c rest =>
      rw [cutDots]
      split
      · exact List.cons_ne_nil _ _
      · split <;> exact List.cons_ne_nil _ _

theorem path?_ne_nil {name : String} (found : path? name = some path) : path ≠ [] := by
  rw [path?] at found
  split at found
  · dsimp only at found
    split at found
    · cases found
    · cases found
      simpa using cutDots_ne_nil _
  · cases found

/-- A variable whose name leads to a path sets its text there. -/
theorem set?_of_target (target : path? binding.1 = some path) :
    set? path binding = some (value binding.2) := by
  rw [set?, single, target, valueAt?_nest _ (path?_ne_nil target)]

/-- A variable whose name leads elsewhere does not meet a path. -/
theorem single_of_divergent (elsewhere : ∀ target ∈ path? binding.1, Divergent target path) :
    Clear path (single binding) ∧ set? path binding = none := by
  rw [set?, single]
  split
  · next target found => exact nest_of_divergent (elsewhere target found) _
  · exact ⟨clear_nil path, valueAt?_nil path⟩

namespace Fits

/-- The layer of a variable that fits a path can be laid over others along it. -/
theorem clear (fits : Fits path binding) : Clear path (single binding) := by
  cases fits with
  | text target text =>
      rw [single, target]
      refine clear_nest (fun inner same => ?_) path
      rw [same] at text
      cases text
  | table target last table text =>
      subst last
      rw [single, target, table]
      refine (nest_table (path?_ne_nil target) _ _).1 ⟨nodup_of_value table, fun inner found => ?_⟩
      cases text _ found
  | apart elsewhere => exact (single_of_divergent elsewhere).1

/-- A variable that fits a path sets nothing there but a text. -/
theorem isText (fits : Fits path binding) (sets : set? path binding = some set) :
    (text? set).isSome := by
  cases fits with
  | text target text =>
      rw [set?_of_target target] at sets
      cases sets
      exact text
  | table target last table text =>
      subst last
      rw [set?, single, target, table, (nest_table (path?_ne_nil target) _ _).2] at sets
      exact text _ sets
  | apart elsewhere =>
      rw [(single_of_divergent elsewhere).2] at sets
      cases sets

end Fits

/-! ### Several variables -/

theorem layer_eq (bindings : List (String × String)) : layer bindings =
    (bindings.mergeSort fun a b => a.1 ≤ b.1).foldl
      (fun under binding => overlay under (single binding)) [] := by
  unfold layer
  congr 1
  funext under ⟨name, text⟩
  dsimp only [single]
  cases path? name <;> simp [overlay]

/-- Layers of variables that fit a path, laid over a layer one after the other. -/
theorem valueAt?_foldl (fit : ∀ binding ∈ bindings, Fits path binding) (clear : Clear path under) :
    let merged := bindings.foldl (fun under binding => overlay under (single binding)) under
    Clear path merged ∧
      valueAt? merged path = (bindings.reverse.findSome? (set? path)).or (valueAt? under path) := by
  induction bindings generalizing under with
  | nil => exact ⟨clear, rfl⟩
  | cons binding rest ih =>
      have first := (fit binding List.mem_cons_self).clear
      obtain ⟨merged, value⟩ :=
        ih (fun binding mem => fit binding (List.mem_cons_of_mem _ mem)) (clear_overlay clear first)
      refine ⟨merged, ?_⟩
      rw [List.foldl_cons, value, valueAt?_overlay first, List.reverse_cons,
        List.findSome?_append, Option.or_assoc]
      congr 1
      simp [set?]

/-- Along a path that all variables fit, their layer can be laid over others and has the
value of the last one to set any. -/
theorem valueAt?_layer (fit : ∀ binding ∈ bindings, Fits path binding) :
    Clear path (layer bindings) ∧ valueAt? (layer bindings) path = last? bindings path := by
  have sorted : ∀ binding ∈ bindings.mergeSort fun a b => a.1 ≤ b.1, Fits path binding :=
    fun binding mem => fit binding (List.mem_mergeSort.mp mem)
  obtain ⟨clear, value⟩ := valueAt?_foldl sorted (clear_nil path)
  rw [layer_eq]
  exact ⟨clear, by rw [value, valueAt?_nil, Option.or_none, last?]⟩

/-- In ascending order of different names, what the last variable to set anything sets is what
one of them sets, if none with a later name sets anything. -/
theorem findSome?_reverse_eq_some_iff (sorted : bindings.Pairwise fun a b => a.1 ≤ b.1)
    (distinct : (bindings.map Prod.fst).Nodup) :
    bindings.reverse.findSome? (set? path) = some set ↔
      ∃ binding ∈ bindings, set? path binding = some set ∧
        ∀ other ∈ bindings, (set? path other).isSome → other.1 ≤ binding.1 := by
  induction bindings with
  | nil => simp
  | cons first rest ih =>
      -- The first has the least name, so it counts only if no other sets anything.
      rw [List.pairwise_cons] at sorted
      rw [List.map_cons, List.nodup_cons] at distinct
      have ih := ih sorted.2 distinct.2
      rw [List.reverse_cons, List.findSome?_append, Option.or_eq_some_iff, ih]
      constructor
      · rintro (⟨binding, mem, sets, latest⟩ | ⟨nothing, sets⟩)
        · refine ⟨binding, List.mem_cons_of_mem _ mem, sets, fun other memOther setsOther => ?_⟩
          rcases List.mem_cons.mp memOther with rfl | memOther
          · exact sorted.1 binding mem
          · exact latest other memOther setsOther
        · have sets : set? path first = some set := by simpa using sets
          refine ⟨first, List.mem_cons_self, sets, fun other memOther setsOther => ?_⟩
          rcases List.mem_cons.mp memOther with rfl | memOther
          · exact String.le_refl _
          · have none := List.findSome?_eq_none_iff.mp nothing other (List.mem_reverse.mpr memOther)
            rw [none] at setsOther
            cases setsOther
      · rintro ⟨binding, mem, sets, latest⟩
        rcases List.mem_cons.mp mem with rfl | mem
        · refine .inr ⟨List.findSome?_eq_none_iff.mpr fun other memOther => ?_, by simpa using sets⟩
          have memOther := List.mem_reverse.mp memOther
          by_contra setsOther
          have behind := latest other (List.mem_cons_of_mem _ memOther)
            (Option.isSome_iff_ne_none.mpr setsOther)
          have same := String.le_antisymm (sorted.1 other memOther) behind
          exact distinct.1 (same ▸ List.mem_map_of_mem memOther)
        · exact .inl ⟨binding, mem, sets, fun other memOther =>
            latest other (List.mem_cons_of_mem _ memOther)⟩

/-- What variables with different names set at a path is what one of them sets there, if none
with a later name sets anything there. -/
theorem last?_eq_some_iff (distinct : (bindings.map Prod.fst).Nodup) :
    last? bindings path = some set ↔ ∃ binding ∈ bindings, set? path binding = some set ∧
      ∀ other ∈ bindings, (set? path other).isSome → other.1 ≤ binding.1 := by
  have perm := List.mergeSort_perm bindings fun a b => a.1 ≤ b.1
  have sorted : (bindings.mergeSort fun a b => a.1 ≤ b.1).Pairwise fun a b =>
      decide (a.1 ≤ b.1) := by
    refine List.pairwise_mergeSort (fun a b c first second => ?_) (fun a b => ?_) bindings
    · exact decide_eq_true (String.le_trans (of_decide_eq_true first) (of_decide_eq_true second))
    · simpa using String.le_total a.1 b.1
  have sorted := sorted.imp of_decide_eq_true
  have distinct := (perm.map Prod.fst).nodup_iff.mpr distinct
  simp only [last?, findSome?_reverse_eq_some_iff sorted distinct, perm.mem_iff]

/-- Only the variables that set something at a path matter to it, in whatever order they are
given. -/
theorem last?_congr (distinct : (bindings.map Prod.fst).Nodup)
    (distinctOthers : (others.map Prod.fst).Nodup)
    (same : ∀ binding, (set? path binding).isSome → (binding ∈ others ↔ binding ∈ bindings)) :
    last? others path = last? bindings path := by
  ext set
  rw [last?_eq_some_iff distinct, last?_eq_some_iff distinctOthers]
  constructor
  · rintro ⟨binding, mem, sets, latest⟩
    exact ⟨binding, (same binding (by simp [sets])).mp mem, sets, fun other memOther setsOther =>
      latest other ((same other setsOther).mpr memOther) setsOther⟩
  · rintro ⟨binding, mem, sets, latest⟩
    exact ⟨binding, (same binding (by simp [sets])).mpr mem, sets, fun other memOther setsOther =>
      latest other ((same other setsOther).mp memOther) setsOther⟩

/-- What variables set at a path that they fit is a text. -/
theorem isText_last? (fit : ∀ binding ∈ bindings, Fits path binding)
    (sets : last? bindings path = some set) : (text? set).isSome := by
  obtain ⟨binding, mem, sets⟩ := List.exists_of_findSome?_eq_some sets
  exact (fit binding (List.mem_mergeSort.mp (List.mem_reverse.mp mem))).isText sets

end CloudCluster.Settings.Variable
