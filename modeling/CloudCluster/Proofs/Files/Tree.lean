import CloudCluster.Files.Tree
import CloudCluster.Proofs.Except
import CloudCluster.Proofs.Files.Path

/-!
Growing trees.

A tree `Extends` another if all its directories are still directories and all
its files are still files, with any contents. What a path leads to stays where
it is then (`Extends.goAll`).
-/

namespace CloudCluster.Files

namespace Tree

variable {tree later : Tree} {place : Place} {entry : Entry}

/-! ### Insertion -/

theorem lookup_insertEntry (place other : Place) (entry : Entry) (entries : List (Place × Entry)) :
    (insertEntry place entry entries).lookup other =
      if other = place then some entry else entries.lookup other := by
  induction entries with
  | nil =>
      by_cases same : other = place
      · simp [insertEntry, same]
      · simp [insertEntry, List.lookup_cons, same, beq_false_of_ne same]
  | cons head rest ih =>
      obtain ⟨p, e⟩ := head
      simp only [insertEntry]
      by_cases here : p = place
      · subst here
        by_cases same : other = p
        · simp [same]
        · simp [same, List.lookup_cons, beq_false_of_ne same]
      · rw [if_neg here, List.lookup_cons, List.lookup_cons, ih]
        by_cases same : other = p
        · have apart : other ≠ place := fun eq => here (same.symm.trans eq)
          simp [same, here]
        · simp [beq_false_of_ne same]

theorem find?_insert_self (tree : Tree) (below : place ≠ []) (entry : Entry) :
    (tree.insert place entry).find? place = some entry := by
  have nonempty : place.isEmpty = false := by simpa using below
  simp [find?, insert, nonempty, lookup_insertEntry]

theorem find?_insert_of_ne (tree : Tree) {other : Place} (apart : other ≠ place) (entry : Entry) :
    (tree.insert place entry).find? other = tree.find? other := by
  simp [find?, insert, lookup_insertEntry, apart]

/-! ### Growing trees -/

/-- Every directory of the one tree is a directory of the other, and every file a
file, with any contents. -/
structure Extends (tree later : Tree) : Prop where
  workingDirectory : later.workingDirectory = tree.workingDirectory
  directory : ∀ place mode, tree.find? place = some (.directory mode) →
    later.find? place = some (.directory mode)
  file : ∀ place bytes mode, tree.find? place = some (.file bytes mode) →
    ∃ bytes', later.find? place = some (.file bytes' mode)

namespace Extends

theorem refl (tree : Tree) : tree.Extends tree :=
  ⟨rfl, fun _ _ found => found, fun _ bytes _ found => ⟨bytes, found⟩⟩

theorem trans {last : Tree} (first : tree.Extends later) (second : later.Extends last) :
    tree.Extends last where
  workingDirectory := second.workingDirectory.trans first.workingDirectory
  directory place mode found := second.directory place mode (first.directory place mode found)
  file place bytes mode found := by
    obtain ⟨bytes', found'⟩ := first.file place bytes mode found
    exact second.file place bytes' mode found'

/-- A file that is put where there is nothing, or in place of a file of its mode. -/
theorem insert_file {bytes : ByteArray} {mode : Nat}
    (replaced : ∀ entry, tree.find? place = some entry → ∃ before, entry = .file before mode) :
    tree.Extends (tree.insert place (.file bytes mode)) where
  workingDirectory := rfl
  directory other mode' found := by
    by_cases here : other = place
    · subst here
      obtain ⟨before, eq⟩ := replaced _ found
      cases eq
    · rw [find?_insert_of_ne tree here, found]
  file other before mode' found := by
    by_cases here : other = place
    · subst here
      have below : other ≠ [] := fun root => by
        subst root
        cases found
      obtain ⟨_, eq⟩ := replaced _ found
      cases eq
      exact ⟨bytes, find?_insert_self tree below _⟩
    · exact ⟨before, by rw [find?_insert_of_ne tree here, found]⟩

end Extends

/-! ### Following paths -/

theorem goAll_append (tree : Tree) (place : Place) (names more : List String) :
    tree.goAll place (names ++ more) = tree.goAll place names >>= (tree.goAll · more) := by
  induction names generalizing place with
  | nil => rfl
  | cons name rest ih =>
      simp only [List.cons_append, goAll]
      cases tree.go place name with
      | error e => rfl
      | ok next => exact ih next

theorem goAll_concat (tree : Tree) (place : Place) (names : List String) (name : String) :
    tree.goAll place (names ++ [name]) = tree.goAll place names >>= (tree.go · name) := by
  rw [goAll_append]
  congr 1
  funext next
  simp only [goAll]
  cases tree.go next name <;> rfl

theorem go_empty_of_directory {mode : Nat} (found : tree.find? place = some (.directory mode)) :
    tree.go place "" = .ok place := by
  simp [go, found]

/-- An empty name stays in place, and every step from what is no directory fails
alike. -/
theorem go_empty_bind (tree : Tree) (place : Place) (name : String) :
    tree.go place "" >>= (tree.go · name) = tree.go place name := by
  cases found : tree.find? place with
  | none => simp [go, found, bind, Except.bind]
  | some entry =>
      cases entry with
      | file bytes mode => simp [go, found, bind, Except.bind]
      | directory mode => rw [go_empty_of_directory found]; rfl

theorem directory_of_go {next : Place} {name : String} (went : tree.go place name = .ok next) :
    ∃ mode, tree.find? place = some (.directory mode) := by
  cases found : tree.find? place with
  | none => simp [go, found] at went
  | some entry =>
      cases entry with
      | file bytes mode => simp [go, found] at went
      | directory mode => exact ⟨mode, rfl⟩

theorem Extends.go (grown : tree.Extends later) {next : Place} {name : String}
    (went : tree.go place name = .ok next) : later.go place name = .ok next := by
  obtain ⟨mode, found⟩ := directory_of_go went
  simpa [Tree.go, found, grown.directory _ _ found] using went

/-- A way that can be gone can still be gone in a tree that has grown. -/
theorem Extends.goAll (grown : tree.Extends later) {goal : Place} {names : List String}
    (went : tree.goAll place names = .ok goal) : later.goAll place names = .ok goal := by
  induction names generalizing place with
  | nil => exact went
  | cons name rest ih =>
      obtain ⟨next, step, onward⟩ := bind_eq_ok.mp went
      exact bind_eq_ok.mpr ⟨next, grown.go step, ih onward⟩

end Tree

end CloudCluster.Files
