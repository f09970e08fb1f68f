import CloudCluster.Proofs.Files.Tree

/-!
Trees that are alike.

Trees with the same entries cannot be told apart by following paths, looking or writing,
whatever the order in which their entries are listed.
-/

namespace CloudCluster.Files.Tree

/-- Trees with the same entries, listed in any order. -/
structure Alike (tree other : Tree) : Prop where
  workingDirectory : other.workingDirectory = tree.workingDirectory
  find? : other.find? = tree.find?

namespace Alike

variable {tree other later : Tree} {path : Path}

theorem go (alike : tree.Alike other) : other.go = tree.go := by
  funext place name
  simp only [Tree.go, alike.find?]

theorem goAll (alike : tree.Alike other) (place : Place) (names : List String) :
    other.goAll place names = tree.goAll place names := by
  induction names generalizing place with
  | nil => rfl
  | cons name rest ih =>
      simp only [Tree.goAll, alike.go]
      congr 1
      funext next
      exact ih next

theorem refl (tree : Tree) : tree.Alike tree :=
  ⟨rfl, rfl⟩

theorem start (alike : tree.Alike other) (path : Path) : other.start path = tree.start path := by
  rw [Tree.start, Tree.start, alike.workingDirectory]

theorem status (alike : tree.Alike other) (path : Path) : other.status path = tree.status path := by
  simp only [Tree.status, Tree.locate, alike.start, alike.goAll, alike.find?]

theorem insert (alike : tree.Alike other) (place : Place) (entry : Entry) :
    (tree.insert place entry).Alike (other.insert place entry) where
  workingDirectory := alike.workingDirectory
  find? := by
    funext place'
    have same := congrFun alike.find? place'
    unfold Tree.find? at same ⊢
    split
    · rfl
    · next below =>
      rw [if_neg below, if_neg below] at same
      simp only [Tree.insert, lookup_insertEntry, same]

theorem locateNew (alike : tree.Alike other) (path : Path) (names : List String) :
    other.locateNew path names = tree.locateNew path names := by
  simp only [Tree.locateNew, alike.start, alike.goAll, alike.go]

theorem writeText (alike : tree.Alike other) {text : String}
    (wrote : tree.writeText path text = .ok later) :
    ∃ otherLater, other.writeText path text = .ok otherLater ∧ later.Alike otherLater := by
  obtain ⟨names, taken, rest⟩ := bind_eq_ok.mp wrote
  obtain ⟨place, located, put⟩ := bind_eq_ok.mp rest
  have located' := (alike.locateNew path names).trans located
  cases ends : endsInName names with
  | false =>
      rw [ends] at put
      cases put
  | true =>
      rw [ends] at put
      simp only [Tree.writeText, Tree.writeBytes, taken, located', ends, bind, Except.bind,
        alike.find?]
      cases found : tree.find? place with
      | none =>
          rw [found] at put
          cases put
          exact ⟨_, rfl, alike.insert _ _⟩
      | some entry =>
          rw [found] at put
          cases entry with
          | directory mode => cases put
          | file before mode =>
              cases put
              exact ⟨_, rfl, alike.insert _ _⟩

end Alike

end CloudCluster.Files.Tree
