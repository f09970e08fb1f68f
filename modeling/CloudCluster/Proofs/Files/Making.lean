import CloudCluster.Proofs.Files.Action
import CloudCluster.Proofs.Files.Alike

/-!
Directories that were made before.

Making a directory with those above it is done at once or after the parent
(`settles_of_run`), and leaves a tree in which the path can be followed (`opens_of_run`).
Only the stops of the path are made, and all of them are directories then. So it does not
matter which of them were made before: a tree with some of them becomes the same as one
without (`ensureDirectory_of_makes`).
-/

namespace CloudCluster.Files

namespace Tree

open Place

/-- A tree in which some directories were made already. -/
abbrev Ahead (mode : Nat) (tree other : Tree) : Prop :=
  tree.Makes mode (fun _ => True) other

variable {tree later other : Tree} {path parent : Path} {place goal : Place} {name : String}
  {names : List String} {mode : Nat} {stop : Place → Prop}

/-- A directory that was made can be followed to. -/
theorem opens_of_makeDirectory (made : tree.makeDirectory path mode = .ok later) :
    ∃ place, later.Opens path place := by
  have added := (makes_makeDirectory made).toAdds
  obtain ⟨_, place, located, missing, rfl⟩ := insert_of_makeDirectory made
  obtain ⟨names, count, split, locates⟩ := locateNew_pieces path
  have went := mapError_eq_ok.mp ((locates tree).symm.trans located)
  have below : place ≠ [] := by
    rintro rfl
    cases missing
  have found := find?_insert_self tree below (.directory mode)
  refine ⟨place, ?_, mode, found⟩
  rw [split]
  exact goAll_append_slashes count (added.toExtends.goAll went) found

/-- Directories of the one tree are nothing or directories in the other. -/
def Passes (tree other : Tree) : Prop :=
  ∀ place mode, tree.find? place = some (.directory mode) →
    other.find? place = none ∨ ∃ mode', other.find? place = some (.directory mode')

/-- Where one tree can be gone through, the other can as far as it goes. -/
theorem Passes.goAll (passes : tree.Passes other) (went : tree.goAll place names = .ok goal) :
    other.goAll place names = .ok goal ∨ other.goAll place names = .error .notFound := by
  induction names generalizing place with
  | nil => exact .inl went
  | cons name rest ih =>
      obtain ⟨next, first, behind⟩ := bind_eq_ok.mp went
      obtain ⟨mode, found⟩ := directory_of_go first
      rcases passes place mode found with missing | ⟨mode', found'⟩
      · right
        simp [Tree.goAll, go, missing, bind, Except.bind]
      · have first' : other.go place name = .ok next := by
          simpa [go, found, found'] using first
        rw [Tree.goAll, first']
        exact ih behind

end Tree

/-! ### One after the other -/

namespace Action

open CloudCluster.Files.Tree Place

variable {tree later between : Tree} {path parent : Path} {place : Place} {mode fuel : Nat}
  {fault : Fault}

/-- The directory can be made at once, or it is there. -/
def Settles (mode : Nat) (path : Path) (tree later : Tree) : Prop :=
  tree.makeDirectory path mode = .ok later ∨ tree.isDirectory path = true ∧ later = tree

/-- How a directory can have been made: at once, or after its parent. -/
theorem settles_of_run (nonempty : path ≠ "")
    (ran : (makeDirectories mode (fuel + 1) path).run tree = (.ok (), later)) :
    Settles mode path tree later ∨
      ∃ parent between fault, path.parent? = some parent ∧
        tree.makeDirectory path mode = .error fault ∧ fault.isNotFound = true ∧
        (makeDirectories mode fuel parent).run tree = (.ok (), between) ∧
        Settles mode path between later := by
  rw [run_makeDirectories_succ mode fuel nonempty] at ran
  cases made : tree.makeDirectory path mode with
  | ok after =>
      rw [made] at ran
      cases ran
      exact .inl (.inl made)
  | error fault =>
      simp only [made] at ran
      split at ran
      · next notFound =>
        split at ran
        · cases ran
        · next parent above =>
          split at ran
          · cases ran
          · next between ranAbove =>
            refine .inr ⟨parent, between, fault, above, rfl, notFound, ranAbove, ?_⟩
            split at ran
            · next made' =>
              cases ran
              exact .inl made'
            · split at ran
              · next directory =>
                cases ran
                exact .inr ⟨directory, rfl⟩
              · cases ran
      · split at ran
        · next directory =>
          cases ran
          exact .inl (.inr ⟨directory, rfl⟩)
        · cases ran

/-- A directory that can be made at once, or is there, is not refused. -/
theorem run_of_settles (nonempty : path ≠ "") (settles : Settles mode path tree later) :
    (makeDirectories mode (fuel + 1) path).run tree = (.ok (), later) := by
  rw [run_makeDirectories_succ mode fuel nonempty]
  rcases settles with made | ⟨directory, rfl⟩
  · rw [made]
  · simp [makeDirectory_of_isDirectory directory, Fault.isNotFound, directory]

theorem run_of_parent (nonempty : path ≠ "") (above : path.parent? = some parent)
    (refused : tree.makeDirectory path mode = .error fault) (notFound : fault.isNotFound = true)
    (ranAbove : (makeDirectories mode fuel parent).run tree = (.ok (), between))
    (settles : Settles mode path between later) :
    (makeDirectories mode (fuel + 1) path).run tree = (.ok (), later) := by
  rw [run_makeDirectories_succ mode fuel nonempty, refused]
  simp only [notFound, if_true, above, ranAbove]
  rcases settles with made | ⟨directory, rfl⟩
  · rw [made]
  · simp [makeDirectory_of_isDirectory directory, directory]

theorem opens_of_settles (settles : Settles mode path tree later) :
    ∃ place, later.Opens path place := by
  rcases settles with made | ⟨directory, rfl⟩
  · exact opens_of_makeDirectory made
  · exact (isDirectory_iff.mp directory).2

/-- What has succeeded has left a directory that the path can be followed to. -/
theorem opens_of_run (nonempty : path ≠ "")
    (ran : (makeDirectories mode fuel path).run tree = (.ok (), later)) :
    ∃ place, later.Opens path place := by
  cases fuel with
  | zero => cases ran
  | succ fuel =>
      rcases settles_of_run nonempty ran with settles | ⟨_, _, _, _, _, _, _, settles⟩
      · exact opens_of_settles settles
      · exact opens_of_settles settles

/-! ### Some were made before -/

section Ahead

variable {other otherLater : Tree}

/-- What can be made or is there can be made or is there in a tree that is ahead. -/
theorem settles_of_ahead (ahead : tree.Ahead mode other) (settles : Settles mode path tree later) :
    ∃ otherLater, Settles mode path other otherLater := by
  rcases settles with made | ⟨directory, _⟩
  · obtain ⟨⟨_, taken⟩, place, located, missing, _⟩ := insert_of_makeDirectory made
    obtain ⟨names, count, split, locates⟩ := locateNew_pieces path
    have went := mapError_eq_ok.mp ((locates tree).symm.trans located)
    have went' : other.goAll (other.start path) names = .ok place := by
      rw [ahead.start_eq path]
      exact ahead.toAdds.toExtends.goAll went
    rcases ahead.kept_or_made place with kept | ⟨_, _, found⟩
    · have located' : other.locateNew path path.pieces = .ok place := by
        rw [locates other, went']
        rfl
      exact ⟨_, .inl (makeDirectory_of_missing taken located' (kept.trans missing))⟩
    · have leads := goAll_append_slashes count went' found
      rw [← split] at leads
      exact ⟨other, .inr ⟨isDirectory_iff.mpr ⟨⟨_, taken⟩, place, leads, mode, found⟩, rfl⟩⟩
  · obtain ⟨taken, place, opens⟩ := isDirectory_iff.mp directory
    have opens' := opens.of_extends ahead.toAdds.toExtends
    exact ⟨other, .inr ⟨isDirectory_iff.mpr ⟨taken, place, opens'⟩, rfl⟩⟩

theorem steps_of_settles (settles : Settles mode path tree later) :
    ∃ names, steps path = .ok names := by
  rcases settles with made | ⟨directory, _⟩
  · exact (insert_of_makeDirectory made).1
  · exact (isDirectory_iff.mp directory).1

/-- Where nothing is in the way, only what is missing or there keeps a directory from
being made. -/
theorem settles_of_refused (settles : Settles mode path tree later) (passes : later.Passes other)
    (start : other.start path = later.start path)
    (refused : other.makeDirectory path mode = .error fault)
    (there : fault.isNotFound = false) : Settles mode path other other := by
  obtain ⟨_, taken⟩ := steps_of_settles settles
  obtain ⟨goal, opens⟩ := opens_of_settles settles
  obtain ⟨names, count, split, locates⟩ := locateNew_pieces path
  rcases passes.goAll (opens.located split) with went | missing
  · rw [← start] at went
    obtain ⟨mode', found⟩ := opens.directory
    rcases passes goal mode' found with missing | ⟨mode'', found'⟩
    · have located : other.locateNew path path.pieces = .ok goal := by
        rw [locates other, went]
        rfl
      rw [makeDirectory_of_missing taken located missing] at refused
      cases refused
    · have leads := goAll_append_slashes count went found'
      rw [← split] at leads
      exact .inr ⟨isDirectory_iff.mpr ⟨⟨_, taken⟩, goal, leads, mode'', found'⟩, rfl⟩
  · have located : other.locateNew path path.pieces = .error (.system .notFound) := by
      rw [locates other, start, missing]
      rfl
    cases steps_eq_ok taken
    simp only [makeDirectory, taken, located, bind, Except.bind] at refused
    cases refused
    cases there

/-- A tree that is ahead stays so, or is caught up with. -/
theorem ahead_of_runs {fuel' : Nat} (ahead : tree.Ahead mode other)
    (ran : (makeDirectories mode fuel path).run tree = (.ok (), later))
    (ran' : (makeDirectories mode fuel' path).run other = (.ok (), otherLater)) :
    later.Ahead mode otherLater := by
  by_cases empty : path = ""
  · subst empty
    have same := run_makeDirectories_empty mode fuel tree
    have same' := run_makeDirectories_empty mode fuel' other
    rw [ran] at same
    rw [ran'] at same'
    cases same
    cases same'
    exact ahead
  · have makes := makes_makeDirectories mode fuel path tree
    have makes' := makes_makeDirectories mode fuel' path other
    rw [ran] at makes
    rw [ran'] at makes'
    obtain ⟨goal, opens⟩ := opens_of_run empty ran'
    have whole := ahead.trans (makes'.mono fun _ _ => trivial)
    refine ⟨whole.workingDirectory.trans makes.workingDirectory.symm, ?_⟩
    intro place
    rcases makes.kept_or_made place with kept | ⟨missing, stops, made⟩
    · dsimp only at kept
      rw [kept]
      exact whole.kept_or_made place
    · left
      rcases whole.kept_or_made place with kept' | ⟨_, _, made'⟩
      · have start : otherLater.start path = tree.start path := whole.start_eq path
        obtain ⟨mode', found⟩ := opens.directory_of_stop (start ▸ stops)
        rw [kept', missing] at found
        cases found
      · exact made'.trans made.symm

/-- What can be made in a tree can be made in one that is ahead. -/
theorem run_of_ahead (ahead : tree.Ahead mode other)
    (ran : (makeDirectories mode fuel path).run tree = (.ok (), later)) :
    ∃ otherLater, (makeDirectories mode fuel path).run other = (.ok (), otherLater) := by
  induction fuel generalizing path tree other later with
  | zero => cases ran
  | succ fuel ih =>
      by_cases empty : path = ""
      · subst empty
        exact ⟨other, rfl⟩
      · rcases settles_of_run empty ran with
          settles | ⟨parent, between, fault, above, _, _, ranAbove, settles⟩
        · obtain ⟨otherLater, settles'⟩ := settles_of_ahead ahead settles
          exact ⟨otherLater, run_of_settles empty settles'⟩
        · cases made : other.makeDirectory path mode with
          | ok otherLater => exact ⟨otherLater, run_of_settles empty (.inl made)⟩
          | error fault' =>
              cases notFound : fault'.isNotFound with
              | true =>
                  obtain ⟨otherBetween, ranAbove'⟩ := ih ahead ranAbove
                  have aheadBetween := ahead_of_runs ahead ranAbove ranAbove'
                  obtain ⟨otherLater, settles'⟩ := settles_of_ahead aheadBetween settles
                  exact ⟨otherLater, run_of_parent empty above made notFound ranAbove' settles'⟩
              | false =>
                  have makes := makes_makeDirectories mode (fuel + 1) path tree
                  rw [ran] at makes
                  have passes : later.Passes other := by
                    intro place mode' found
                    rcases ahead.kept_or_made place with kept | ⟨_, _, found'⟩
                    · rcases makes.kept_or_made place with same | ⟨missing, _, _⟩
                      · exact .inr ⟨mode', kept.trans (same.symm.trans found)⟩
                      · exact .inl (kept.trans missing)
                    · exact .inr ⟨mode, found'⟩
                  have start : other.start path = later.start path :=
                    (ahead.start_eq path).trans (makes.start_eq path).symm
                  have settles' := settles_of_refused settles passes start made notFound
                  exact ⟨other, run_of_settles empty settles'⟩

/-- Where stops of a path were made before, the tree that is left is the same. -/
theorem ensureDirectory_of_makes (nonempty : path ≠ "")
    (makes : tree.Makes mode (Stop (tree.start path) path) other)
    (ran : (ensureDirectory path mode).run tree = (.ok (), later)) :
    ∃ otherLater, (ensureDirectory path mode).run other = (.ok (), otherLater) ∧
      later.Alike otherLater := by
  have ahead : tree.Ahead mode other := makes.mono fun _ _ => trivial
  obtain ⟨otherLater, ran'⟩ := run_of_ahead ahead ran
  have aheadLater := ahead_of_runs ahead ran ran'
  have makesLater := makes_makeDirectories mode (path.utf8ByteSize + 1) path other
  rw [ran', makes.start_eq path] at makesLater
  have whole := makes.trans makesLater
  obtain ⟨goal, opens⟩ := opens_of_run nonempty ran
  refine ⟨otherLater, ran', aheadLater.workingDirectory, funext fun place => ?_⟩
  rcases aheadLater.kept_or_made place with kept | ⟨missing, _, made⟩
  · exact kept
  · exfalso
    have added := adds_ensureDirectory path mode tree
    rw [ran] at added
    rcases whole.kept_or_made place with kept | ⟨_, stops, _⟩
    · have found := added.kept place _ (kept.symm.trans made)
      rw [missing] at found
      cases found
    · have start : later.start path = tree.start path := by
        rw [Tree.start, Tree.start, added.workingDirectory]
      obtain ⟨mode', found⟩ := opens.directory_of_stop (start ▸ stops)
      rw [missing] at found
      cases found

end Ahead

end Action

end CloudCluster.Files
