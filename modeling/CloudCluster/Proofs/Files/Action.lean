import CloudCluster.Files.Action
import CloudCluster.Proofs.Files.Stops

/-!
What computations on a tree do to it.

The `run_…` lemmas take a computation apart into its parts. Making a directory
with those above it makes directories at the stops of its path and leaves all that is
there as it is (`makes_makeDirectories`, `adds_ensureDirectory`), and leaves a tree that
has the directory as a whole (`ensureDirectory_of_opens`).
-/

namespace CloudCluster.Files

/-! ### Parts of computations -/

namespace Action

variable {ε ε' α β : Type}

@[simp]
theorem run_bind (first : Action ε α) (second : α → Action ε β) (tree : Tree) :
    (first >>= second).run tree = match first.run tree with
      | (.ok a, later) => (second a).run later
      | (.error e, later) => (.error e, later) := by
  simp only [ExceptT.run_bind]
  simp only [bind, StateT.bind]
  rcases first.run tree with ⟨_ | _, later⟩ <;> rfl

@[simp]
theorem run_pure (a : α) (tree : Tree) : (pure a : Action ε α).run tree = (.ok a, tree) := rfl

@[simp]
theorem run_throw (e : ε) (tree : Tree) :
    (throw e : Action ε α).run tree = (.error e, tree) := rfl

@[simp]
theorem run_get (tree : Tree) : (get : Action ε Tree).run tree = (.ok tree, tree) := rfl

@[simp]
theorem run_set (later tree : Tree) :
    (set later : Action ε PUnit).run tree = (.ok ⟨⟩, later) := rfl

@[simp]
theorem run_ask (question : Tree → Except ε α) (tree : Tree) :
    (ask question).run tree = (question tree, tree) := rfl

@[simp]
theorem run_change (edit : Tree → Except ε Tree) (tree : Tree) :
    (change edit).run tree = match edit tree with
      | .ok after => (.ok (), after)
      | .error e => (.error e, tree) := rfl

@[simp]
theorem run_adapt (f : ε → ε') (action : Action ε α) (tree : Tree) :
    (ExceptT.adapt f action : Action ε' α).run tree =
      ((action.run tree).1.mapError f, (action.run tree).2) := rfl

end Action

/-! ### Making directories -/

namespace Tree

open Place

/-- All that is in the one tree is in the other as it was. -/
structure Adds (tree later : Tree) : Prop where
  workingDirectory : later.workingDirectory = tree.workingDirectory
  kept : ∀ place entry, tree.find? place = some entry → later.find? place = some entry

/-- A tree that is like another but for directories that were made at stops. -/
structure Makes (mode : Nat) (stop : Place → Prop) (tree later : Tree) : Prop where
  workingDirectory : later.workingDirectory = tree.workingDirectory
  kept_or_made : ∀ place, later.find? place = tree.find? place ∨
    tree.find? place = none ∧ stop place ∧ later.find? place = some (.directory mode)

variable {tree later : Tree} {dir path : Path} {place : Place} {name : String}
  {names : List String} {mode : Nat} {stop : Place → Prop}

namespace Adds

theorem refl (tree : Tree) : tree.Adds tree := ⟨rfl, fun _ _ found => found⟩

theorem trans {last : Tree} (first : tree.Adds later) (second : later.Adds last) :
    tree.Adds last where
  workingDirectory := second.workingDirectory.trans first.workingDirectory
  kept place entry found := second.kept place entry (first.kept place entry found)

theorem toExtends (added : tree.Adds later) : tree.Extends later where
  workingDirectory := added.workingDirectory
  directory place _ found := added.kept place _ found
  file place bytes _ found := ⟨bytes, added.kept place _ found⟩

theorem status (added : tree.Adds later) (isName : IsName name) {entry : Entry}
    (found : tree.status (Path.join dir name) = .ok entry) :
    later.status (Path.join dir name) = .ok entry := by
  obtain ⟨place, opens, admitted, here⟩ := (status_join_iff isName).mp found
  exact (status_join_iff isName).mpr
    ⟨place, opens.of_extends added.toExtends, admitted, added.kept _ _ here⟩

end Adds

namespace Makes

theorem refl (tree : Tree) : tree.Makes mode stop tree :=
  ⟨rfl, fun _ => .inl rfl⟩

theorem trans {last : Tree} (first : tree.Makes mode stop later)
    (second : later.Makes mode stop last) : tree.Makes mode stop last where
  workingDirectory := second.workingDirectory.trans first.workingDirectory
  kept_or_made place := by
    rcases second.kept_or_made place with kept | ⟨missing, stops, made⟩
    · rw [kept]
      exact first.kept_or_made place
    · rcases first.kept_or_made place with kept | ⟨_, _, made'⟩
      · exact .inr ⟨kept ▸ missing, stops, made⟩
      · rw [missing] at made'
        cases made'

theorem mono {stop' : Place → Prop} (makes : tree.Makes mode stop later)
    (weaker : ∀ place, stop place → stop' place) : tree.Makes mode stop' later where
  workingDirectory := makes.workingDirectory
  kept_or_made place := by
    rcases makes.kept_or_made place with kept | ⟨missing, stops, made⟩
    · exact .inl kept
    · exact .inr ⟨missing, weaker place stops, made⟩

theorem start_eq (makes : tree.Makes mode stop later) (path : Path) :
    later.start path = tree.start path := by
  rw [start, start, makes.workingDirectory]

theorem toAdds (makes : tree.Makes mode stop later) : tree.Adds later where
  workingDirectory := makes.workingDirectory
  kept place entry found := by
    rcases makes.kept_or_made place with kept | ⟨missing, _, _⟩
    · exact kept.trans found
    · rw [missing] at found
      cases found

theorem insert (below : place ≠ []) (missing : tree.find? place = none) (stops : stop place) :
    tree.Makes mode stop (tree.insert place (.directory mode)) where
  workingDirectory := rfl
  kept_or_made other := by
    by_cases here : other = place
    · subst here
      exact .inr ⟨missing, stops, find?_insert_self tree below _⟩
    · exact .inl (find?_insert_of_ne tree here _)

end Makes

/-- What is made is a directory where there was nothing. -/
theorem insert_of_makeDirectory (made : tree.makeDirectory path mode = .ok later) :
    (∃ names, steps path = .ok names) ∧ ∃ place, tree.locateNew path path.pieces = .ok place ∧
      tree.find? place = none ∧ later = tree.insert place (.directory mode) := by
  obtain ⟨names, taken, rest⟩ := bind_eq_ok.mp made
  obtain ⟨place, located, put⟩ := bind_eq_ok.mp rest
  cases steps_eq_ok taken
  refine ⟨⟨_, taken⟩, place, located, ?_⟩
  cases found : tree.find? place with
  | some entry =>
      rw [found] at put
      cases put
  | none =>
      rw [found] at put
      cases put
      exact ⟨rfl, rfl⟩

theorem makes_makeDirectory (made : tree.makeDirectory path mode = .ok later) :
    tree.Makes mode (Stop (tree.start path) path) later := by
  obtain ⟨_, place, located, missing, rfl⟩ := insert_of_makeDirectory made
  obtain ⟨names, count, split, locates⟩ := locateNew_pieces path
  have went := mapError_eq_ok.mp ((locates tree).symm.trans located)
  have below : place ≠ [] := by
    rintro rfl
    cases missing
  refine .insert below missing ⟨names, ?_, walk_of_goAll went⟩
  rw [split]
  exact List.prefix_append _ _

theorem makeDirectory_of_missing (taken : steps path = .ok names)
    (located : tree.locateNew path path.pieces = .ok place) (missing : tree.find? place = none) :
    tree.makeDirectory path mode = .ok (tree.insert place (.directory mode)) := by
  cases steps_eq_ok taken
  simp [makeDirectory, taken, located, missing, bind, Except.bind, pure, Except.pure]

/-- The place for a new directory is the one that is there already. -/
theorem locateNew_of_opens (opens : tree.Opens path place) :
    tree.locateNew path path.pieces = .ok place := by
  obtain ⟨names, count, split, locates⟩ := locateNew_pieces path
  rw [locates tree, opens.located split]
  rfl

/-- A directory that is there is not made anew. -/
theorem makeDirectory_of_opens (taken : steps path = .ok names) (opens : tree.Opens path place) :
    tree.makeDirectory path mode = .error (.system .alreadyExists) := by
  obtain ⟨mode', found⟩ := opens.directory
  cases steps_eq_ok taken
  simp only [makeDirectory, taken, bind, Except.bind, locateNew_of_opens opens, found]
  rfl

theorem makeDirectory_of_isDirectory (directory : tree.isDirectory path = true) :
    tree.makeDirectory path mode = .error (.system .alreadyExists) := by
  obtain ⟨⟨names, taken⟩, place, opens⟩ := isDirectory_iff.mp directory
  exact makeDirectory_of_opens taken opens

/-- The path of a directory can be followed if that of a name in it can. -/
theorem steps_of_admits (slashless : '/' ∉ name.toList) (nonempty : dir ≠ "")
    (admitted : admits dir name = .ok ()) : steps dir = .ok dir.pieces := by
  have joined : dir.toList <+: (Path.join dir name).toList ∧
      dir.utf8ByteSize ≤ (Path.join dir name).utf8ByteSize := by
    rcases Path.toList_join dir slashless with ⟨empty, _⟩ | ⟨_, _, joined⟩ | ⟨_, joined⟩
    · exact absurd empty nonempty
    · have whole : Path.join dir name = dir ++ name :=
        String.toList_injective (by rw [joined, String.toList_append])
      rw [whole, String.utf8ByteSize_append]
      exact ⟨by simp [String.toList_append], Nat.le_add_right _ _⟩
    · have whole : Path.join dir name = dir ++ ("/" ++ name) :=
        String.toList_injective (by simp [joined, String.toList_append])
      rw [whole, String.utf8ByteSize_append]
      exact ⟨by simp [String.toList_append], Nat.le_add_right _ _⟩
  obtain ⟨begins, shorter⟩ := joined
  obtain ⟨names, taken, _⟩ := bind_eq_ok.mp admitted
  unfold steps at taken ⊢
  split at taken
  · cases taken
  · next clean =>
    have clean' : ¬ dir.toList.contains '\x00' = true := by
      simp only [List.contains_eq_mem, decide_eq_true_eq] at clean ⊢
      exact fun mem => clean (begins.subset mem)
    have nonempty' : dir.isEmpty = false := by simpa [String.isEmpty_iff] using nonempty
    split at taken
    · cases taken
    · split at taken
      · cases taken
      · next fits =>
        rw [if_neg clean', if_neg (by simp [nonempty']),
          if_neg (Nat.not_lt.mpr (Nat.le_trans shorter (Nat.not_lt.mp fits)))]

end Tree

namespace Action

open CloudCluster.Files.Tree Place

variable {tree : Tree} {dir path : Path} {place : Place} {name : String}

theorem run_makeDirectories_empty (mode fuel : Nat) (tree : Tree) :
    ((makeDirectories mode fuel "").run tree).2 = tree := by
  cases fuel <;> rfl

theorem run_makeDirectories_succ (mode fuel : Nat) (nonempty : path ≠ "") (tree : Tree) :
    (makeDirectories mode (fuel + 1) path).run tree =
      match tree.makeDirectory path mode with
      | .ok later => (.ok (), later)
      | .error fault =>
        if fault.isNotFound then
          match path.parent? with
          | none => (.error (.described "failed to create whole tree"), tree)
          | some parent =>
            match (makeDirectories mode fuel parent).run tree with
            | (.error fault, between) => (.error fault, between)
            | (.ok (), between) =>
              match between.makeDirectory path mode with
              | .ok later => (.ok (), later)
              | .error fault =>
                if between.isDirectory path then (.ok (), between) else (.error fault, between)
        else if tree.isDirectory path then (.ok (), tree) else (.error fault, tree) := by
  have nonempty : path.isEmpty = false := by simpa [String.isEmpty_iff] using nonempty
  rw [makeDirectories]
  simp only [nonempty, Bool.false_eq_true, if_false, run_bind, run_get]
  cases tree.makeDirectory path mode with
  | ok later => rfl
  | error fault =>
      dsimp only
      cases fault.isNotFound with
      | false =>
          simp only [Bool.false_eq_true, if_false, run_bind, run_get]
          cases tree.isDirectory path <;> rfl
      | true =>
          simp only [if_true]
          cases path.parent? with
          | none => rfl
          | some parent =>
              simp only [run_bind]
              rcases (makeDirectories mode fuel parent).run tree with ⟨_ | _, between⟩
              · rfl
              · simp only [run_get]
                cases between.makeDirectory path mode with
                | ok later => rfl
                | error fault => cases directory : between.isDirectory path <;> simp [directory]

/-- Directories are made at the stops of the path, and nothing else is changed. -/
theorem makes_makeDirectories (mode fuel : Nat) (path : Path) (tree : Tree) :
    tree.Makes mode (Stop (tree.start path) path) ((makeDirectories mode fuel path).run tree).2 := by
  induction fuel generalizing path tree with
  | zero => exact .refl tree
  | succ fuel ih =>
      by_cases empty : path = ""
      · subst empty
        rw [run_makeDirectories_empty]
        exact .refl tree
      · rw [run_makeDirectories_succ mode fuel empty]
        cases made : tree.makeDirectory path mode with
        | ok later => exact makes_makeDirectory made
        | error fault =>
            dsimp only
            split
            · split
              · exact .refl tree
              · next parent above =>
                have makesAbove : tree.Makes mode (Stop (tree.start path) path)
                    ((makeDirectories mode fuel parent).run tree).2 := by
                  by_cases emptyAbove : parent = ""
                  · rw [emptyAbove, run_makeDirectories_empty]
                    exact .refl tree
                  · exact (ih parent tree).mono fun _ => stop_of_parent emptyAbove above
                split
                · next ranAbove => exact ranAbove ▸ makesAbove
                · next between ranAbove =>
                  rw [ranAbove] at makesAbove
                  have same : between.start path = tree.start path := makesAbove.start_eq path
                  cases made' : between.makeDirectory path mode with
                  | ok later => exact makesAbove.trans (same ▸ makes_makeDirectory made')
                  | error fault =>
                      dsimp only
                      split <;> exact makesAbove
            · split <;> exact .refl tree

/-- Making a directory with those above it leaves all that is there. -/
theorem adds_ensureDirectory (dir : Path) (mode : Nat) (tree : Tree) :
    tree.Adds ((ensureDirectory dir mode).run tree).2 :=
  (makes_makeDirectories mode _ dir tree).toAdds

/-- A directory that is there is not made again. -/
theorem ensureDirectory_of_opens (opens : tree.Opens dir place) (slashless : '/' ∉ name.toList)
    (admitted : admits dir name = .ok ()) (mode : Nat) :
    (ensureDirectory dir mode).run tree = (.ok (), tree) := by
  by_cases empty : dir = ""
  · rw [empty]
    rfl
  · have taken := steps_of_admits slashless empty admitted
    have directory : tree.isDirectory dir = true := isDirectory_iff.mpr ⟨⟨_, taken⟩, place, opens⟩
    rw [ensureDirectory, run_makeDirectories_succ mode _ empty]
    simp [makeDirectory_of_isDirectory directory, Fault.isNotFound, directory]

end Action

end CloudCluster.Files
