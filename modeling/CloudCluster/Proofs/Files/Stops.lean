import CloudCluster.Proofs.Files.Directory

/-!
Where a path leads along.

The names of a path lead to the same places in every tree that can be gone through
(`walk_of_goAll`), and these are its stops. If the path can be followed to a directory,
all its stops are directories (`Opens.directory_of_stop`). A new entry would be put where
the path leads, but for slashes at its end (`locateNew_pieces`).
-/

namespace CloudCluster.Files

namespace Place

/-- One step of a path. -/
def step (place : Place) (name : String) : Place :=
  if name = "" || name = "." then place
  else if name = ".." then place.dropLast
  else place ++ [name]

/-- The place that names lead to, in any tree that can be gone through. -/
def walk (place : Place) (names : List String) : Place :=
  names.foldl step place

/-- A place that a path leads to or along. -/
def Stop (start : Place) (path : Path) (place : Place) : Prop :=
  ∃ names, names <+: path.pieces ∧ place = walk start names

end Place

namespace Tree

open Place

variable {tree : Tree} {path parent : Path} {place goal : Place} {name : String}
  {names : List String} {mode : Nat}

theorem step_of_go (went : tree.go place name = .ok goal) : goal = step place name := by
  obtain ⟨mode, found⟩ := directory_of_go went
  simp only [go, found] at went
  unfold step
  split at went
  · next stays =>
    cases went
    rw [if_pos stays]
  · next moves =>
    rw [if_neg moves]
    split at went
    · next up =>
      cases went
      rw [if_pos up]
    · next down =>
      rw [if_neg down]
      split at went
      · cases went
      · cases went
        rfl

theorem walk_of_goAll (went : tree.goAll place names = .ok goal) : goal = walk place names := by
  induction names generalizing place with
  | nil =>
      cases went
      rfl
  | cons name rest ih =>
      obtain ⟨next, first, behind⟩ := bind_eq_ok.mp went
      rw [ih behind, step_of_go first]
      rfl

/-- What is gone through on the way is a directory. -/
theorem directory_of_goAll {more : List String}
    (went : tree.goAll place (names ++ name :: more) = .ok goal) :
    ∃ mode, tree.find? (walk place names) = some (.directory mode) := by
  rw [goAll_append] at went
  obtain ⟨next, before, behind⟩ := bind_eq_ok.mp went
  obtain ⟨_, step, _⟩ := bind_eq_ok.mp behind
  rw [← walk_of_goAll before]
  exact directory_of_go step

theorem Opens.place_eq (opens : tree.Opens path place) :
    place = walk (tree.start path) path.pieces :=
  walk_of_goAll opens.leads

theorem Opens.directory_of_stop (opens : tree.Opens path goal)
    (stop : Stop (tree.start path) path place) :
    ∃ mode, tree.find? place = some (.directory mode) := by
  obtain ⟨names, ⟨more, whole⟩, rfl⟩ := stop
  cases more with
  | nil =>
      rw [List.append_nil] at whole
      rw [whole, ← opens.place_eq]
      exact opens.directory
  | cons name more =>
      have leads := opens.leads
      rw [← whole] at leads
      exact directory_of_goAll leads

/-! ### Parents -/

theorem start_of_parent (nonempty : parent ≠ "") (above : path.parent? = some parent) :
    tree.start parent = tree.start path := by
  rcases Path.parent?_cases above with empty | ⟨rfl, absolute⟩ | ⟨_, rest, split⟩
  · exact absurd empty nonempty
  · have root : Path.isAbsolute "/" = true := by decide
    rw [start, start, root, absolute]
  · have same : Path.isAbsolute path = Path.isAbsolute parent := by
      obtain ⟨first, more, chars⟩ :=
        List.exists_cons_of_ne_nil (mt String.toList_eq_nil_iff.mp nonempty)
      simp [Path.isAbsolute, split, chars]
    rw [start, start, same]

theorem walk_of_empty (empty : ∀ name ∈ names, name = "") : walk place names = place := by
  induction names with
  | nil => rfl
  | cons name rest ih =>
      obtain ⟨here, behind⟩ := List.forall_mem_cons.mp empty
      have stays : step place name = place := by simp [step, here]
      rw [walk, List.foldl_cons, stays]
      exact ih behind

/-- The stops of a parent are stops of the path. -/
theorem stop_of_parent (nonempty : parent ≠ "") (above : path.parent? = some parent)
    (stop : Stop (tree.start parent) parent place) : Stop (tree.start path) path place := by
  obtain ⟨names, prefixed, rfl⟩ := stop
  rw [start_of_parent nonempty above]
  rcases Path.parent?_cases above with empty | ⟨rfl, absolute⟩ | ⟨_, rest, split⟩
  · exact absurd empty nonempty
  · refine ⟨[], List.nil_prefix, walk_of_empty ?_⟩
    intro name mem
    have pieces : Path.pieces "/" = ["", ""] := by decide
    have mem := prefixed.subset mem
    rw [pieces] at mem
    simpa using mem
  · refine ⟨names, prefixed.trans ?_, rfl⟩
    rw [Path.pieces, Path.pieces, split, Path.cut_append_slash, List.map_append]
    exact List.prefix_append _ _

/-! ### Slashes at the end -/

theorem dropSlashes_append (names : List String) :
    ∃ count, names = dropSlashes names ++ List.replicate count "" := by
  refine ⟨(names.reverse.takeWhile (· = "")).length, ?_⟩
  have slashes : names.reverse.takeWhile (· = "") =
      List.replicate (names.reverse.takeWhile (· = "")).length "" := by
    rw [List.eq_replicate_iff]
    exact ⟨rfl, fun name mem => of_decide_eq_true (List.all_eq_true.mp List.all_takeWhile name mem)⟩
  have whole := List.takeWhile_append_dropWhile (p := (· = "")) (l := names.reverse)
  have forwards := congrArg List.reverse whole
  rw [List.reverse_append, List.reverse_reverse, slashes, List.reverse_replicate] at forwards
  exact forwards.symm

theorem locateNew_eq_goAll (tree : Tree) (path : Path) (nonempty : dropSlashes names ≠ []) :
    tree.locateNew path names =
      (tree.goAll (tree.start path) (dropSlashes names)).mapError .system := by
  obtain ⟨above, last, split⟩ := List.eq_nil_or_concat (dropSlashes names) |>.resolve_left nonempty
  simp only [locateNew, split, List.concat_eq_append, List.dropLast_concat,
    List.getLast?_concat, Option.getD_some, goAll_concat]

/-- A new entry gets the place that the path leads to, but for slashes at its end. -/
theorem locateNew_pieces (path : Path) : ∃ names count,
    path.pieces = names ++ List.replicate count "" ∧
    ∀ tree : Tree, tree.locateNew path path.pieces =
      (tree.goAll (tree.start path) names).mapError .system := by
  obtain ⟨count, split⟩ := dropSlashes_append path.pieces
  by_cases root : dropSlashes path.pieces = []
  · rw [root, List.nil_append] at split
    cases count with
    | zero =>
        have nonempty : path.pieces ≠ [] := by simp [Path.pieces, Path.cut_ne_nil]
        exact absurd split nonempty
    | succ count =>
        refine ⟨[""], count, by rw [split, List.replicate_succ]; rfl, ?_⟩
        intro tree
        simp only [locateNew, root, List.dropLast_nil, List.getLast?_nil, Option.getD_none]
        rw [← List.nil_append [""], goAll_concat]
  · exact ⟨_, count, split, fun tree => locateNew_eq_goAll tree path root⟩

theorem goAll_append_slashes (count : Nat) (went : tree.goAll place names = .ok goal)
    (found : tree.find? goal = some (.directory mode)) :
    tree.goAll place (names ++ List.replicate count "") = .ok goal := by
  induction count with
  | zero => simpa using went
  | succ count ih =>
      rw [List.replicate_succ', ← List.append_assoc, goAll_concat, ih]
      exact go_empty_of_directory found

/-- The directory of a path is where a new entry would be put. -/
theorem Opens.located (opens : tree.Opens path goal) {count : Nat}
    (split : path.pieces = names ++ List.replicate count "") :
    tree.goAll (tree.start path) names = .ok goal := by
  have leads := opens.leads
  rw [split, goAll_append] at leads
  obtain ⟨next, before, slashes⟩ := bind_eq_ok.mp leads
  have stays : goal = next := by
    rw [walk_of_goAll slashes]
    exact walk_of_empty fun name mem => List.eq_of_mem_replicate mem
  rw [stays]
  exact before

/-! ### What stands there -/

theorem status_eq_ok_iff {entry : Entry} : tree.status path = .ok entry ↔
    (∃ names, steps path = .ok names) ∧ ∃ place,
      tree.goAll (tree.start path) path.pieces = .ok place ∧ tree.find? place = some entry := by
  constructor
  · intro found
    obtain ⟨place, located, here⟩ := bind_eq_ok.mp found
    obtain ⟨names, taken, went⟩ := bind_eq_ok.mp located
    cases steps_eq_ok taken
    refine ⟨⟨_, taken⟩, place, mapError_eq_ok.mp went, ?_⟩
    split at here
    · next there =>
      cases here
      exact there
    · cases here
  · rintro ⟨⟨names, taken⟩, place, went, found⟩
    cases steps_eq_ok taken
    simp [status, locate, taken, went, found, bind, Except.bind, pure, Except.pure]

/-- A path is that of a directory iff it can be followed to one. -/
theorem isDirectory_iff : tree.isDirectory path = true ↔
    (∃ names, steps path = .ok names) ∧ ∃ place, tree.Opens path place := by
  unfold Tree.isDirectory
  constructor
  · intro directory
    cases found : tree.status path with
    | error fault =>
        rw [found] at directory
        cases directory
    | ok entry =>
        rw [found] at directory
        obtain ⟨taken, place, leads, here⟩ := status_eq_ok_iff.mp found
        cases entry with
        | file bytes mode => cases directory
        | directory mode => exact ⟨taken, place, leads, mode, here⟩
  · rintro ⟨taken, place, leads, mode, here⟩
    rw [status_eq_ok_iff.mpr ⟨taken, place, leads, here⟩]
    rfl

end Tree

end CloudCluster.Files
