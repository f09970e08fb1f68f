import CloudCluster.Files.Path

/-!
The names in joined paths.

A name without a slash that is joined to a directory is the last name of the
path (`pieces_join`). The names before it are those of the directory, but for an
empty one that a slash at the directory's end leaves behind. So a directory and
the names in it can be followed one after the other.
-/

namespace CloudCluster.Files.Path

/-! ### Cutting at slashes -/

theorem cut_ne_nil (s : List Char) : cut s ≠ [] := by
  cases s with
  | nil => simp [cut]
  | cons c rest =>
      unfold cut
      split
      · simp
      · split <;> simp

theorem cut_of_slashless {s : List Char} (slashless : '/' ∉ s) : cut s = [s] := by
  induction s with
  | nil => rfl
  | cons c rest ih =>
      obtain ⟨here, behind⟩ := not_or.mp (mt List.mem_cons.mpr slashless)
      simp only [cut, if_neg (Ne.symm here), ih behind]

/-- A slash cuts a path into what is before it and what is behind it. -/
theorem cut_append_slash (s t : List Char) : cut (s ++ '/' :: t) = cut s ++ cut t := by
  induction s with
  | nil => simp [cut]
  | cons c rest ih =>
      rw [List.cons_append]
      by_cases slash : c = '/'
      · simp only [cut, if_pos slash, ih, List.cons_append]
      · simp only [cut, if_neg slash, ih]
        cases pieces : cut rest with
        | nil => exact absurd pieces (cut_ne_nil rest)
        | cons first more => rfl

/-- What is behind the last slash, if there is one. -/
theorem slashless_or_split (s : List Char) :
    '/' ∉ s ∨ ∃ above name, s = above ++ '/' :: name ∧ '/' ∉ name := by
  induction s with
  | nil => exact .inl nofun
  | cons c rest ih =>
      rcases ih with slashless | ⟨above, name, split, slashless⟩
      · by_cases slash : c = '/'
        · exact .inr ⟨[], rest, by rw [slash, List.nil_append], slashless⟩
        · exact .inl (List.not_mem_cons_of_ne_of_not_mem (Ne.symm slash) slashless)
      · exact .inr ⟨c :: above, name, by rw [split, List.cons_append], slashless⟩

/-! ### Joined paths -/

variable {name : String}

theorem isAbsolute_of_slashless (slashless : '/' ∉ name.toList) : isAbsolute name = false := by
  have other : name.toList.head? ≠ some '/' := fun first =>
    slashless (List.mem_of_mem_head? (Option.mem_def.mpr first))
  simpa [isAbsolute] using other

/-- The three forms of a joined path: there is no directory, it ends in a slash, or
a slash is put between. -/
theorem toList_join (dir : Path) (slashless : '/' ∉ name.toList) :
    (dir = "" ∧ join dir name = name) ∨
      (∃ above, dir.toList = above ++ ['/'] ∧ (join dir name).toList = dir.toList ++ name.toList) ∨
      (dir ≠ "" ∧ (join dir name).toList = dir.toList ++ '/' :: name.toList) := by
  unfold join
  rw [isAbsolute_of_slashless slashless]
  by_cases empty : dir = ""
  · exact Or.inl ⟨empty, by simp [empty]⟩
  · have nonempty : dir.isEmpty = false := by simpa [String.isEmpty_iff] using empty
    by_cases ends : dir.toList.getLast? = some '/'
    · obtain ⟨above, split⟩ := List.getLast?_eq_some_iff.mp ends
      exact Or.inr (Or.inl ⟨above, split, by simp [nonempty, ends]⟩)
    · exact Or.inr (Or.inr ⟨empty, by simp [nonempty, ends]⟩)

theorem isAbsolute_join (dir : Path) (slashless : '/' ∉ name.toList) :
    isAbsolute (join dir name) = isAbsolute dir := by
  rcases toList_join dir slashless with ⟨rfl, joined⟩ | ⟨above, ends, joined⟩ | ⟨nonempty, joined⟩
  · rw [joined, isAbsolute_of_slashless slashless]
    rfl
  · simp [isAbsolute, joined, ends]
  · obtain ⟨first, more, chars⟩ :=
      List.exists_cons_of_ne_nil (mt String.toList_eq_nil_iff.mp nonempty)
    simp [isAbsolute, joined, chars]

/-- The names of a joined path are those of the directory, without the empty one
behind a slash at its end, and the joined one. -/
theorem pieces_join (dir : Path) (slashless : '/' ∉ name.toList) :
    ∃ above, pieces (join dir name) = above ++ [name] ∧
      (pieces dir = above ∨ pieces dir = above ++ [""]) := by
  have last : (cut name.toList).map String.ofList = [name] := by
    rw [cut_of_slashless slashless]
    simp
  rcases toList_join dir slashless with ⟨rfl, joined⟩ | ⟨above, ends, joined⟩ | ⟨_, joined⟩
  · exact ⟨[], by simp [pieces, joined, last], Or.inr rfl⟩
  · refine ⟨(cut above).map String.ofList, ?_, Or.inr ?_⟩
    · rw [pieces, joined, ends, List.append_assoc, List.singleton_append, cut_append_slash,
        List.map_append, last]
    · rw [pieces, ends, cut_append_slash, List.map_append]
      rfl
  · refine ⟨pieces dir, ?_, Or.inl rfl⟩
    rw [pieces, joined, cut_append_slash, List.map_append, last]
    rfl

/-- Every path is that of some name in some directory. -/
theorem exists_join (path : Path) : ∃ dir name, '/' ∉ name.toList ∧ path = join dir name := by
  rcases slashless_or_split path.toList with slashless | ⟨above, name, split, slashless⟩
  · exact ⟨"", path, slashless, by simp [join, isAbsolute_of_slashless slashless]⟩
  · have slashless : '/' ∉ (String.ofList name).toList := by simpa using slashless
    refine ⟨String.ofList (above ++ ['/']), String.ofList name, slashless, ?_⟩
    have nonempty : (String.ofList (above ++ ['/'])).isEmpty = false := by
      simp [-String.ofList_append]
    have ends : (String.ofList (above ++ ['/'])).toList.getLast? = some '/' := by
      rw [String.toList_ofList, List.getLast?_concat]
    apply String.toList_injective
    rw [join, isAbsolute_of_slashless slashless, nonempty, if_pos ends]
    simp [split]

theorem join_ne_empty (dir : Path) (slashless : '/' ∉ name.toList) (nonempty : name ≠ "") :
    join dir name ≠ "" := by
  intro empty
  rcases toList_join dir slashless with ⟨_, joined⟩ | ⟨_, _, joined⟩ | ⟨_, joined⟩
  · exact nonempty (joined.symm.trans empty)
  · rw [empty] at joined
    exact nonempty (String.toList_eq_nil_iff.mp (List.append_eq_nil_iff.mp joined.symm).2)
  · rw [empty] at joined
    exact List.cons_ne_nil _ _ (List.append_eq_nil_iff.mp joined.symm).2

/-- Different names make different paths in a directory. -/
theorem join_inj {dir : Path} {other : String} (slashless : '/' ∉ name.toList)
    (slashless' : '/' ∉ other.toList) (same : join dir name = join dir other) : name = other := by
  obtain ⟨above, names, _⟩ := pieces_join dir slashless
  obtain ⟨above', names', _⟩ := pieces_join dir slashless'
  rw [same, names'] at names
  exact (List.append_singleton_inj.mp names).2.symm

/-! ### Parents -/

/-- What is trimmed from the end of a path, written backwards, ends in a slash. -/
theorem trimBackwards_suffix (s : List Char) :
    trimBackwards s = s ∨ ∃ off, s = off ++ '/' :: trimBackwards s := by
  induction s using trimBackwards.induct with
  | case1 rest ih =>
      right
      rw [trimBackwards]
      rcases ih with same | ⟨off, split⟩
      · exact ⟨[], by rw [same, List.nil_append]⟩
      · exact ⟨'/' :: off, by rw [List.cons_append, ← split]⟩
  | case2 rest ih =>
      right
      rw [trimBackwards]
      rcases ih with same | ⟨off, split⟩
      · exact ⟨['.'], by rw [same]; rfl⟩
      · exact ⟨'.' :: '/' :: off, by rw [List.cons_append, List.cons_append, ← split]⟩
  | case3 rest notSlash notDot =>
      left
      rw [trimBackwards]
      · exact notSlash
      · exact notDot

theorem dropName_suffix (s : List Char) :
    dropName s = [] ∧ '/' ∉ s ∨ ∃ name rest, s = name ++ '/' :: rest ∧ dropName s = '/' :: rest := by
  induction s with
  | nil => exact .inl ⟨rfl, nofun⟩
  | cons c rest ih =>
      rw [dropName]
      by_cases slash : c = '/'
      · subst slash
        exact .inr ⟨[], rest, rfl, by simp⟩
      · rw [if_neg slash]
        rcases ih with ⟨nothing, slashless⟩ | ⟨name, rest', split, dropped⟩
        · exact .inl ⟨nothing, by simp [Ne.symm slash, slashless]⟩
        · exact .inr ⟨c :: name, rest', by rw [split, List.cons_append], dropped⟩

/-- What is left of a path without its last name ends before a slash. -/
theorem above_suffix {s : List Char} (nonempty : trimBackwards (dropName s) ≠ []) :
    ∃ off, s = off ++ '/' :: trimBackwards (dropName s) := by
  rcases dropName_suffix s with ⟨nothing, _⟩ | ⟨name, rest, split, dropped⟩
  · rw [nothing] at nonempty
    exact absurd rfl nonempty
  · have trimmed : trimBackwards ('/' :: rest) = trimBackwards rest := by rw [trimBackwards]
    rw [dropped, trimmed]
    rcases trimBackwards_suffix rest with same | ⟨off, further⟩
    · exact ⟨name, by rw [same, split]⟩
    · refine ⟨name ++ '/' :: off, ?_⟩
      rw [List.append_assoc, List.cons_append, ← further, split]

/-- A parent is where the path begins, the root, or all of the path up to some slash. -/
theorem parent?_cases {path parent : Path} (above : parent? path = some parent) :
    parent = "" ∨ parent = "/" ∧ isAbsolute path = true ∨
      parent ≠ "" ∧ ∃ rest, path.toList = parent.toList ++ '/' :: rest := by
  unfold parent? at above
  dsimp only at above
  split at above
  · cases above
  · split at above
    · next root =>
      cases above
      exact .inr (.inl ⟨rfl, (Bool.and_eq_true_iff.mp root).2⟩)
    · cases above
      by_cases empty : trimBackwards (dropName (trimBackwards path.toList.reverse)) = []
      · exact .inl (by rw [empty]; rfl)
      · refine .inr (.inr ⟨?_, ?_⟩)
        · intro same
          have chars := congrArg String.toList same
          simp [empty] at chars
        · obtain ⟨off, split⟩ := above_suffix empty
          have whole : ∃ off, path.toList.reverse =
              off ++ '/' :: trimBackwards (dropName (trimBackwards path.toList.reverse)) := by
            rcases trimBackwards_suffix path.toList.reverse with same | ⟨off', further⟩
            · exact ⟨off, by rw [← split, same]⟩
            · exact ⟨off' ++ '/' :: off, by
                rw [List.append_assoc, List.cons_append, ← split, ← further]⟩
          obtain ⟨off, whole⟩ := whole
          refine ⟨off.reverse, ?_⟩
          have forwards := congrArg List.reverse whole
          simpa using forwards

end CloudCluster.Files.Path
