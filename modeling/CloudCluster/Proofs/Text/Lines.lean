import CloudCluster.Text.Blank
import Mathlib.Data.List.DropRight
import Mathlib.Data.List.TakeWhile

/-!
Lines and what they say.

Trimming removes the white space at both ends of a text and nothing else: what is left
begins and ends with other characters (`IsWord.of_trim`), and what stands between white
space stays as it is (`trim_between`). `words` is what the lines of a text say that are not
blank. A line feed cuts them in two wherever it stands (`words_append`), so a text can be
read from its end without a look at what comes before.
-/

namespace CloudCluster.Text

variable {s t line left right : List Char} {c : Char}

/-! ### Trimming -/

theorem trimEnd_append (blank : ∀ c ∈ right, isBlank c = true) :
    trimEnd (s ++ right) = trimEnd s := by
  have blankBack : ∀ c ∈ right.reverse, isBlank c = true :=
    fun c mem => blank c (List.mem_reverse.mp mem)
  rw [trimEnd, List.reverse_append, List.dropWhile_append_of_pos blankBack, trimEnd]

theorem trim_append (blank : ∀ c ∈ right, isBlank c = true) : trim (s ++ right) = trim s := by
  rw [trim, trim, List.dropWhile_append]
  split
  · next nothing =>
    rw [List.dropWhile_eq_nil_iff.mpr blank, List.isEmpty_iff.mp nothing]
  · exact trimEnd_append blank

/-- Nothing is left of a text that is blank, and of no other. -/
theorem trim_eq_nil_iff : trim s = [] ↔ ∀ c ∈ s, isBlank c = true := by
  constructor
  · intro nothing
    have started : s.dropWhile isBlank = [] := by
      cases left : s.dropWhile isBlank with
      | nil => rfl
      | cons c rest =>
          have first := List.head?_dropWhile_not isBlank s
          have ended : (s.dropWhile isBlank).rdropWhile isBlank = [] := nothing
          have blank := List.rdropWhile_eq_nil_iff.mp ended
          rw [left] at first blank
          exact absurd (blank c List.mem_cons_self) (by simpa using first)
    exact List.dropWhile_eq_nil_iff.mp started
  · intro blank
    exact trim_append (s := []) blank

theorem mem_of_mem_trim (mem : c ∈ trim s) : c ∈ s :=
  (List.dropWhile_sublist _).mem ((List.rdropWhile_prefix _ _).mem mem)

/-- A text on one line that is not empty and neither begins nor ends with white space. -/
structure IsWord (s : List Char) : Prop where
  notEmpty : s ≠ []
  noFeed : '\n' ∉ s
  first : ∀ c, s.head? = some c → isBlank c = false
  last : ∀ c, s.getLast? = some c → isBlank c = false

theorem IsWord.of_trim (noFeed : '\n' ∉ s) (something : trim s ≠ []) : IsWord (trim s) where
  notEmpty := something
  noFeed := mt mem_of_mem_trim noFeed
  first := by
    intro c first
    obtain ⟨rest, all⟩ := List.rdropWhile_prefix isBlank (s.dropWhile isBlank)
    have starts := List.head?_dropWhile_not isBlank s
    rw [← all, List.head?_append, show (List.rdropWhile _ _).head? = some c from first] at starts
    simpa using starts
  last := by
    intro c last
    have starts := List.head?_dropWhile_not isBlank (s.dropWhile isBlank).reverse
    rw [trim, trimEnd, List.getLast?_reverse] at last
    rw [last] at starts
    simpa using starts

/-- White space on both sides of a word is removed. -/
theorem IsWord.trim_between (word : IsWord s) (before : ∀ c ∈ left, isBlank c = true)
    (behind : ∀ c ∈ right, isBlank c = true) : trim (left ++ s ++ right) = s := by
  obtain ⟨c, rest, rfl⟩ := List.exists_cons_of_ne_nil word.notEmpty
  have kept : (left ++ c :: rest).dropWhile isBlank = c :: rest := by
    rw [List.dropWhile_append_of_pos before]
    simp [word.first c rfl]
  rw [trim_append behind, trim, kept]
  refine List.rdropWhile_eq_self_iff.mpr ?_
  intro notEmpty
  rw [word.last _ (List.getLast?_eq_some_getLast notEmpty)]
  exact Bool.false_ne_true

/-! ### Lines -/

theorem cutLines_append (s t : List Char) : cutLines (s ++ '\n' :: t) =
    ((cutLines s).1 ++ (cutLines s).2 :: (cutLines t).1, (cutLines t).2) := by
  induction s with
  | nil => simp [cutLines]
  | cons c rest ih =>
      rw [List.cons_append, cutLines, cutLines, ih]
      by_cases feed : c = '\n'
      · simp [feed]
      · rcases cutLines rest with ⟨_ | ⟨line, more⟩, last⟩ <;> simp [feed]

theorem cutLines_of_noFeed (noFeed : '\n' ∉ s) : cutLines s = ([], s) := by
  induction s with
  | nil => rfl
  | cons c rest ih =>
      have here : c ≠ '\n' := fun same => noFeed (by simp [same])
      rw [cutLines, ih (List.not_mem_of_not_mem_cons noFeed)]
      simp [here]

/-- The lines that a text is cut into, each with its line feed, are the text. -/
theorem join_cutLines (s : List Char) :
    ((cutLines s).1.flatMap (· ++ ['\n'])) ++ (cutLines s).2 = s := by
  induction s with
  | nil => rfl
  | cons c rest ih =>
      rw [cutLines]
      by_cases feed : c = '\n'
      · simp [feed, ih]
      · rcases cut : cutLines rest with ⟨_ | ⟨line, more⟩, last⟩ <;> rw [cut] at ih <;>
          simpa [feed] using ih

theorem mem_of_mem_cutLines (mem : line ∈ (cutLines s).1 ++ [(cutLines s).2])
    (inLine : c ∈ line) : c ∈ s := by
  rw [← join_cutLines s, List.mem_append, List.mem_flatMap]
  rcases List.mem_append.mp mem with finished | last
  · exact .inl ⟨line, finished, List.mem_append_left _ inLine⟩
  · rw [← List.mem_singleton.mp last]
    exact .inr inLine

theorem noFeed_of_mem_cutLines (mem : line ∈ (cutLines s).1 ++ [(cutLines s).2]) :
    '\n' ∉ line := by
  induction s generalizing line with
  | nil =>
      have same : line = [] := by simpa [cutLines] using mem
      simp [same]
  | cons c rest ih =>
      rw [cutLines] at mem
      by_cases feed : c = '\n'
      · simp only [if_pos feed, List.cons_append, List.mem_cons] at mem
        rcases mem with rfl | mem
        · exact List.not_mem_nil
        · exact ih mem
      · have other : '\n' ≠ c := Ne.symm feed
        rcases cut : cutLines rest with ⟨_ | ⟨first, more⟩, last⟩ <;> rw [cut] at ih mem <;>
          simp only [if_neg feed, List.nil_append, List.cons_append, List.mem_cons] at ih mem
        · have same : line = c :: last := by simpa using mem
          simp [same, other, ih]
        · rcases mem with rfl | mem
          · simp [other, ih]
          · exact ih (.inr mem)

theorem mem_of_mem_dropReturn (mem : c ∈ dropReturn line) : c ∈ line := by
  rw [dropReturn] at mem
  split at mem
  · exact (List.dropLast_sublist _).mem mem
  · exact mem

theorem noFeed_of_mem_lines (mem : line ∈ lines s) : '\n' ∉ line := by
  simp only [lines, List.mem_append, List.mem_map] at mem
  rcases mem with ⟨whole, mem, rfl⟩ | mem
  · exact mt mem_of_mem_dropReturn (noFeed_of_mem_cutLines (List.mem_append_left _ mem))
  · split at mem
    · cases mem
    · exact noFeed_of_mem_cutLines (List.mem_append_right _ mem)

/-! ### Words -/

/-- What the lines of a text say that are not blank. -/
def words (s : List Char) : List (List Char) :=
  ((lines s).map trim).filter (!·.isEmpty)

theorem trim_dropReturn (line : List Char) : trim (dropReturn line) = trim line := by
  rw [dropReturn]
  split
  · next last =>
    conv_rhs => rw [← List.dropLast_append_getLast? '\r' last]
    exact (trim_append (List.forall_mem_singleton.mpr (by decide))).symm
  · rfl

/-- To what the lines say, carriage returns and an empty last line do not matter. -/
theorem words_eq (s : List Char) :
    words s = (((cutLines s).1 ++ [(cutLines s).2]).map trim).filter (!·.isEmpty) := by
  have unreturned (finished : List (List Char)) :
      (finished.map dropReturn).map trim = finished.map trim := by
    simp [Function.comp_def, trim_dropReturn]
  rw [words, lines, List.map_append, unreturned, List.map_append]
  by_cases nothing : (cutLines s).2 = []
  · simp [nothing, trim, trimEnd]
  · simp [nothing]

theorem words_append (s t : List Char) : words (s ++ '\n' :: t) = words s ++ words t := by
  have cut (finished finished' : List (List Char)) (last last' : List Char) :
      finished ++ last :: finished' ++ [last'] =
        (finished ++ [last]) ++ (finished' ++ [last']) := by
    simp
  rw [words_eq, words_eq, words_eq, cutLines_append, cut, List.map_append, List.filter_append]

theorem words_of_noFeed (noFeed : '\n' ∉ s) : words s = if trim s = [] then [] else [trim s] := by
  rw [words_eq, cutLines_of_noFeed noFeed]
  by_cases nothing : trim s = [] <;> simp [nothing]

theorem words_of_blank (blank : ∀ c ∈ s, isBlank c = true) : words s = [] := by
  have saysNothing : ∀ line ∈ (cutLines s).1 ++ [(cutLines s).2], trim line = [] := by
    intro line mem
    exact trim_eq_nil_iff.mpr fun c inLine => blank c (mem_of_mem_cutLines mem inLine)
  rw [words_eq, List.filter_eq_nil_iff, List.forall_mem_map]
  intro line mem
  simp [saysNothing line mem]

theorem words_eq_nil_iff : words s = [] ↔ ∀ line ∈ lines s, ∀ c ∈ line, isBlank c = true := by
  simp [words, List.filter_eq_nil_iff, trim_eq_nil_iff]

/-- The last of the words is what the last line says that is not blank. -/
theorem getLast?_words_iff {word : List Char} : (words s).getLast? = some word ↔
    ∃ before line after, lines s = before ++ line :: after ∧ trim line = word ∧ word ≠ [] ∧
      ∀ later ∈ after, trim later = [] := by
  rw [words, List.getLast?_filter, ← List.map_reverse, List.find?_map, Option.map_eq_some_iff]
  constructor
  · rintro ⟨line, found, rfl⟩
    obtain ⟨something, after, before, split, blank⟩ := List.find?_eq_some_iff_append.mp found
    refine ⟨before.reverse, line, after.reverse, ?_, rfl, by simpa using something, ?_⟩
    · rw [← List.reverse_inj, split]
      simp
    · intro later mem
      simpa using blank later (List.mem_reverse.mp mem)
  · rintro ⟨before, line, after, split, rfl, something, blank⟩
    refine ⟨line, List.find?_eq_some_iff_append.mpr ⟨by simpa using something, ?_⟩, rfl⟩
    refine ⟨after.reverse, before.reverse, by simp [split], ?_⟩
    intro later mem
    simpa using blank later (List.mem_reverse.mp mem)

end CloudCluster.Text
