import CloudCluster.Files.Path
import CloudCluster.Proofs.Shell.Quote
import Mathlib.Tactic.SplitIfs

/-!
Texts that stand in a shell command without quotes.

Bare texts with a blank between them are read as they are (`splitAt_intercalate`); a tilde in
front of one is read as it is for somebody with a home directory. No other texts are read as
they are (`isBare_of_splitAt`): a character of a command makes at most one letter of a word,
or ends one (`weight_step_le`). So where as many letters and ends of words come out as
characters went in, each of these was read bare (`IsTight.read`): none was a quote, and
nothing was skipped.
-/

namespace CloudCluster.Shell

open Files

/-! ### Home directories -/

/-- What is behind a tilde that means the home directory: one that stands alone or before a
slash. -/
def Word.underHome? : Word → Option Word
  | [⟨'~', false⟩] => some []
  | ⟨'~', false⟩ :: ⟨'/', false⟩ :: rest => some (⟨'/', false⟩ :: rest)
  | _ => none

/-- The text of a word, for somebody with a home directory. -/
def Word.fieldAt (home : String) (word : Word) : Except Obstacle String :=
  match word.underHome? with
  | some rest => (Word.field rest).map (home ++ ·)
  | none => word.field

/-- The words of a command, as they reach the program that is called by somebody with a home
directory. -/
def splitAt (home text : String) : Except Obstacle (List String) := do
  (← tokens text).mapM (Word.fieldAt home)

/-- A text that a shell reads as one word, letter by letter. If a tilde is in front of it,
that means the home directory. -/
structure IsBare (text : String) : Prop where
  notEmpty : text.toList ≠ []
  plain : ∀ c ∈ text.toList, c ∉ marks ++ patterns
  noComment : text.toList.head? ≠ some '#'
  home : ∀ c rest, text.toList = '~' :: c :: rest → c = '/'

/-- The word of a text without quotes. -/
def bareWord (text : String) : Word :=
  text.toList.map (⟨·, false⟩)

theorem IsPlain.isBare {text : String} (plain : IsPlain text) : IsBare text := by
  have apart {c d : Char} (mem : c ∈ text.toList) (special : d ∈ specials) : c ≠ d :=
    ne_of_isSafe (List.all_eq_true.mp plain.2 c mem) d special
  constructor
  · exact mt String.toList_eq_nil_iff.mp plain.1
  · exact fun c mem marked => apart mem (subset_specials marked) rfl
  · exact fun head => apart (List.mem_of_head? head) (by decide) rfl
  · intro c rest letters
    exact absurd rfl (apart (letters ▸ List.mem_cons_self) (by decide))

section Home

variable {home text : String} {word : Word}

@[simp]
theorem text_bareWord (text : String) : (bareWord text).text = text := by
  simp [Word.text, bareWord, Function.comp_def]

theorem underHome?_eq_none (noTilde : word.head? ≠ some ⟨'~', false⟩) :
    word.underHome? = none := by
  unfold Word.underHome?
  split
  · exact absurd rfl noTilde
  · exact absurd rfl noTilde
  · rfl

/-- The text of a bare text's word is that of the path, below the home directory. -/
theorem IsBare.fieldAt_eq (bare : IsBare text) (home : String) :
    (bareWord text).fieldAt home = .ok (Path.expandHome home text) := by
  have noPattern : ∀ letter ∈ bareWord text, letter.quoted = false → letter.char ∉ patterns := by
    intro letter mem _
    obtain ⟨c, here, rfl⟩ := List.mem_map.mp mem
    exact fun pattern => bare.plain c here (List.mem_append_right _ pattern)
  unfold Path.expandHome
  split
  · next alone =>
    have word : bareWord text = [⟨'~', false⟩] := by rw [bareWord, alone]; rfl
    rw [word]
    simp [Word.fieldAt, Word.underHome?, Word.field]
  · next rest below =>
    have word : bareWord text = ⟨'~', false⟩ :: ⟨'/', false⟩ :: rest.map (⟨·, false⟩) := by
      rw [bareWord, below]
      rfl
    rw [word] at noPattern ⊢
    have field : Word.field (⟨'/', false⟩ :: rest.map (⟨·, false⟩)) =
        .ok (String.ofList ('/' :: rest)) := by
      refine field_eq_ok.mpr ⟨by simp, fun letter mem => noPattern letter (.tail _ mem), ?_⟩
      simp [Word.text, Function.comp_def]
    simp only [Word.fieldAt, Word.underHome?, field, map_ok]
  · next notAlone notBelow =>
    have noTilde : (bareWord text).head? ≠ some ⟨'~', false⟩ := by
      rw [bareWord]
      intro head
      cases letters : text.toList with
      | nil => simp [letters] at head
      | cons c rest =>
        have tilde : c = '~' := by simpa [letters] using head
        subst tilde
        cases rest with
        | nil => exact notAlone letters
        | cons d rest => exact notBelow rest (bare.home d rest letters ▸ letters)
    rw [Word.fieldAt, underHome?_eq_none noTilde]
    exact field_eq_ok.mpr ⟨noTilde, noPattern, (text_bareWord text).symm⟩

theorem expandHome_of_noTilde {path : Path} (noTilde : path.toList.head? ≠ some '~') :
    Path.expandHome home path = path := by
  unfold Path.expandHome
  split
  · next alone => simp [alone] at noTilde
  · next below => simp [below] at noTilde
  · rfl

theorem expandHome_tilde (path : Path) : Path.expandHome "~" path = path := by
  apply String.toList_injective
  unfold Path.expandHome
  split
  · next alone =>
    rw [alone]
    rfl
  · next below =>
    simp only [String.toList_append, String.toList_ofList, below]
    rfl
  · rfl

/-- Without a home directory, a tilde would be lost. -/
theorem IsBare.noTilde (bare : IsBare text) (same : Path.expandHome "" text = text) :
    text.toList.head? ≠ some '~' := by
  intro head
  have letters := congrArg String.toList same
  cases ofText : text.toList with
  | nil => exact bare.notEmpty ofText
  | cons c rest =>
      obtain rfl : c = '~' := by simpa [ofText] using head
      unfold Path.expandHome at letters
      cases rest with
      | nil => simp [ofText] at letters
      | cons d rest =>
          obtain rfl := bare.home d rest ofText
          simp [ofText] at letters

/-- A word has its own text where a tilde is the home directory, if it has one. -/
theorem of_fieldAt_tilde (done : word.fieldAt "~" = .ok text) :
    text.toList = word.map (·.char) ∧
      (∀ letter ∈ word, letter.quoted = false → letter.char ∉ patterns) ∧
      ∀ letter rest, word = ⟨'~', false⟩ :: letter :: rest → letter = ⟨'/', false⟩ := by
  have notPattern : '~' ∉ patterns := by decide
  unfold Word.fieldAt at done
  split at done
  · next rest under =>
    obtain ⟨field, ofRest, done⟩ : ∃ field, Word.field rest = .ok field ∧ "~" ++ field = text := by
      cases ofRest : Word.field rest <;> simp_all
    obtain ⟨_, plain, rfl⟩ := field_eq_ok.mp ofRest
    subst done
    unfold Word.underHome? at under
    split at under
    · cases under
      exact ⟨rfl, by simpa using notPattern, by simp⟩
    · next rest =>
      cases under
      refine ⟨?_, List.forall_mem_cons.mpr ⟨fun _ => notPattern, plain⟩, ?_⟩
      · simp [Word.text, String.toList_append]
      · rintro _ _ ⟨⟩
        rfl
    · cases under
  · next notUnder =>
    obtain ⟨noTilde, plain, rfl⟩ := field_eq_ok.mp done
    refine ⟨by simp [Word.text], plain, ?_⟩
    rintro letter rest rfl
    exact absurd rfl noTilde

end Home

/-! ### Characters that are read bare -/

/-- A word that is read letter by letter. -/
structure Word.IsBare (word : Word) : Prop where
  notEmpty : word ≠ []
  plain : ∀ letter ∈ word, letter.quoted = false ∧ letter.char ∉ marks
  noComment : ∀ letter ∈ word.head?, letter.char ≠ '#'

namespace Reader

variable {reader next : Reader} {s : List Char} {c : Char}

/-- A character that is read bare ends the word, belongs to quotes, or is a letter. -/
theorem step_cases (bare : reader.mode = .bare) (done : reader.step c = .ok next) :
    next = reader.endWord ∨
      (∃ mode ≠ .doubleEscaped, next = reader.enter mode ∨ next = reader.within mode) ∨
      c ∉ marks ∧ (reader.word = none → c ≠ '#') ∧ next = reader.add c false := by
  simp only [step, bare, stepBare] at done
  split_ifs at done with notNul blank operator expansion comment quote doubleQuote backslash
  · cases done
    exact .inl rfl
  · cases done
    exact .inr (.inl ⟨.single, by decide, .inl rfl⟩)
  · cases done
    exact .inr (.inl ⟨.double, by decide, .inl rfl⟩)
  · cases done
    exact .inr (.inl ⟨.escaped, by decide, .inr rfl⟩)
  · cases done
    have unmarked : c ∉ marks := by
      simp [marks, notNul, blank, operator, expansion, quote, doubleQuote, backslash]
    exact .inr (.inr ⟨unmarked, fun first here => comment (by simp [first, here]), rfl⟩)

/-- The letters and the ends of words that were read, and the letter that is owed for a
backslash between double quotes. -/
def weight (reader : Reader) : Nat :=
  reader.words.flatten.length + reader.words.length + (reader.word.getD []).length +
    if reader.mode = .doubleEscaped then 1 else 0

theorem weight_endWord_le (reader : Reader) : reader.endWord.weight ≤ reader.weight + 1 := by
  cases last : reader.word with
  | none => simp [weight, endWord, last]
  | some word =>
      simp [weight, endWord, last]
      omega

/-- A character makes a letter of a word, or ends one, or makes nothing. -/
theorem weight_step_le (done : reader.step c = .ok next) : next.weight ≤ reader.weight + 1 := by
  cases bare : reader.mode with
  | bare =>
      obtain rfl | ⟨mode, notEscaped, rfl | rfl⟩ | ⟨_, _, rfl⟩ := step_cases bare done
      · exact weight_endWord_le reader
      · simp [weight, enter, bare, notEscaped]
      · simp [weight, within, bare, notEscaped]
      · simp [weight, add, bare, Nat.add_assoc]
  | _ =>
      simp only [step, bare] at done
      split_ifs at done <;> cases done <;> simp [weight, within, add, bare] <;> omega

theorem weight_read_le (done : reader.read s = .ok next) :
    next.weight ≤ reader.weight + s.length := by
  induction s generalizing reader with
  | nil =>
      cases done
      exact Nat.le_refl _
  | cons c rest ih =>
      rw [read_cons] at done
      obtain ⟨between, here, behind⟩ := bind_eq_ok.mp done
      have ofHere := weight_step_le here
      have ofRest := ih behind
      rw [List.length_cons]
      omega

/-- Nothing was read but bare words and blanks between them. -/
structure IsTight (reader : Reader) : Prop where
  bare : reader.mode = .bare
  words : ∀ word ∈ reader.words ++ reader.word.toList, word.IsBare

theorem isBare_add {word : Option Word} (bare : ∀ begun ∈ word.toList, begun.IsBare)
    (plain : c ∉ marks) (noComment : word = none → c ≠ '#') :
    Word.IsBare (word.getD [] ++ [⟨c, false⟩]) := by
  have here : ∀ letter ∈ [Letter.mk c false], letter.quoted = false ∧ letter.char ∉ marks := by
    simpa using plain
  cases word with
  | none => exact ⟨by simp, here, by simpa using noComment rfl⟩
  | some word =>
      obtain ⟨notEmpty, before, first⟩ := bare word (by simp)
      refine ⟨by simp, List.forall_mem_append.mpr ⟨before, here⟩, ?_⟩
      simpa [List.head?_append_of_ne_nil _ notEmpty] using first

theorem IsTight.step (tight : reader.IsTight) (done : reader.step c = .ok next)
    (full : next.weight = reader.weight + 1) : next.IsTight := by
  have bare := tight.bare
  obtain ⟨before, last⟩ := List.forall_mem_append.mp tight.words
  obtain rfl | ⟨mode, notEscaped, rfl | rfl⟩ | ⟨plain, noComment, rfl⟩ := step_cases bare done
  · exact ⟨bare, by simpa [endWord] using tight.words⟩
  · simp [weight, enter, bare, notEscaped] at full
  · simp [weight, within, bare, notEscaped] at full
  · have longer : Word.IsBare (reader.word.getD [] ++ [⟨c, false⟩]) :=
      isBare_add last plain noComment
    exact ⟨bare, List.forall_mem_append.mpr ⟨before, by simpa [add] using longer⟩⟩

theorem IsTight.read (tight : reader.IsTight) (done : reader.read s = .ok next)
    (full : next.weight = reader.weight + s.length) : next.IsTight := by
  induction s generalizing reader with
  | nil =>
      cases done
      exact tight
  | cons c rest ih =>
      rw [read_cons] at done
      obtain ⟨between, here, behind⟩ := bind_eq_ok.mp done
      have ofHere := weight_step_le here
      have ofRest := weight_read_le behind
      rw [List.length_cons] at full
      exact ih (tight.step here (by omega)) behind (by omega)

end Reader

/-! ### Texts with a blank between them -/

/-- A text that makes as many letters and ends of words as it can is read bare. -/
theorem isBare_of_tokens {text : String} {words : List Word} (ofText : tokens text = .ok words)
    (full : text.toList.length < words.flatten.length + words.length) :
    ∀ word ∈ words, word.IsBare := by
  obtain ⟨reader, read, done⟩ := bind_eq_ok.mp ofText
  have atMost := Reader.weight_read_le read
  unfold Reader.finish at done
  split at done
  · next bare =>
    cases done
    have start : Reader.IsTight {} := ⟨rfl, by simp⟩
    have atEnd := Reader.weight_endWord_le reader
    have ofWords : reader.endWord.words.flatten.length + reader.endWord.words.length ≤
        reader.endWord.weight := by
      unfold Reader.weight
      omega
    have nothing : Reader.weight {} = 0 := rfl
    exact (start.read read (by omega)).words
  · cases done

section Join

variable {home text : String} {texts : List String}

theorem tokens_of_isBare (bare : IsBare text) : tokens text = .ok [bareWord text] := by
  obtain ⟨notEmpty, plain, noComment, _⟩ := bare
  have unmarked : ∀ c ∈ text.toList, c ∉ marks := fun c mem marked =>
    plain c mem (List.mem_append_left _ marked)
  unfold tokens bareWord
  cases letters : text.toList with
  | nil => exact absurd letters notEmpty
  | cons c rest =>
      rw [letters] at unmarked noComment
      obtain ⟨here, behind⟩ := List.forall_mem_cons.mp unmarked
      have first : c ≠ '#' := by simpa using noComment
      rw [Reader.read_cons, Reader.step_of_plain rfl here fun _ => first]
      refine bind_eq_ok.mpr ⟨_, Reader.read_of_plain behind, rfl⟩

theorem tokens_intercalate (notEmpty : texts ≠ []) (bare : ∀ text ∈ texts, IsBare text) :
    tokens (" ".intercalate texts) = .ok (texts.map bareWord) := by
  induction texts with
  | nil => exact absurd rfl notEmpty
  | cons text rest ih =>
      obtain ⟨here, behind⟩ := List.forall_mem_cons.mp bare
      cases rest with
      | nil => exact String.intercalate_singleton ▸ tokens_of_isBare here
      | cons next rest =>
          rw [String.intercalate_cons_cons]
          exact tokens_join (tokens_of_isBare here) (ih (List.cons_ne_nil _ _) behind)

theorem splitAt_intercalate (notEmpty : texts ≠ []) (bare : ∀ text ∈ texts, IsBare text) :
    splitAt home (" ".intercalate texts) = .ok (texts.map (Path.expandHome home)) := by
  refine bind_eq_ok.mpr ⟨_, tokens_intercalate notEmpty bare, mapM_eq_ok.mpr ?_⟩
  rw [List.forall₂_map_left_iff, List.forall₂_map_right_iff, List.forall₂_same]
  exact fun text mem => (bare text mem).fieldAt_eq home

theorem length_intercalate (notEmpty : texts ≠ []) :
    (" ".intercalate texts).toList.length + 1 =
      (texts.map String.toList).flatten.length + texts.length := by
  induction texts with
  | nil => exact absurd rfl notEmpty
  | cons text rest ih =>
      cases rest with
      | nil => simp
      | cons next rest =>
          have ofRest := ih (List.cons_ne_nil _ _)
          have blank : " ".toList.length = 1 := rfl
          rw [String.intercalate_cons_cons, String.toList_append, String.toList_append,
            List.length_append, List.length_append, List.map_cons, List.flatten_cons,
            List.length_append, List.length_cons, blank]
          omega

/-- The text of a bare word is bare where a tilde is the home directory. -/
theorem isBare_of_fieldAt {word : Word} (bare : word.IsBare) (done : word.fieldAt "~" = .ok text) :
    IsBare text := by
  obtain ⟨letters, noPattern, tilde⟩ := of_fieldAt_tilde done
  constructor
  · rw [letters]
    exact mt List.map_eq_nil_iff.mp bare.notEmpty
  · rw [letters]
    intro c mem
    obtain ⟨letter, here, rfl⟩ := List.mem_map.mp mem
    obtain ⟨unquoted, unmarked⟩ := bare.plain letter here
    rw [List.mem_append, not_or]
    exact ⟨unmarked, noPattern letter here unquoted⟩
  · rw [letters, List.head?_map]
    intro head
    obtain ⟨letter, here, comment⟩ := Option.map_eq_some_iff.mp head
    exact bare.noComment letter here comment
  · intro c rest begins
    rw [letters] at begins
    obtain ⟨first, others, rfl, isTilde, more⟩ := List.map_eq_cons_iff.mp begins
    obtain ⟨second, others, rfl, rfl, _⟩ := List.map_eq_cons_iff.mp more
    obtain ⟨char, quoted⟩ := first
    cases isTilde
    cases (bare.plain _ List.mem_cons_self).1
    rw [tilde second others rfl]

theorem isBare_of_fields {words : List Word}
    (fields : List.Forall₂ (fun word text => word.fieldAt "~" = .ok text) words texts)
    (bare : ∀ word ∈ words, word.IsBare) : ∀ text ∈ texts, IsBare text := by
  induction fields with
  | nil => simp
  | cons done _ ih =>
      obtain ⟨here, behind⟩ := List.forall_mem_cons.mp bare
      exact List.forall_mem_cons.mpr ⟨isBare_of_fieldAt here done, ih behind⟩

theorem letters_of_fields {words : List Word}
    (fields : List.Forall₂ (fun word text => word.fieldAt "~" = .ok text) words texts) :
    words.flatten.map (·.char) = (texts.map String.toList).flatten := by
  induction fields with
  | nil => rfl
  | cons done _ ih =>
      rw [List.flatten_cons, List.map_append, ih, List.map_cons, List.flatten_cons,
        (of_fieldAt_tilde done).1]

theorem isBare_of_splitAt (notEmpty : texts ≠ [])
    (same : splitAt "~" (" ".intercalate texts) = .ok texts) : ∀ text ∈ texts, IsBare text := by
  obtain ⟨words, read, each⟩ := bind_eq_ok.mp same
  have fields := mapM_eq_ok.mp each
  have letters := length_intercalate notEmpty
  rw [← letters_of_fields fields, List.length_map, ← fields.length_eq] at letters
  exact isBare_of_fields fields (isBare_of_tokens read (by omega))

end Join

end CloudCluster.Shell
