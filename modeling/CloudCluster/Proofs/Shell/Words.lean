import CloudCluster.Proofs.Except

/-!
The words of a shell command.

A `Reader` goes through a text as a POSIX shell does when it recognises tokens: blanks end
a word, and quotes and backslashes take the meaning from what they quote. `Word.field` then
removes the quotes. What would make more of a text than words is an `Obstacle`: an
operator, a comment, an expansion, a name with a pattern in it or with a tilde in front.
So `split` has a result exactly where a shell runs one command with these words as they
are. It is no part of the program: it is what texts written for a shell are held against.

Two commands one after the other are read one after the other (`split_join`), since what
was read before does not matter to what comes next (`step_behind`).
-/

namespace CloudCluster.Shell

/-- A character of a word, and whether it is quoted. -/
structure Letter where
  char : Char
  quoted : Bool
  deriving DecidableEq, Repr

/-- A word with its quotes taken off, but not forgotten. -/
abbrev Word := List Letter

/-- What a shell can do with a text other than read words from it. -/
inductive Obstacle where
  /-- A quotation has no end, or nothing is behind a backslash. -/
  | unclosed
  /-- No text that is handed to a shell has this character. -/
  | nul
  /-- The rest of the line is skipped. -/
  | comment
  /-- The command ends here, or is redirected. -/
  | operator (char : Char)
  /-- A parameter, or what a command prints, takes this place. -/
  | expansion (char : Char)
  /-- The names of files take the place of the word. -/
  | pattern (char : Char)
  /-- A home directory takes the place of the word's beginning. -/
  | home
  deriving DecidableEq, Repr

/-- How characters are read: bare, behind a bare backslash, between single quotes, between
double quotes, and behind a backslash there. -/
inductive Mode where
  | bare
  | escaped
  | single
  | double
  | doubleEscaped
  deriving DecidableEq, Repr

/-- What was read: the words that have ended, and the one that has not. A word begins with
its first character, or with a quote. -/
structure Reader where
  mode : Mode := .bare
  word : Option Word := none
  words : List Word := []
  deriving DecidableEq, Repr

/-- The characters between words. -/
def blanks : List Char := [' ', '\t']

/-- The characters that end a command or redirect it. -/
def operators : List Char := ['\n', ';', '&', '|', '(', ')', '<', '>']

/-- The characters that begin an expansion, between double quotes as well. -/
def expansions : List Char := ['$', '\x60']

/-- The characters that a backslash quotes between double quotes. -/
def escapable : List Char := ['$', '\x60', '"', '\\']

/-- The characters that make a pattern of a word. -/
def patterns : List Char := ['*', '?', '[']

/-- The characters that are in no word without quotes. -/
def marks : List Char :=
  ['\x00', '\'', '"', '\\'] ++ blanks ++ operators ++ expansions

namespace Reader

/-- Takes a character into the word. -/
def add (reader : Reader) (char : Char) (quoted : Bool) : Reader :=
  { reader with word := some (reader.word.getD [] ++ [⟨char, quoted⟩]) }

/-- Goes on between quotes; they make a word even if nothing is between them. -/
def enter (reader : Reader) (mode : Mode) : Reader :=
  { reader with mode, word := some (reader.word.getD []) }

/-- Goes on in another mode. -/
def within (reader : Reader) (mode : Mode) : Reader :=
  { reader with mode }

/-- Ends the word, if there is one. -/
def endWord (reader : Reader) : Reader :=
  { reader with word := none, words := reader.words ++ reader.word.toList }

/-- Reads a character that is not quoted. -/
def stepBare (reader : Reader) (c : Char) : Except Obstacle Reader :=
  if c ∈ blanks then .ok reader.endWord
  else if c ∈ operators then .error (.operator c)
  else if c ∈ expansions then .error (.expansion c)
  else if c = '#' && reader.word.isNone then .error .comment
  else if c = '\'' then .ok (reader.enter .single)
  else if c = '"' then .ok (reader.enter .double)
  else if c = '\\' then .ok (reader.within .escaped)
  else .ok (reader.add c false)

/-- Reads a character. A newline behind a backslash joins two lines; between double quotes
a backslash stands for itself in front of most characters. -/
def step (reader : Reader) (c : Char) : Except Obstacle Reader :=
  if c = '\x00' then .error .nul
  else match reader.mode with
    | .bare => reader.stepBare c
    | .escaped =>
      if c = '\n' then .ok (reader.within .bare)
      else .ok ((reader.add c true).within .bare)
    | .single => if c = '\'' then .ok (reader.within .bare) else .ok (reader.add c true)
    | .double =>
      if c = '"' then .ok (reader.within .bare)
      else if c ∈ expansions then .error (.expansion c)
      else if c = '\\' then .ok (reader.within .doubleEscaped)
      else .ok (reader.add c true)
    | .doubleEscaped =>
      if c = '\n' then .ok (reader.within .double)
      else if c ∈ escapable then .ok ((reader.add c true).within .double)
      else .ok (((reader.add '\\' true).add c true).within .double)

/-- Reads characters. -/
def read (reader : Reader) (text : List Char) : Except Obstacle Reader :=
  text.foldlM step reader

/-- The words of a text that has been read to its end. -/
def finish (reader : Reader) : Except Obstacle (List Word) :=
  match reader.mode with
  | .bare => .ok reader.endWord.words
  | _ => .error .unclosed

end Reader

/-- The words of a text. -/
def tokens (text : String) : Except Obstacle (List Word) := do
  (← Reader.read {} text.toList).finish

/-- The text of a word that nothing else takes the place of. -/
def Word.field (word : Word) : Except Obstacle String :=
  if word.head? = some ⟨'~', false⟩ then .error .home
  else match word.find? fun letter => !letter.quoted && patterns.contains letter.char with
    | some letter => .error (.pattern letter.char)
    | none => .ok (String.ofList (word.map (·.char)))

/-- The text of a word. -/
def Word.text (word : Word) : String :=
  String.ofList (word.map (·.char))

/-- The words of a command, as they reach the program that is called. -/
def split (text : String) : Except Obstacle (List String) := do
  (← tokens text).mapM Word.field

/-- A word that has a text has its own. -/
theorem field_eq_ok {word : Word} {field : String} : word.field = .ok field ↔
    word.head? ≠ some ⟨'~', false⟩ ∧
      (∀ letter ∈ word, letter.quoted = false → letter.char ∉ patterns) ∧ field = word.text := by
  have ofPatterns : word.find? (fun letter => !letter.quoted && patterns.contains letter.char) =
      none ↔ ∀ letter ∈ word, letter.quoted = false → letter.char ∉ patterns := by
    simp only [List.find?_eq_none, Bool.and_eq_true, Bool.not_eq_true', List.contains_iff_mem,
      not_and]
  rw [← ofPatterns, Word.field]
  split
  · next tilde => simp only [tilde, reduceCtorEq, ne_eq, not_true_eq_false, false_and]
  · next noTilde =>
    split
    · next found => simp only [found, reduceCtorEq, false_and, and_false]
    · next none => simp only [none, ne_eq, noTilde, not_false_eq_true, true_and, Word.text,
        Except.ok.injEq, eq_comm]

namespace Reader

variable {reader : Reader}

theorem read_cons (reader : Reader) (c : Char) (rest : List Char) :
    reader.read (c :: rest) = reader.step c >>= (·.read rest) :=
  List.foldlM_cons

theorem read_append (reader : Reader) (first second : List Char) :
    reader.read (first ++ second) = reader.read first >>= (·.read second) :=
  List.foldlM_append

/-! ### Characters without a meaning -/

theorem step_of_plain {c : Char} (bare : reader.mode = .bare) (plain : c ∉ marks)
    (noComment : reader.word = none → c ≠ '#') : reader.step c = .ok (reader.add c false) := by
  simp only [marks, List.mem_append, not_or] at plain
  obtain ⟨⟨⟨others, notBlank⟩, notOperator⟩, notExpansion⟩ := plain
  simp only [List.mem_cons, List.not_mem_nil, or_false, not_or] at others
  have noComment : ¬ (c = '#' ∧ reader.word = none) := fun ⟨here, first⟩ => noComment first here
  simp [step, bare, stepBare, notBlank, notOperator, notExpansion, noComment, others]

theorem read_of_plain {s : List Char} {word : Word} {words : List Word} (plain : ∀ c ∈ s, c ∉ marks) :
    read ⟨.bare, some word, words⟩ s = .ok ⟨.bare, some (word ++ s.map (⟨·, false⟩)), words⟩ := by
  induction s generalizing word with
  | nil => simp [read, pure, Except.pure]
  | cons c rest ih =>
      obtain ⟨here, behind⟩ := List.forall_mem_cons.mp plain
      rw [read_cons, step_of_plain rfl here (by simp)]
      refine (ih behind).trans ?_
      simp

/-! ### What was read before -/

/-- The reader with words in front of its own. -/
def behind (words : List Word) (reader : Reader) : Reader :=
  { reader with words := words ++ reader.words }

theorem stepBare_behind (words : List Word) (reader : Reader) (c : Char) :
    (reader.behind words).stepBare c = (reader.stepBare c).map (behind words) := by
  simp [stepBare, apply_ite (Except.map (behind words)), behind, endWord, enter, within, add]

/-- Words that have ended are no matter to the next character. -/
theorem step_behind (words : List Word) (reader : Reader) (c : Char) :
    (reader.behind words).step c = (reader.step c).map (behind words) := by
  unfold step
  rw [apply_ite (Except.map (behind words)), show (reader.behind words).mode = reader.mode from rfl]
  cases reader.mode with
  | bare => simp [stepBare_behind]
  | _ => simp [apply_ite (Except.map (behind words)), behind, within, add]

theorem read_behind (words : List Word) (reader : Reader) (text : List Char) :
    (reader.behind words).read text = (reader.read text).map (behind words) := by
  induction text generalizing reader with
  | nil => rfl
  | cons c rest ih =>
      rw [read_cons, read_cons, step_behind]
      cases reader.step c with
      | error obstacle => rfl
      | ok next => exact ih next

theorem finish_behind (words : List Word) (reader : Reader) :
    (reader.behind words).finish = reader.finish.map (words ++ ·) := by
  obtain ⟨mode, word, before⟩ := reader
  cases mode <;> simp [finish, behind, endWord]

/-- A blank behind a text that can end there ends its last word. -/
theorem step_blank {words : List Word} (done : reader.finish = .ok words) :
    reader.step ' ' = .ok (behind words {}) := by
  obtain ⟨mode, word, before⟩ := reader
  cases mode with
  | bare =>
      cases done
      simp [step, stepBare, blanks, endWord, behind]
  | _ => cases done

end Reader

/-! ### Texts side by side -/

section Join

variable {first second : String}

theorem tokens_join {words words' : List Word} (ofFirst : tokens first = .ok words)
    (ofSecond : tokens second = .ok words') :
    tokens (first ++ " " ++ second) = .ok (words ++ words') := by
  obtain ⟨reader, read, done⟩ := bind_eq_ok.mp ofFirst
  obtain ⟨reader', read', done'⟩ := bind_eq_ok.mp ofSecond
  have blank : reader.read " ".toList = .ok (Reader.behind words {}) := by
    rw [show " ".toList = [' '] from rfl, Reader.read_cons, Reader.step_blank done]
    rfl
  unfold tokens
  rw [String.toList_append, String.toList_append]
  refine bind_eq_ok.mpr ⟨reader'.behind words, ?_, ?_⟩
  · rw [Reader.read_append, Reader.read_append, read]
    refine bind_eq_ok.mpr ⟨_, blank, ?_⟩
    rw [Reader.read_behind, read', map_ok]
  · rw [Reader.finish_behind, done', map_ok]

/-- The words of two texts with a blank between them are the words of both. -/
theorem split_join {fields fields' : List String} (ofFirst : split first = .ok fields)
    (ofSecond : split second = .ok fields') :
    split (first ++ " " ++ second) = .ok (fields ++ fields') := by
  obtain ⟨words, ofFirst, each⟩ := bind_eq_ok.mp ofFirst
  obtain ⟨words', ofSecond, each'⟩ := bind_eq_ok.mp ofSecond
  refine bind_eq_ok.mpr ⟨words ++ words', tokens_join ofFirst ofSecond, ?_⟩
  rw [List.mapM_append, each, each']
  rfl

end Join

example : split "ssh -i 'my key' a\"'\"\\ b ''" = .ok ["ssh", "-i", "my key", "a' b", ""] := rfl

end CloudCluster.Shell
