import CloudCluster.Config.Build
import CloudCluster.Proofs.Shell.Words

/-!
A quoted text is one word of a shell command.

Safe characters mean nothing to a shell and need no quotes; between single quotes nothing
has a meaning but the quote that ends them, and `quoteBody` leaves them for each quote in
the text (`read_quoteBody`). So a quoted text is read as one word whose letters are its
characters (`tokens_quote`), wherever words of a command stand (`words_of_quoted`).
-/

namespace CloudCluster.Shell

/-- The characters that have a meaning to a shell outside quotes. -/
def specials : List Char :=
  ['\x00', '#', '\'', '"', '\\', '~'] ++ blanks ++ operators ++ expansions ++ patterns

/-- The letters that a quoted text is read in: all of them are quoted, or none needs to be. -/
def letters (s : List Char) : Word :=
  s.map fun c => ⟨c, !s.all isSafe⟩

variable {s : List Char} {c : Char} {word : Word} {words : List Word}

theorem not_isSafe_specials : specials.all (fun c => !isSafe c) = true := by
  decide

theorem ne_of_isSafe (safe : isSafe c = true) : ∀ d ∈ specials, c ≠ d := by
  rintro d mem rfl
  have notSafe := List.all_eq_true.mp not_isSafe_specials c mem
  simp [safe] at notSafe

theorem subset_specials : marks ++ patterns ⊆ specials := by
  decide

theorem unmarked_of_isSafe (safe : isSafe c = true) : c ∉ marks := fun marked =>
  ne_of_isSafe safe c (subset_specials (List.mem_append_left _ marked)) rfl

namespace Reader

/-! ### Text between quotes -/

/-- A quote leaves the single quotes, is read between double quotes, and enters them again. -/
theorem read_quotedQuote :
    read ⟨.single, some word, words⟩ "'\"'\"'".toList =
      .ok ⟨.single, some (word ++ [⟨'\'', true⟩]), words⟩ := by
  rfl

theorem step_single (notNul : c ≠ '\x00') (notQuote : c ≠ '\'') :
    step ⟨.single, some word, words⟩ c = .ok ⟨.single, some (word ++ [⟨c, true⟩]), words⟩ := by
  simp [step, notNul, notQuote, add]

theorem read_quoteBody (noNul : '\x00' ∉ s) :
    read ⟨.single, some word, words⟩ (quoteBody s) =
      .ok ⟨.single, some (word ++ s.map (⟨·, true⟩)), words⟩ := by
  induction s generalizing word with
  | nil => simp [quoteBody, read, pure, Except.pure]
  | cons c rest ih =>
      obtain ⟨notNul, noNul⟩ := List.ne_and_not_mem_of_not_mem_cons noNul
      rw [quoteBody]
      split
      · next quote =>
        rw [read_append, read_quotedQuote]
        refine (ih noNul).trans ?_
        simp [quote]
      · next notQuote =>
        rw [read_cons, step_single (Ne.symm notNul) notQuote]
        refine (ih noNul).trans ?_
        simp

theorem read_quoteChars (noNul : '\x00' ∉ s) :
    read ⟨.bare, none, words⟩ (quoteChars s) = .ok ⟨.bare, some (letters s), words⟩ := by
  unfold quoteChars
  cases s with
  | nil => rfl
  | cons c rest =>
      cases safe : (c :: rest).all isSafe with
      | true =>
          obtain ⟨first, others⟩ := Bool.and_eq_true_iff.mp safe
          have noComment : c ≠ '#' := ne_of_isSafe first _ (by decide)
          have unmarked : ∀ d ∈ rest, d ∉ marks := fun d mem =>
            unmarked_of_isSafe (List.all_eq_true.mp others d mem)
          rw [if_neg (by simp), if_pos rfl, read_cons,
            step_of_plain rfl (unmarked_of_isSafe first) fun _ => noComment]
          refine (read_of_plain unmarked).trans ?_
          simp [letters, safe]
      | false =>
          rw [if_neg (by simp), if_neg (by simp), read_append, read_append,
            show read ⟨.bare, none, words⟩ ['\''] = .ok ⟨.single, some [], words⟩ from rfl]
          refine bind_eq_ok.mpr ⟨_, read_quoteBody noNul, ?_⟩
          simp only [letters, safe]
          rfl

end Reader

/-! ### Words -/

theorem tokens_quote {text : String} (noNul : '\x00' ∉ text.toList) :
    tokens (quote text) = .ok [letters text.toList] := by
  unfold tokens quote
  rw [String.toList_ofList, Reader.read_quoteChars noNul]
  rfl

/-- A word is read as it is if its letters are quoted or have no meaning. -/
theorem field_of_plain (plain : ∀ letter ∈ word, letter.quoted = true ∨ letter.char ∉ specials) :
    word.field = .ok word.text := by
  have noTilde : word.head? ≠ some ⟨'~', false⟩ := by
    intro head
    rcases plain _ (List.mem_of_head? head) with quoted | meaningless
    · cases quoted
    · exact meaningless (by decide)
  refine field_eq_ok.mpr ⟨noTilde, fun letter mem unquoted pattern => ?_, rfl⟩
  rcases plain letter mem with quoted | meaningless
  · rw [unquoted] at quoted
    cases quoted
  · exact meaningless (List.mem_append_right _ pattern)

theorem field_letters (s : List Char) : Word.field (letters s) = .ok (String.ofList s) := by
  rw [field_of_plain, Word.text, letters, List.map_map]
  · simp [Function.comp_def]
  · intro letter mem
    obtain ⟨c, here, rfl⟩ := List.mem_map.mp mem
    cases safe : s.all isSafe with
    | false => exact Or.inl rfl
    | true =>
        refine Or.inr fun special => ?_
        exact ne_of_isSafe (List.all_eq_true.mp safe c here) c special rfl

theorem split_quote {text : String} (noNul : '\x00' ∉ text.toList) :
    split (quote text) = .ok [text] := by
  refine bind_eq_ok.mpr ⟨_, tokens_quote noNul, ?_⟩
  rw [List.mapM_cons, field_letters, String.ofList_toList]
  rfl

/-! ### Plain texts -/

/-- A text that means nothing to a shell. -/
def IsPlain (text : String) : Prop :=
  text ≠ "" ∧ text.toList.all isSafe = true

instance (text : String) : Decidable (IsPlain text) :=
  inferInstanceAs (Decidable (_ ∧ _))

section Plain

variable {text : String}

theorem IsPlain.quote_eq (plain : IsPlain text) : quote text = text := by
  have notEmpty : text.toList.isEmpty = false := by
    simpa [String.toList_eq_nil_iff] using plain.1
  rw [quote, quoteChars, notEmpty, plain.2]
  simp

theorem IsPlain.noNul (plain : IsPlain text) : '\x00' ∉ text.toList := fun mem =>
  ne_of_isSafe (List.all_eq_true.mp plain.2 _ mem) _ (by decide) rfl

theorem IsPlain.split_eq (plain : IsPlain text) : split text = .ok [text] := by
  have quoted := split_quote plain.noNul
  rwa [plain.quote_eq] at quoted

end Plain

/-! ### Commands -/

/-- A quoted text without NUL is one word of a command, whatever its characters are and
whatever stands around it: nothing is expanded, redirected, skipped or run because of it.
So the command of a proxy has five words, of which the address is one. -/
theorem words_of_quoted (text : String) (noNul : '\x00' ∉ text.toList) :
    split (quote text) = .ok [text] ∧
    (∀ before after fields fields', split before = .ok fields → split after = .ok fields' →
      split (before ++ " " ++ quote text ++ " " ++ after) = .ok (fields ++ text :: fields')) ∧
    split (proxyCommand text) = .ok ["nc", "-x", text, "%h", "%p"] := by
  have alone := split_quote noNul
  have among (before after : String) (fields fields' : List String)
      (ofBefore : split before = .ok fields) (ofAfter : split after = .ok fields') :
      split (before ++ " " ++ quote text ++ " " ++ after) = .ok (fields ++ text :: fields') := by
    rw [split_join (split_join ofBefore alone) ofAfter]
    simp
  refine ⟨alone, among, ?_⟩
  have called : split "nc -x" = .ok ["nc", "-x"] := rfl
  have places : split "%h %p" = .ok ["%h", "%p"] := rfl
  have command : proxyCommand text = "nc -x" ++ " " ++ quote text ++ " " ++ "%h %p" := by
    simp only [proxyCommand, String.append_assoc]
    rfl
  rw [command, among _ _ _ _ called places]
  rfl

/-- An address that would run a command, were it not quoted. -/
theorem words_of_quoted_injection :
    let address := "host:1080' ; rm -rf ~/* \x60id\x60 $HOME \\ # \"прокси\"\n"
    '\x00' ∉ address.toList ∧
      split (proxyCommand address) = .ok ["nc", "-x", address, "%h", "%p"] := by
  intro address
  have noNul : '\x00' ∉ address.toList := by decide
  exact ⟨noNul, (words_of_quoted address noNul).2.2⟩

example : split "nc -x host:1080; rm -rf ~ %h %p" = .error (.operator ';') := rfl

end CloudCluster.Shell
