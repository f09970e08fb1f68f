import CloudCluster.Proofs.Tool.Launcher

/-!
The address in the launcher's output.

The launcher may write a log before it prints an address. Only the last line that is not
blank counts, and of that only what stands between its white space
(`parseAddress_reads_last_word`); so an address is read as it was printed, whatever stands in
the lines before it and however many blank ones follow.
-/

namespace CloudCluster.Tool.Launcher

/-- There is nothing but white space in a text. -/
def Blank (text : String) : Prop :=
  ∀ c ∈ text.toList, Text.isBlank c = true

/-- There is nothing but white space in a text, and all on one line. -/
def BlankInLine (text : String) : Prop :=
  Blank text ∧ '\n' ∉ text.toList

instance (text : String) : Decidable (Blank text) :=
  List.decidableBAll _ _

instance (text : String) : Decidable (BlankInLine text) :=
  inferInstanceAs (Decidable (_ ∧ _))

variable {out address : String}

theorem blank_ofList_iff {line : List Char} :
    Blank (String.ofList line) ↔ Text.trim line = [] := by
  rw [Blank, String.toList_ofList, Text.trim_eq_nil_iff]

theorem words_eq_nil_iff :
    Text.words out.toList = [] ↔ ∀ line ∈ Text.linesOf out, Blank line := by
  simp only [Text.words_eq_nil_iff, Text.linesOf, List.forall_mem_map, Blank,
    String.toList_ofList]

/-- The address is what the last line says that is not blank. -/
theorem parseAddress_eq_ok_iff_line : parseAddress out = .ok address ↔
    ∃ before line after, Text.linesOf out = before ++ line :: after ∧ ¬ Blank line ∧
      (∀ later ∈ after, Blank later) ∧ Text.trimText line = address := by
  rw [parseAddress_eq_ok_iff, Text.getLast?_words_iff]
  constructor
  · rintro ⟨before, line, after, split, word, something, blank⟩
    refine ⟨before.map String.ofList, String.ofList line, after.map String.ofList, ?_, ?_, ?_, ?_⟩
    · rw [Text.linesOf, split, List.map_append, List.map_cons]
    · rw [blank_ofList_iff, word]
      exact something
    · exact List.forall_mem_map.mpr fun later mem => blank_ofList_iff.mpr (blank later mem)
    · rw [Text.trimText, String.toList_ofList, word, String.ofList_toList]
  · rintro ⟨_, _, _, split, something, blank, rfl⟩
    obtain ⟨before, rest, same, rfl, behind⟩ := List.map_eq_append_iff.mp split
    obtain ⟨line, after, rfl, rfl, rfl⟩ := List.map_eq_cons_iff.mp behind
    rw [blank_ofList_iff] at something
    refine ⟨before, line, after, same, ?_, ?_, ?_⟩
    · rw [Text.trimText, String.toList_ofList, String.toList_ofList]
    · rwa [Text.trimText, String.toList_ofList, String.toList_ofList]
    · exact fun later mem => blank_ofList_iff.mp (List.forall_mem_map.mp blank later mem)

theorem isWord_of_address (parsed : parseAddress out = .ok address) :
    Text.IsWord address.toList := by
  obtain ⟨before, line, after, split, word, something, _⟩ :=
    Text.getLast?_words_iff.mp (parseAddress_eq_ok_iff.mp parsed)
  have inside : line ∈ Text.lines out.toList := by
    rw [split]
    exact List.mem_append_right _ List.mem_cons_self
  rw [← word] at something ⊢
  exact .of_trim (Text.noFeed_of_mem_lines inside) something

/-- An address is read from the end of the output. -/
theorem parseAddress_behind {log before behind rest : String}
    (word : Text.IsWord address.toList) (blankBefore : BlankInLine before)
    (blankBehind : BlankInLine behind) (blankRest : Blank rest) :
    parseAddress (log ++ "\n" ++ before ++ address ++ behind ++ "\n" ++ rest) = .ok address := by
  have noFeed : '\n' ∉ before.toList ++ address.toList ++ behind.toList := by
    simp [blankBefore.2, word.noFeed, blankBehind.2]
  have line : Text.words (before.toList ++ address.toList ++ behind.toList) = [address.toList] := by
    rw [Text.words_of_noFeed noFeed, word.trim_between blankBefore.1 blankBehind.1,
      if_neg word.notEmpty]
  have text : (log ++ "\n" ++ before ++ address ++ behind ++ "\n" ++ rest).toList =
      log.toList ++ '\n' :: ((before.toList ++ address.toList ++ behind.toList) ++
        '\n' :: rest.toList) := by
    simp
  rw [parseAddress_eq_ok_iff, text, Text.words_append, Text.words_append, line,
    Text.words_of_blank blankRest, List.append_nil, List.getLast?_concat]

/-- The launcher's output has no address, which is an error about it, iff each of its lines
is blank. The address is what the last of the others says without the white space around it:
it is not empty, stands on one line and neither begins nor ends with white space. What is
printed so is read back, whatever was printed before it and however blank the rest is. -/
theorem parseAddress_reads_last_word (out : String) :
    (∀ error, parseAddress out = .error error ↔
      error = .invalidOutput "no head node address printed" ∧
        ∀ line ∈ Text.linesOf out, Blank line) ∧
    (∀ address, parseAddress out = .ok address ↔
      ∃ before line after, Text.linesOf out = before ++ line :: after ∧ ¬ Blank line ∧
        (∀ later ∈ after, Blank later) ∧ Text.trimText line = address) ∧
    (∀ address, parseAddress out = .ok address → Text.IsWord address.toList) ∧
    ∀ log before address behind rest, Text.IsWord address.toList → BlankInLine before →
      BlankInLine behind → Blank rest →
      parseAddress (log ++ "\n" ++ before ++ address ++ behind ++ "\n" ++ rest) =
        .ok address := by
  refine ⟨?_, ?_, ?_, ?_⟩
  · intro error
    rw [parseAddress_eq_error_iff, words_eq_nil_iff]
  · intro address
    exact parseAddress_eq_ok_iff_line
  · intro address parsed
    exact isWord_of_address parsed
  · intro log before address behind rest word blankBefore blankBehind blankRest
    exact parseAddress_behind word blankBefore blankBehind blankRest

/-- A log with a carriage return in it, an indented address before another, and blank lines
behind the last. -/
theorem parseAddress_behind_log :
    parseAddress ("up\r to date\n 10.0.0.1" ++ "\n" ++ "\t" ++ "fe80::1 (eth0)" ++ " \r" ++
      "\n" ++ "\n \x0b\n") = .ok "fe80::1 (eth0)" ∧
    Text.IsWord "fe80::1 (eth0)".toList := by
  have word : Text.IsWord "fe80::1 (eth0)".toList := by
    refine ⟨by decide, by decide, ?_, ?_⟩
    · intro c first
      cases first
      decide
    · intro c last
      cases last
      decide
  have parsed := (parseAddress_reads_last_word "").2.2.2 "up\r to date\n 10.0.0.1" "\t"
    "fe80::1 (eth0)" " \r" "\n \x0b\n" word (by decide) (by decide) (by decide)
  exact ⟨parsed, (parseAddress_reads_last_word _).2.2.1 _ parsed⟩

end CloudCluster.Tool.Launcher
