import CloudCluster.Proofs.Shell.Quote
import Mathlib.Control.Monad.Basic

/-!
Percent tokens in the command of a proxy.

Before a shell sees the command, ssh puts the host in the place of `%h`, the port in the place
of `%p` and a percent sign in the place of `%%`, between quotes as anywhere else. What it puts
there needs no quotes, so it does not matter whether a text is quoted before or after that
(`expand_quote`). The address of the proxy is part of the command: the shell hands on what is
left of it when its own percent signs have been read as tokens. It is the address that was
given iff none of them begins a token (`proxy_reached_iff`).

Only these three tokens are modelled, and a percent sign before any other letter stands for
itself. This is an assumption about ssh, which has more tokens and refuses a letter that
belongs to none. So of an address with such a percent sign it is shown here what the quotes
do for it, but not that ssh gets as far as the shell.
-/

namespace CloudCluster.Shell

/-- What is put in the place of a percent sign and a letter. -/
abbrev Tokens := Char → Option (List Char)

/-- Puts texts in the place of tokens, from left to right. A percent sign before any other
letter is taken to stand for itself; ssh refuses it, if it has no other token there. -/
def expandChars (tokens : Tokens) : List Char → List Char
  | [] => []
  | [c] => [c]
  | c :: d :: rest =>
    if c = '%' then
      match tokens d with
      | some text => text ++ expandChars tokens rest
      | none => c :: expandChars tokens (d :: rest)
    else c :: expandChars tokens (d :: rest)

/-- The tokens in the command of a proxy. The others that ssh knows are not modelled. -/
def proxyTokens (host port : String) : Tokens
  | 'h' => some host.toList
  | 'p' => some port.toList
  | '%' => some ['%']
  | _ => none

/-- The command of a proxy as a shell gets it, to reach a port of a host. -/
def expand (host port text : String) : String :=
  String.ofList (expandChars (proxyTokens host port) text.toList)

/-! ### Tokens -/

section Tokens

variable {tokens : Tokens} {s t rest : List Char} {c : Char}

/-- A character stands for itself in front of a text: no token begins with it. -/
def Literal (tokens : Tokens) (c : Char) (rest : List Char) : Prop :=
  c = '%' → ∀ d ∈ rest.head?, tokens d = none

theorem expandChars_token {text : List Char} (token : tokens c = some text) (rest : List Char) :
    expandChars tokens ('%' :: c :: rest) = text ++ expandChars tokens rest := by
  rw [expandChars, if_pos rfl, token]

theorem expandChars_literal (literal : Literal tokens c rest) :
    expandChars tokens (c :: rest) = c :: expandChars tokens rest := by
  cases rest with
  | nil => rfl
  | cons d rest =>
      rw [expandChars]
      split
      · next percent => rw [literal percent d rfl]
      · rfl

/-- A text is empty, or begins with a token or with a character that stands for itself. -/
@[elab_as_elim]
theorem tokens_induction {motive : List Char → Prop} (tokens : Tokens) (nil : motive [])
    (token : ∀ c text rest, tokens c = some text → motive rest → motive ('%' :: c :: rest))
    (literal : ∀ c rest, Literal tokens c rest → motive rest → motive (c :: rest))
    (s : List Char) : motive s := by
  induction s using expandChars.induct tokens with
  | case1 => exact nil
  | case2 c => exact literal c [] (fun _ _ mem => by cases mem) nil
  | case3 d rest text found ih => exact token d text rest found ih
  | case4 d rest missing ih =>
      exact literal '%' (d :: rest) (fun _ _ mem => Option.some.inj mem ▸ missing) ih
  | case5 c d rest other ih => exact literal c (d :: rest) (fun percent => absurd percent other) ih

/-- What stands behind a text does not matter to it if no token lies across. -/
theorem Literal.append (literal : Literal tokens c rest) (across : ∀ d ∈ t.head?, tokens d = none) :
    Literal tokens c (rest ++ t) := by
  intro percent d mem
  cases rest with
  | nil => exact across d mem
  | cons e rest => exact literal percent d mem

theorem expandChars_append (s : List Char) (across : ∀ d ∈ t.head?, tokens d = none) :
    expandChars tokens (s ++ t) = expandChars tokens s ++ expandChars tokens t := by
  induction s using tokens_induction tokens with
  | nil => rfl
  | token c text rest found ih =>
      rw [expandChars_token found, List.append_assoc, ← ih]
      exact expandChars_token found _
  | literal c rest literal ih =>
      rw [expandChars_literal literal, List.cons_append, List.cons_append,
        expandChars_literal (literal.append across), ih]

theorem expandChars_append_of_percentless (noPercent : '%' ∉ s) (t : List Char) :
    expandChars tokens (s ++ t) = s ++ expandChars tokens t := by
  induction s with
  | nil => rfl
  | cons c rest ih =>
      obtain ⟨other, behind⟩ := List.ne_and_not_mem_of_not_mem_cons noPercent
      rw [List.cons_append, expandChars_literal fun percent => absurd percent.symm other, ih behind,
        List.cons_append]

/-- No percent sign in a text begins a token. -/
def TokenFree (tokens : Tokens) (s : List Char) : Prop :=
  ∀ c, tokens c ≠ none → ¬ ['%', c] <:+: s

theorem expandChars_of_tokenFree (free : TokenFree tokens s) : expandChars tokens s = s := by
  induction s using tokens_induction tokens with
  | nil => rfl
  | token c text rest found _ =>
      have here : ['%', c] <:+: '%' :: c :: rest := (List.prefix_append ['%', c] rest).isInfix
      exact absurd here (free c (by simp [found]))
  | literal c rest literal ih =>
      rw [expandChars_literal literal]
      exact congrArg (c :: ·) (ih fun d token mem => free d token (List.infix_cons mem))

theorem length_expandChars_le (short : ∀ c text, tokens c = some text → text.length ≤ 1)
    (s : List Char) : (expandChars tokens s).length ≤ s.length := by
  induction s using tokens_induction tokens with
  | nil => exact Nat.le_refl 0
  | token c text rest found ih =>
      have ofText := short c text found
      rw [expandChars_token found, List.length_append, List.length_cons, List.length_cons]
      omega
  | literal c rest literal ih =>
      rw [expandChars_literal literal, List.length_cons, List.length_cons]
      exact Nat.succ_le_succ ih

/-- Texts that are shorter than their tokens show each token. -/
theorem tokenFree_of_expandChars_eq (short : ∀ c text, tokens c = some text → text.length ≤ 1)
    (unchanged : expandChars tokens s = s) : TokenFree tokens s := by
  induction s using tokens_induction tokens with
  | nil => exact fun c _ mem => by simpa using List.infix_nil.mp mem
  | token c text rest found _ =>
      have ofText := short c text found
      have ofRest := length_expandChars_le short rest
      have lengths := congrArg List.length unchanged
      rw [expandChars_token found, List.length_append, List.length_cons, List.length_cons] at lengths
      omega
  | literal c rest literal ih =>
      rw [expandChars_literal literal] at unchanged
      have behind := ih (List.cons.inj unchanged).2
      intro d token mem
      rcases List.infix_cons_iff.mp mem with here | later
      · obtain ⟨percent, ⟨more, split⟩⟩ := List.cons_prefix_cons.mp here
        exact token (literal percent.symm d (by simp [← split]))
      · exact behind d token later

/-- What holds of the characters of a text and of those of all tokens holds of what comes out. -/
theorem forall_mem_expandChars {P : Char → Prop} (ofText : ∀ c ∈ s, P c)
    (ofTokens : ∀ c text, tokens c = some text → ∀ d ∈ text, P d) :
    ∀ c ∈ expandChars tokens s, P c := by
  induction s using tokens_induction tokens with
  | nil => exact ofText
  | token c text rest found ih =>
      rw [expandChars_token found]
      have behind := ih fun d mem =>
        ofText d (List.mem_cons_of_mem _ (List.mem_cons_of_mem _ mem))
      exact List.forall_mem_append.mpr ⟨ofTokens c text found, behind⟩
  | literal c rest literal ih =>
      obtain ⟨here, behind⟩ := List.forall_mem_cons.mp ofText
      rw [expandChars_literal literal]
      exact List.forall_mem_cons.mpr ⟨here, ih behind⟩

end Tokens

/-! ### Quotes -/

section Quotes

variable {tokens : Tokens} {s t rest : List Char} {c : Char}

/-- Tokens are written in safe characters, and so is what is put in their place. -/
structure Safe (tokens : Tokens) : Prop where
  letter : ∀ c text, tokens c = some text → isSafe c = true
  text : ∀ c text, tokens c = some text → text.all isSafe = true
  nonempty : ∀ c text, tokens c = some text → text ≠ []

theorem quoteBody_append (s t : List Char) : quoteBody (s ++ t) = quoteBody s ++ quoteBody t := by
  induction s with
  | nil => rfl
  | cons c rest ih =>
      rw [List.cons_append, quoteBody, quoteBody]
      split
      · rw [ih, List.append_assoc]
      · rw [ih, List.cons_append]

theorem quoteBody_of_safe (safe : s.all isSafe = true) : quoteBody s = s := by
  induction s with
  | nil => rfl
  | cons c rest ih =>
      obtain ⟨here, behind⟩ := Bool.and_eq_true_iff.mp safe
      have notQuote : c ≠ '\'' := ne_of_isSafe here _ (by decide)
      rw [quoteBody, if_neg notQuote, ih behind]

theorem Safe.none_of_unsafe (safe : Safe tokens) (special : isSafe c = false) :
    tokens c = none := by
  cases found : tokens c with
  | none => rfl
  | some text =>
      rw [safe.letter c text found] at special
      cases special

theorem Safe.literal_quoteBody (safe : Safe tokens) (literal : Literal tokens c rest) :
    Literal tokens c (quoteBody rest) := by
  intro percent d mem
  cases rest with
  | nil => cases mem
  | cons e rest =>
      rw [quoteBody] at mem
      split at mem
      · cases mem
        exact safe.none_of_unsafe (by decide)
      · exact literal percent d mem

/-- Tokens are read in the quotes as they are outside. -/
theorem Safe.expandChars_quoteBody (safe : Safe tokens) (s : List Char) :
    expandChars tokens (quoteBody s) = quoteBody (expandChars tokens s) := by
  induction s using tokens_induction tokens with
  | nil => rfl
  | token c text rest found ih =>
      have ofLetter : quoteBody ('%' :: c :: rest) = '%' :: c :: quoteBody rest := by
        have notQuote : c ≠ '\'' := ne_of_isSafe (safe.letter c text found) _ (by decide)
        simp [quoteBody, notQuote]
      rw [ofLetter, expandChars_token found, expandChars_token found, quoteBody_append,
        quoteBody_of_safe (safe.text c text found), ih]
  | literal c rest literal ih =>
      rw [expandChars_literal literal, quoteBody, quoteBody]
      split
      · rw [expandChars_append_of_percentless (by decide), ih]
      · rw [expandChars_literal (safe.literal_quoteBody literal), ih]

theorem Safe.mem_expandChars (safe : Safe tokens) (special : isSafe c = false) (mem : c ∈ s) :
    c ∈ expandChars tokens s := by
  have differs {d : Char} (safe : isSafe d = true) : c ≠ d := by
    rintro rfl
    rw [special] at safe
    cases safe
  induction s using tokens_induction tokens with
  | nil => cases mem
  | token d text rest found ih =>
      have behind : c ∈ rest := by
        simpa [differs (show isSafe '%' = true by decide), differs (safe.letter d text found)]
          using mem
      rw [expandChars_token found]
      exact List.mem_append_right _ (ih behind)
  | literal d rest literal ih =>
      rw [expandChars_literal literal]
      rcases List.mem_cons.mp mem with rfl | behind
      · exact List.mem_cons_self
      · exact List.mem_cons_of_mem _ (ih behind)

theorem Safe.expandChars_ne_nil (safe : Safe tokens) (notNil : s ≠ []) :
    expandChars tokens s ≠ [] := by
  induction s using tokens_induction tokens with
  | nil => exact absurd rfl notNil
  | token c text rest found _ =>
      rw [expandChars_token found]
      exact List.append_ne_nil_of_left_ne_nil (safe.nonempty c text found) _
  | literal c rest literal _ =>
      rw [expandChars_literal literal]
      exact List.cons_ne_nil _ _

/-- A text may be quoted before or after tokens in it are replaced. -/
theorem Safe.expandChars_quoteChars (safe : Safe tokens) (s : List Char) :
    expandChars tokens (quoteChars s) = quoteChars (expandChars tokens s) := by
  by_cases empty : s = []
  · subst empty
    rfl
  · have notEmpty : s.isEmpty = false := by simpa using empty
    have notEmpty' : (expandChars tokens s).isEmpty = false := by
      simpa using safe.expandChars_ne_nil empty
    unfold quoteChars
    rw [notEmpty, notEmpty']
    cases whole : s.all isSafe with
    | true =>
        have whole' : (expandChars tokens s).all isSafe = true := by
          rw [List.all_eq_true] at whole ⊢
          exact forall_mem_expandChars whole fun c text found =>
            List.all_eq_true.mp (safe.text c text found)
        simp [whole']
    | false =>
        obtain ⟨c, mem, special⟩ := List.all_eq_false.mp whole
        have whole' : (expandChars tokens s).all isSafe = false :=
          List.all_eq_false.mpr ⟨c, safe.mem_expandChars (Bool.eq_false_iff.mpr special) mem, special⟩
        have closed : ∀ d ∈ ['\''].head?, tokens d = none := by
          simpa using safe.none_of_unsafe (c := '\'') (by decide)
        simp only [whole', Bool.false_eq_true, if_false]
        rw [expandChars_append _ closed, expandChars_append_of_percentless (by decide),
          safe.expandChars_quoteBody]
        rfl

end Quotes

/-! ### The command of a proxy -/

section Proxy

variable {host port text address : String} {s rest : List Char} {c : Char}

theorem proxyTokens_cases {text : List Char} (found : proxyTokens host port c = some text) :
    c = 'h' ∧ text = host.toList ∨ c = 'p' ∧ text = port.toList ∨ c = '%' ∧ text = ['%'] := by
  unfold proxyTokens at found
  split at found
  · cases found
    exact .inl ⟨rfl, rfl⟩
  · cases found
    exact .inr (.inl ⟨rfl, rfl⟩)
  · cases found
    exact .inr (.inr ⟨rfl, rfl⟩)
  · cases found

theorem safe_proxyTokens (plainHost : IsPlain host) (plainPort : IsPlain port) :
    Safe (proxyTokens host port) where
  letter c text found := by
    rcases proxyTokens_cases found with ⟨rfl, _⟩ | ⟨rfl, _⟩ | ⟨rfl, _⟩ <;> decide
  text c text found := by
    rcases proxyTokens_cases found with ⟨_, rfl⟩ | ⟨_, rfl⟩ | ⟨_, rfl⟩
    · exact plainHost.2
    · exact plainPort.2
    · decide
  nonempty c text found := by
    rcases proxyTokens_cases found with ⟨_, rfl⟩ | ⟨_, rfl⟩ | ⟨_, rfl⟩
    · exact mt String.toList_eq_nil_iff.mp plainHost.1
    · exact mt String.toList_eq_nil_iff.mp plainPort.1
    · decide

theorem expand_quote (plainHost : IsPlain host) (plainPort : IsPlain port) (text : String) :
    expand host port (quote text) = quote (expand host port text) := by
  simp only [expand, quote, String.toList_ofList,
    (safe_proxyTokens plainHost plainPort).expandChars_quoteChars]

theorem expand_proxyCommand (host port address : String) :
    expand host port (proxyCommand address) =
      "nc -x" ++ " " ++ expand host port (quote address) ++ " " ++ (host ++ " " ++ port) := by
  have across : ∀ d ∈ " %h %p".toList.head?, proxyTokens host port d = none := by
    intro d mem
    cases mem
    rfl
  have places : expandChars (proxyTokens host port) " %h %p".toList =
      ' ' :: host.toList ++ ' ' :: port.toList := by
    simp [expandChars, proxyTokens]
  apply String.toList_injective
  simp only [expand, proxyCommand, String.toList_append, String.toList_ofList, List.append_assoc]
  rw [expandChars_append_of_percentless (by decide), expandChars_append _ across, places]
  simp

/-- A text without NUL makes none out of tokens that are plain. -/
theorem noNul_expand (plainHost : IsPlain host) (plainPort : IsPlain port)
    (noNul : '\x00' ∉ text.toList) : '\x00' ∉ (expand host port text).toList := by
  have ofText : ∀ c ∈ text.toList, c ≠ '\x00' := fun c mem eq => noNul (eq ▸ mem)
  have ofTokens : ∀ c text, proxyTokens host port c = some text → ∀ d ∈ text, d ≠ '\x00' :=
    fun c text found d mem =>
      ne_of_isSafe (List.all_eq_true.mp ((safe_proxyTokens plainHost plainPort).text c text found)
        d mem) _ (by decide)
  rw [expand, String.toList_ofList]
  exact fun mem => forall_mem_expandChars ofText ofTokens _ mem rfl

/-- What the program of the command is called with. -/
theorem split_proxyCommand (plainHost : IsPlain host) (plainPort : IsPlain port)
    (noNul : '\x00' ∉ address.toList) :
    split (expand host port (proxyCommand address)) =
      .ok ["nc", "-x", expand host port address, host, port] := by
  have called : split "nc -x" = .ok ["nc", "-x"] := rfl
  have ofAddress := split_quote (noNul_expand plainHost plainPort noNul)
  rw [expand_proxyCommand, expand_quote plainHost plainPort,
    split_join (split_join called ofAddress) (split_join plainHost.split_eq plainPort.split_eq)]
  rfl

theorem expand_eq_self_of_tokenFree (free : TokenFree (proxyTokens host port) address.toList) :
    expand host port address = address := by
  rw [expand, expandChars_of_tokenFree free, String.ofList_toList]

theorem tokenFree_proxyTokens_iff : TokenFree (proxyTokens host port) s ↔
    ∀ c ∈ ['h', 'p', '%'], ¬ ['%', c] <:+: s := by
  constructor
  · intro free c mem
    refine free c ?_
    simp only [List.mem_cons, List.not_mem_nil, or_false] at mem
    rcases mem with rfl | rfl | rfl <;> simp [proxyTokens]
  · intro free c token
    obtain ⟨text, found⟩ := Option.ne_none_iff_exists'.mp token
    rcases proxyTokens_cases found with ⟨rfl, _⟩ | ⟨rfl, _⟩ | ⟨rfl, _⟩ <;> exact free _ (by simp)

/-- The program of the command is called with what the tokens leave of the address. That is
the address itself, whatever the host and the port, iff no percent sign in it stands before a
letter of a token. The tokens are the three of `proxyTokens`. -/
theorem proxy_reached_iff (address : String) (noNul : '\x00' ∉ address.toList) :
    (∀ host port, IsPlain host → IsPlain port →
      split (expand host port (proxyCommand address)) =
        .ok ["nc", "-x", expand host port address, host, port]) ∧
    ((∀ host port, IsPlain host → IsPlain port →
      split (expand host port (proxyCommand address)) = .ok ["nc", "-x", address, host, port]) ↔
      ∀ c ∈ ['h', 'p', '%'], ¬ ['%', c] <:+: address.toList) := by
  refine ⟨fun host port plainHost plainPort => split_proxyCommand plainHost plainPort noNul, ?_⟩
  constructor
  · intro reached
    have plain : IsPlain "x" := by decide
    have short : ∀ c text, proxyTokens "x" "x" c = some text → text.length ≤ 1 := by
      intro c text found
      rcases proxyTokens_cases found with ⟨_, rfl⟩ | ⟨_, rfl⟩ | ⟨_, rfl⟩ <;> decide
    have same := (reached "x" "x" plain plain).symm.trans (split_proxyCommand plain plain noNul)
    have unchanged : expandChars (proxyTokens "x" "x") address.toList = address.toList := by
      have words := Except.ok.inj same
      simp only [List.cons.injEq] at words
      simpa [expand] using (congrArg String.toList words.2.2.1).symm
    exact tokenFree_proxyTokens_iff.mp (tokenFree_of_expandChars_eq short unchanged)
  · intro free host port plainHost plainPort
    rw [split_proxyCommand plainHost plainPort noNul,
      expand_eq_self_of_tokenFree (tokenFree_proxyTokens_iff.mpr free)]

/-- The zone of an address stays in it if its name begins with no letter of the three tokens.
The `%e` in it is one of those percent signs that are taken to stand for themselves; an ssh
that refuses it does not come to call the shell. -/
theorem proxy_reached_in_zone :
    let address := "[fe80::1%eth0]:1080"
    '\x00' ∉ address.toList ∧
      split (expand "10.0.0.5" "22" (proxyCommand address)) =
        .ok ["nc", "-x", address, "10.0.0.5", "22"] := by
  intro address
  have noNul : '\x00' ∉ address.toList := by decide +kernel
  have free : ∀ c ∈ ['h', 'p', '%'], ¬ ['%', c] <:+: address.toList := by
    rw [List.forall_mem_cons, List.forall_mem_cons, List.forall_mem_singleton]
    decide +kernel
  exact ⟨noNul, (proxy_reached_iff address noNul).2.mpr free _ _ (by decide) (by decide)⟩

/-- The port of the host gets into an address whose zone is named `p2p0`, through its quotes. -/
theorem proxy_missed_in_zone :
    let address := "[fe80::1%p2p0]:1080"
    '\x00' ∉ address.toList ∧ IsPlain "10.0.0.5" ∧ IsPlain "22" ∧
      proxyCommand address = "nc -x '[fe80::1%p2p0]:1080' %h %p" ∧
      split (expand "10.0.0.5" "22" (proxyCommand address)) =
        .ok ["nc", "-x", "[fe80::1222p0]:1080", "10.0.0.5", "22"] ∧
      address ≠ "[fe80::1222p0]:1080" := by
  intro address
  decide +kernel

end Proxy

end CloudCluster.Shell
