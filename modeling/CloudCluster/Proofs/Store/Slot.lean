import CloudCluster.Config.Store
import CloudCluster.Proofs.Files.Action

/-!
What a store finds under the prefixes of a digest.

Names of entries and of records are names in a directory, and no two of them are
the same (`entryName_inj`, `entryName_ne_recordName`). A slot is read off the entry
and the record under a prefix (`slot_cases`), and `Chosen` says which prefix a
store settles on: the shortest one that is not taken, or the whole digest.
-/

namespace CloudCluster

open Files

/-! ### Digests -/

namespace Digest

variable (digest : Digest)

theorem toList_prefixText (n : Nat) : (digest.prefixText n).toList = digest.digits.take n :=
  String.toList_ofList

theorem isHexDigit_of_mem {c : Char} (mem : c ∈ digest.digits) : isHexDigit c = true :=
  List.all_eq_true.mp digest.all_digits c mem

theorem slashless_prefixText (n : Nat) : '/' ∉ (digest.prefixText n).toList := by
  intro mem
  rw [toList_prefixText] at mem
  have hex := digest.isHexDigit_of_mem (List.mem_of_mem_take mem)
  exact absurd hex (by decide)

theorem length_prefixText {n : Nat} (bound : n ≤ 64) :
    (digest.prefixText n).toList.length = n := by
  rw [toList_prefixText, List.length_take, digest.length_digits, Nat.min_eq_left bound]

theorem prefixText_whole : digest.prefixText 64 = digest.text := by
  rw [prefixText, text, List.take_of_length_le (Nat.le_of_eq digest.length_digits)]

/-- Prefixes that are the same text are equally long. -/
theorem length_eq_of_prefixText {other : Digest} {m n : Nat} (bound : m ≤ 64) (bound' : n ≤ 64)
    (same : digest.prefixText m = other.prefixText n) : m = n := by
  rw [← digest.length_prefixText bound, same, other.length_prefixText bound']

theorem eq_of_text {other : Digest} (same : digest.text = other.text) : digest = other := by
  obtain ⟨digits, _, _⟩ := digest
  obtain ⟨digits', _, _⟩ := other
  have : digits = digits' := by
    simpa [text] using congrArg String.toList same
  subst this
  rfl

theorem range_of_isHexDigit {c : Char} (hex : isHexDigit c = true) :
    (48 ≤ c.toNat ∧ c.toNat ≤ 57) ∨ (97 ≤ c.toNat ∧ c.toNat ≤ 102) := by
  simp only [isHexDigit, Bool.or_eq_true, Bool.and_eq_true, decide_eq_true_eq] at hex
  exact hex

theorem isBlank_of_isHexDigit {c : Char} (hex : isHexDigit c = true) :
    Text.isBlank c = false := by
  have range := range_of_isHexDigit hex
  simp only [Text.isBlank, Bool.or_eq_false_iff, Bool.and_eq_false_iff, decide_eq_false_iff_not]
  omega

theorem utf8Size_of_isHexDigit {c : Char} (hex : isHexDigit c = true) : c.utf8Size = 1 := by
  have range := range_of_isHexDigit hex
  have ascii : c.val ≤ 127 := by
    rw [UInt32.le_iff_toNat_le]
    change c.toNat ≤ 127
    omega
  exact if_pos ascii

theorem trim_of_unblank {s : List Char} (unblank : ∀ c ∈ s, Text.isBlank c = false) :
    Text.trim s = s := by
  have kept {t : List Char} (unblank : ∀ c ∈ t, Text.isBlank c = false) :
      t.dropWhile Text.isBlank = t := by
    cases t with
    | nil => rfl
    | cons c rest => simp [unblank c List.mem_cons_self]
  rw [Text.trim, kept unblank, Text.trimEnd, kept fun c mem => unblank c (List.mem_reverse.mp mem),
    List.reverse_reverse]

theorem utf8ByteSize_of_hex {s : List Char} (hex : ∀ c ∈ s, isHexDigit c = true) :
    (String.ofList s).utf8ByteSize = s.length := by
  induction s with
  | nil => rfl
  | cons c rest ih =>
      have here := utf8Size_of_isHexDigit (hex c List.mem_cons_self)
      have behind := ih fun c mem => hex c (List.mem_cons_of_mem _ mem)
      rw [← List.singleton_append, String.ofList_append, String.utf8ByteSize_append, behind]
      simp [here, Nat.add_comm]

theorem utf8ByteSize_prefixText_le (n : Nat) : (digest.prefixText n).utf8ByteSize ≤ 64 := by
  rw [prefixText, utf8ByteSize_of_hex, List.length_take, digest.length_digits]
  · exact Nat.min_le_right _ _
  · exact fun c mem => digest.isHexDigit_of_mem (List.mem_of_mem_take mem)

theorem trimText_text : Text.trimText digest.text = digest.text := by
  have digits : digest.text.toList = digest.digits := String.toList_ofList
  rw [Text.trimText, digits, trim_of_unblank fun c mem =>
    isBlank_of_isHexDigit (digest.isHexDigit_of_mem mem)]
  rfl

end Digest

namespace ConfigStore

/-! ### Names in the directory -/

/-- The name of the file of a config. -/
def entryName (name : String) : String := "config-" ++ name ++ ".yml"

/-- The name of the file of a digest. -/
def recordName (name : String) : String := "config-" ++ name ++ ".sha256"

theorem isName_of_infix {name ending : String} (slashless : '/' ∉ name.toList)
    (slashless' : '/' ∉ ending.toList) : IsName ("config-" ++ name ++ ending) := by
  have first (other : String) (differs : other.toList.head? ≠ some 'c') :
      "config-" ++ name ++ ending ≠ other := by
    intro same
    rw [← same] at differs
    simp [String.toList_append] at differs
  refine ⟨?_, first _ (by decide), first _ (by decide), first _ (by decide)⟩
  simp [String.toList_append, slashless, slashless']

theorem isName_entryName {name : String} (slashless : '/' ∉ name.toList) :
    IsName (entryName name) :=
  isName_of_infix slashless (by decide)

theorem isName_recordName {name : String} (slashless : '/' ∉ name.toList) :
    IsName (recordName name) :=
  isName_of_infix slashless (by decide)

theorem entryName_inj {name other : String} : entryName name = entryName other ↔ name = other := by
  simp [entryName, String.append_left_inj, String.append_right_inj]

theorem recordName_inj {name other : String} :
    recordName name = recordName other ↔ name = other := by
  simp [recordName, String.append_left_inj, String.append_right_inj]

/-- The file of a config is no file of a digest. -/
theorem entryName_ne_recordName (name other : String) : entryName name ≠ recordName other := by
  intro same
  have entry : (entryName name).toList.getLast? = some 'l' := by
    rw [entryName, String.toList_append, List.getLast?_append]
    rfl
  have record : (recordName other).toList.getLast? = some '6' := by
    rw [recordName, String.toList_append, List.getLast?_append]
    rfl
  rw [same, record] at entry
  exact absurd entry (by decide)

variable (store : ConfigStore) {tree : Tree} {digest : Digest} {name : String} {n : Nat}

theorem entryPath_inj {other : String} (slashless : '/' ∉ name.toList)
    (slashless' : '/' ∉ other.toList) (same : store.entryPath name = store.entryPath other) :
    name = other :=
  entryName_inj.mp (Path.join_inj (isName_entryName slashless).slashless
    (isName_entryName slashless').slashless same)

/-! ### Slots -/

theorem record?_of_missing {fault : Fault}
    (missing : tree.status (store.recordPath name) = .error fault)
    (notFound : fault.isNotFound = true) : store.record? tree name = .ok none := by
  unfold record?
  rw [Tree.readText_of_missing missing]
  exact if_pos notFound

theorem slot_of_missing {fault : Fault}
    (missing : tree.status (store.entryPath (digest.prefixText n)) = .error fault) :
    store.slot tree digest n = if fault.isNotFound then .ok .free else .error (.io fault) := by
  unfold slot
  dsimp only
  rw [missing]
  rfl

theorem slot_of_status {entry : Entry}
    (found : tree.status (store.entryPath (digest.prefixText n)) = .ok entry) :
    store.slot tree digest n = store.record? tree (digest.prefixText n) >>= fun record =>
      .ok (if record = some digest.text then .own else .taken) := by
  unfold slot
  dsimp only
  rw [found]
  cases store.record? tree (digest.prefixText n) with
  | error e => rfl
  | ok record =>
      change (if record = some digest.text then pure Slot.own else pure Slot.taken) =
        Except.ok (if record = some digest.text then Slot.own else Slot.taken)
      by_cases own : record = some digest.text
      · rw [if_pos own, if_pos own]
        rfl
      · rw [if_neg own, if_neg own]
        rfl

variable {store}

/-- What a slot says of the tree. -/
theorem slot_cases {slot : Slot} (looked : store.slot tree digest n = .ok slot) :
    (slot = .free ∧ ∃ fault, tree.status (store.entryPath (digest.prefixText n)) = .error fault ∧
      fault.isNotFound = true) ∨
    ∃ entry record, tree.status (store.entryPath (digest.prefixText n)) = .ok entry ∧
      store.record? tree (digest.prefixText n) = .ok record ∧
      slot = if record = some digest.text then .own else .taken := by
  cases found : tree.status (store.entryPath (digest.prefixText n)) with
  | error fault =>
      rw [store.slot_of_missing found] at looked
      split at looked
      · next notFound => exact Or.inl ⟨(Except.ok.inj looked).symm, fault, rfl, notFound⟩
      · cases looked
  | ok entry =>
      rw [store.slot_of_status found] at looked
      obtain ⟨record, read, slot_eq⟩ := bind_eq_ok.mp looked
      exact Or.inr ⟨entry, record, rfl, read, (Except.ok.inj slot_eq).symm⟩

theorem status_of_slot {slot : Slot} (looked : store.slot tree digest n = .ok slot)
    (occupied : slot ≠ .free) :
    ∃ entry, tree.status (store.entryPath (digest.prefixText n)) = .ok entry := by
  rcases slot_cases looked with ⟨free, _⟩ | ⟨entry, _, found, _⟩
  · exact absurd free occupied
  · exact ⟨entry, found⟩

theorem missing_of_free (looked : store.slot tree digest n = .ok .free) :
    ∃ fault, tree.status (store.entryPath (digest.prefixText n)) = .error fault ∧
      fault.isNotFound = true := by
  rcases slot_cases looked with ⟨_, missing⟩ | ⟨_, record, _, _, eq⟩
  · exact missing
  · split at eq <;> cases eq

theorem record_of_own (looked : store.slot tree digest n = .ok .own) :
    store.record? tree (digest.prefixText n) = .ok (some digest.text) := by
  rcases slot_cases looked with ⟨eq, _⟩ | ⟨_, record, _, read, eq⟩
  · cases eq
  · split at eq
    · next own => rw [read, own]
    · cases eq

/-! ### The choice of a prefix -/

/-- The prefix that a store settles on, and whether its entry has to be written.
All shorter prefixes are taken. -/
inductive Chosen (store : ConfigStore) (tree : Tree) (digest : Digest) (shortest : Nat) :
    Nat → Bool → Prop where
  | free {n : Nat} (range : shortest ≤ n ∧ n < 64)
      (taken : ∀ m, shortest ≤ m → m < n → store.slot tree digest m = .ok .taken)
      (here : store.slot tree digest n = .ok .free) : Chosen store tree digest shortest n true
  | own {n : Nat} (range : shortest ≤ n ∧ n < 64)
      (taken : ∀ m, shortest ≤ m → m < n → store.slot tree digest m = .ok .taken)
      (here : store.slot tree digest n = .ok .own) : Chosen store tree digest shortest n false
  | whole (taken : ∀ m, shortest ≤ m → m < 64 → store.slot tree digest m = .ok .taken) :
      Chosen store tree digest shortest 64 true

/-- The first prefix is taken, or the store settles on it. -/
theorem Chosen.first {shortest : Nat} {isFree : Bool} (bound : shortest < 64)
    (chosen : Chosen store tree digest shortest n isFree) :
    store.slot tree digest shortest = .ok .taken ∨
      n = shortest ∧ store.slot tree digest shortest = .ok (if isFree then .free else .own) := by
  cases chosen with
  | free range taken here =>
      by_cases settled : n = shortest
      · subst settled
        exact Or.inr ⟨rfl, here⟩
      · exact Or.inl (taken shortest (Nat.le_refl _) (by omega))
  | own range taken here =>
      by_cases settled : n = shortest
      · subst settled
        exact Or.inr ⟨rfl, here⟩
      · exact Or.inl (taken shortest (Nat.le_refl _) (by omega))
  | whole taken => exact Or.inl (taken shortest (Nat.le_refl _) bound)

/-- Behind a prefix that is taken, the choice goes on with the next. -/
theorem chosen_succ_iff {shortest : Nat} {isFree : Bool}
    (taken : store.slot tree digest shortest = .ok .taken) :
    Chosen store tree digest shortest n isFree ↔
      Chosen store tree digest (shortest + 1) n isFree := by
  have from_here {bound : Nat}
      (behind : ∀ m, shortest + 1 ≤ m → m < bound → store.slot tree digest m = .ok .taken) :
      ∀ m, shortest ≤ m → m < bound → store.slot tree digest m = .ok .taken := by
    intro m low high
    by_cases here : m = shortest
    · rw [here]
      exact taken
    · exact behind m (by omega) high
  constructor
  · intro chosen
    cases chosen with
    | free range before here =>
        have : n ≠ shortest := fun eq => by rw [eq, taken] at here; cases here
        exact .free (by omega) (fun m low high => before m (by omega) high) here
    | own range before here =>
        have : n ≠ shortest := fun eq => by rw [eq, taken] at here; cases here
        exact .own (by omega) (fun m low high => before m (by omega) high) here
    | whole before => exact .whole fun m low high => before m (by omega) high
  · intro chosen
    cases chosen with
    | free range behind here => exact .free (by omega) (from_here behind) here
    | own range behind here => exact .own (by omega) (from_here behind) here
    | whole behind => exact .whole (from_here behind)

theorem choose_range'_iff {shortest count : Nat} {isFree : Bool} (whole : shortest + count = 64) :
    store.choose tree digest (List.range' shortest count) = .ok (n, isFree) ↔
      Chosen store tree digest shortest n isFree := by
  induction count generalizing shortest with
  | zero =>
      have last : shortest = 64 := whole
      constructor
      · intro chosen
        cases chosen
        exact .whole fun m low high => by omega
      · intro chosen
        cases chosen with
        | free range => omega
        | own range => omega
        | whole => rfl
  | succ count ih =>
      have bound : shortest < 64 := by omega
      have none_before : ∀ m, shortest ≤ m → m < shortest →
          store.slot tree digest m = .ok .taken := by omega
      rw [List.range'_succ, choose]
      cases looked : store.slot tree digest shortest with
      | error e =>
          constructor
          · intro chosen
            cases chosen
          · intro chosen
            rcases chosen.first bound with taken | ⟨_, here⟩
            · cases looked.symm.trans taken
            · cases looked.symm.trans here
      | ok slot =>
          cases slot with
          | free =>
              constructor
              · intro chosen
                cases chosen
                exact .free ⟨Nat.le_refl _, bound⟩ none_before looked
              · intro chosen
                rcases chosen.first bound with taken | ⟨rfl, here⟩
                · cases looked.symm.trans taken
                · cases isFree with
                  | true => rfl
                  | false => cases looked.symm.trans here
          | own =>
              constructor
              · intro chosen
                cases chosen
                exact .own ⟨Nat.le_refl _, bound⟩ none_before looked
              · intro chosen
                rcases chosen.first bound with taken | ⟨rfl, here⟩
                · cases looked.symm.trans taken
                · cases isFree with
                  | true => cases looked.symm.trans here
                  | false => rfl
          | taken =>
              rw [chosen_succ_iff looked]
              exact ih (by omega)

/-- A store settles on the shortest prefix that is not taken. -/
theorem choose_eq_ok_iff {isFree : Bool} :
    store.choose tree digest prefixLengths = .ok (n, isFree) ↔
      Chosen store tree digest minPrefix n isFree :=
  choose_range'_iff rfl

end ConfigStore

end CloudCluster
