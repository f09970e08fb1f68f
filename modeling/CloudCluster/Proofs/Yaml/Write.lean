import CloudCluster.Proofs.Except
import CloudCluster.Proofs.Yaml.Same
import CloudCluster.Yaml.Write

/-!
Which values have a text.

Whether a value can be written depends on its tags and on the keys of mappings of one
entry alone, not on what has been written before (`isOk_writeValue`). So equal
documents both have a text or both have none (`writable_of_same`).
-/

namespace CloudCluster.Yaml

/-! ### Results -/

theorem isOk_nested (w : Writer) (deeper : Int) (write : Writer → Except Error Writer) :
    (w.nested deeper write).isOk = (write { w with indent := deeper }).isOk := by
  unfold Writer.nested
  rw [isOk_bind (b := true) fun _ => rfl, Bool.and_true]

/-! ### Values that can be written -/

mutual

/-- Whether a value can be written, behind a tag or not. -/
def writable (isTagged : Bool) : Value → Bool
  | .tagged _ value => !isTagged && writable true value
  | .sequence items => writableItems items
  | .mapping entries => (isTagged || !isUnwritable entries) && writableEntries entries
  | _ => true

/-- Whether all items can be written. -/
def writableItems : List Value → Bool
  | [] => true
  | item :: rest => writable false item && writableItems rest

/-- Whether all keys and values can be written. -/
def writableEntries : Entries → Bool
  | [] => true
  | (key, value) :: rest => writable false key && writable false value && writableEntries rest

end

theorem writableItems_eq (items : List Value) :
    writableItems items = items.all (writable false) := by
  induction items with
  | nil => rfl
  | cons item rest ih => simp [writableItems, ih]

theorem writableEntries_eq (entries : Entries) :
    writableEntries entries =
      entries.all fun entry => writable false entry.1 && writable false entry.2 := by
  induction entries with
  | nil => rfl
  | cons entry rest ih => simp [writableEntries, ih]

theorem isOk_writeItems {items : List Value}
    (each : ∀ item ∈ items, ∀ tag inMapping simpleKey w,
      (writeValue tag inMapping simpleKey item w).isOk = writable tag.isSome item) (w : Writer) :
    (writeItems items w).isOk = writableItems items := by
  induction items generalizing w with
  | nil => rfl
  | cons item rest ih =>
      obtain ⟨here, behind⟩ := List.forall_mem_cons.mp each
      rw [writeItems, isOk_bind (ih behind), here]
      rfl

theorem isOk_writeEntries {entries : Entries}
    (each : ∀ entry ∈ entries,
      (∀ tag inMapping simpleKey w,
        (writeValue tag inMapping simpleKey entry.1 w).isOk = writable tag.isSome entry.1) ∧
      ∀ tag inMapping simpleKey w,
        (writeValue tag inMapping simpleKey entry.2 w).isOk = writable tag.isSome entry.2)
    (w : Writer) : (writeEntries entries w).isOk = writableEntries entries := by
  induction entries generalizing w with
  | nil => rfl
  | cons entry rest ih =>
      obtain ⟨key, value⟩ := entry
      obtain ⟨⟨ofKey, ofValue⟩, behind⟩ := List.forall_mem_cons.mp each
      have ofRest (w : Writer) :
          (writeValue none true false value w >>= writeEntries rest).isOk =
            (writable false value && writableEntries rest) := by
        rw [isOk_bind (ih behind), ofValue]
        rfl
      have ofBoth : (writable false key && (writable false value && writableEntries rest)) =
          writableEntries ((key, value) :: rest) := by
        rw [writableEntries, Bool.and_assoc]
      rw [writeEntries, ← ofBoth]
      split
      · refine (isOk_bind fun (w : Writer) => ofRest (w.putText [':'])).trans ?_
        rw [ofKey]
        rfl
      · refine (isOk_bind fun (w : Writer) => ofRest (w.newLine.putMark ':')).trans ?_
        rw [ofKey]
        rfl

/-- Whether a value is written depends on nothing but the value and whether a tag
precedes. -/
theorem isOk_writeValue (value : Value) (tag : Option String) (inMapping simpleKey : Bool)
    (w : Writer) :
    (writeValue tag inMapping simpleKey value w).isOk = writable tag.isSome value := by
  induction value using Value.induction generalizing tag inMapping simpleKey w with
  | null | bool | integer | float | string => rfl
  | sequence items ih =>
      rw [writeValue, writable]
      split
      · next empty =>
        rw [List.isEmpty_iff.mp empty]
        rfl
      · rw [isOk_nested, isOk_writeItems ih]
  | mapping entries ih =>
      rw [writeValue, writable]
      have written : (if entries.isEmpty then .ok ((w.putTag tag).separate.putText ['\x7b', '\x7d'])
          else (w.putTag tag).nested (w.putTag tag).blockIndent (writeEntries entries) :
            Except Error Writer).isOk = writableEntries entries := by
        split
        · next empty =>
          rw [List.isEmpty_iff.mp empty]
          rfl
        · rw [isOk_nested, isOk_writeEntries ih]
      cases tag with
      | none =>
          cases unwritable : isUnwritable entries with
          | true => rfl
          | false => exact written
      | some name => exact written
  | tagged inner value ih =>
      rw [writeValue, writable]
      cases tag with
      | none => exact ih (some inner.name) inMapping simpleKey w
      | some name => rfl

theorem isOk_write (value : Value) : (write value).isOk = writable false value := by
  rw [write, isOk_bind (b := true) fun _ => rfl, isOk_writeValue, Bool.and_true]
  rfl

/-! ### Equal documents -/

theorem isAmbiguousKey_of_same {key other : Value} (equal : key.same other = true) :
    isAmbiguousKey key = isAmbiguousKey other := by
  cases Value.same_iff.mp equal with
  | @mapping as bs length _ =>
      match as, bs, length with
      | [], [], _ => rfl
      | [_], [_], _ => rfl
      | _ :: _ :: _, _ :: _ :: _, _ => rfl
  | null | bool | integer | float | string | sequence | tagged => rfl

theorem isUnwritable_of_paired {as bs cs : Entries} (perm : cs.Perm bs)
    (pairs : List.Forall₂ Value.SameEntry as cs) : isUnwritable as = isUnwritable bs := by
  cases pairs with
  | nil => rw [List.nil_perm.mp perm]
  | cons here behind =>
      cases behind with
      | nil =>
          rw [List.perm_singleton.mp perm.symm]
          exact isAmbiguousKey_of_same here.1
      | cons _ _ =>
          match bs, perm.length_eq with
          | _ :: _ :: _, _ => rfl

theorem all_eq_of_forall₂ {α β : Type} {p : α → Bool} {q : β → Bool} {as : List α} {bs : List β}
    (pairs : List.Forall₂ (fun a b => p a = q b) as bs) : as.all p = bs.all q := by
  induction pairs with
  | nil => rfl
  | cons here _ ih => rw [List.all_cons, List.all_cons, here, ih]

/-- Of two equal documents, both can be written or none. -/
theorem writable_of_same {a b : Value} (distinct : a.distinct = true) (equal : a.same b = true)
    (isTagged : Bool) : writable isTagged a = writable isTagged b := by
  induction a using Value.induction generalizing b isTagged with
  | null | bool | integer | string =>
      cases Value.same_iff.mp equal
      rfl
  | float value =>
      cases Value.same_iff.mp equal
      rfl
  | sequence items ih =>
      cases Value.same_iff.mp equal with
      | sequence pairs =>
          have parts := Value.distinctItems_iff.mp distinct
          rw [writable, writable, writableItems_eq, writableItems_eq]
          refine all_eq_of_forall₂ ((Value.forall₂_mem pairs).imp ?_)
          rintro item other ⟨⟨mem, _⟩, here⟩
          exact ih item mem (parts item mem) here false
  | mapping entries ih =>
      cases Value.same_iff.mp equal with
      | mapping =>
          have parts := (Value.distinctEntries_iff.mp distinct).1
          obtain ⟨cs, perm, pairs⟩ := Value.paired_of_same distinct equal
          rw [writable, writable, isUnwritable_of_paired perm pairs, writableEntries_eq,
            writableEntries_eq, ← perm.all_eq]
          congr 1
          refine all_eq_of_forall₂ ((Value.forall₂_mem pairs).imp ?_)
          rintro entry other ⟨⟨mem, _⟩, key, value⟩
          rw [(ih entry mem).1 (parts entry mem).1 key false,
            (ih entry mem).2 (parts entry mem).2 value false]
  | tagged tag value ih =>
      cases Value.same_iff.mp equal with
      | tagged _ first => rw [writable, writable, ih distinct first]

end CloudCluster.Yaml
