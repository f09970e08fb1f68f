import CloudCluster.Yaml.Value
import Mathlib.Data.List.Forall2

/-!
Equality of documents.

Equality of mappings asks of every entry of the one that the other has it too. On
documents whose mappings have each key once (`distinct`) that is an equivalence, and
the entries of equal mappings are the same up to their order (`paired_of_matched`).
Equal documents that list their keys in one order and have the same floats are one
value (`eq_of_same_of_aligned`).
-/

namespace CloudCluster

/-! ### Numbers -/

namespace Decimal.Binary64

theorem same_iff {x y : Binary64} :
    x.same y = true ↔ x = y ∨ ∃ s t e f, x = .finite s 0 e ∧ y = .finite t 0 f := by
  constructor
  · intro equal
    unfold same at equal
    split at equal
    · exact Or.inr ⟨_, _, _, _, rfl, rfl⟩
    · exact Or.inl (of_decide_eq_true equal)
  · rintro (rfl | ⟨s, t, e, f, rfl, rfl⟩)
    · unfold same
      split
      · rfl
      · exact decide_eq_true rfl
    · rfl

theorem same_symm {x y : Binary64} (equal : x.same y = true) : y.same x = true := by
  rw [same_iff] at equal ⊢
  rcases equal with rfl | ⟨s, t, e, f, rfl, rfl⟩
  · exact Or.inl rfl
  · exact Or.inr ⟨t, s, f, e, rfl, rfl⟩

theorem same_trans {x y z : Binary64} (equal : x.same y = true) (equal' : y.same z = true) :
    x.same z = true := by
  rw [same_iff] at equal equal' ⊢
  rcases equal with rfl | ⟨s, t, e, f, rfl, rfl⟩
  · exact equal'
  · rcases equal' with rfl | ⟨s', t', e', f', _, rfl⟩
    · exact Or.inr ⟨s, t, e, f, rfl, rfl⟩
    · exact Or.inr ⟨s, t', e, f', rfl, rfl⟩

end Decimal.Binary64

namespace Yaml.Value

open Decimal

/-! ### Induction over values -/

/-- Induction over a value: over the items of a sequence, and over the keys and the
values of a mapping. -/
@[elab_as_elim]
theorem induction {motive : Value → Prop} (null : motive .null)
    (bool : ∀ value, motive (.bool value)) (integer : ∀ value, motive (.integer value))
    (float : ∀ value, motive (.float value)) (string : ∀ value, motive (.string value))
    (sequence : ∀ items, (∀ item ∈ items, motive item) → motive (.sequence items))
    (mapping : ∀ entries, (∀ entry ∈ entries, motive entry.1 ∧ motive entry.2) →
      motive (.mapping entries))
    (tagged : ∀ tag value, motive value → motive (.tagged tag value)) (value : Value) :
    motive value :=
  @Value.rec motive (fun items => ∀ item ∈ items, motive item)
    (fun entries => ∀ entry ∈ entries, motive entry.1 ∧ motive entry.2)
    (fun entry => motive entry.1 ∧ motive entry.2)
    null bool integer float string sequence mapping tagged
    (by simp) (fun _ _ here behind => List.forall_mem_cons.mpr ⟨here, behind⟩)
    (by simp) (fun _ _ here behind => List.forall_mem_cons.mpr ⟨here, behind⟩)
    (fun _ _ key value => ⟨key, value⟩) value

/-! ### Ways to be the same -/

/-- Whether two entries have the same key and the same value. -/
def SameEntry (entry other : Value × Value) : Prop :=
  same entry.1 other.1 = true ∧ same entry.2 other.2 = true

theorem sameItems_iff {as bs : List Value} :
    sameItems as bs = true ↔ List.Forall₂ (fun a b => same a b = true) as bs := by
  induction as generalizing bs with
  | nil => cases bs <;> simp [sameItems]
  | cons a as ih => cases bs <;> simp [sameItems, ih]

theorem sameEntries_iff {as bs : Entries} :
    sameEntries as bs = true ↔ ∀ entry ∈ as, ∃ other ∈ bs, SameEntry entry other := by
  induction as with
  | nil => simp [sameEntries]
  | cons entry rest ih => simp [sameEntries, ih, SameEntry]

/-- How two values are the same. -/
inductive Matches : Value → Value → Prop where
  | null : Matches .null .null
  | bool (value : Bool) : Matches (.bool value) (.bool value)
  | integer (value : Int) : Matches (.integer value) (.integer value)
  | float {x y : Binary64} (equal : x.same y = true) : Matches (.float x) (.float y)
  | string (value : String) : Matches (.string value) (.string value)
  | sequence {as bs : List Value} (items : List.Forall₂ (fun a b => same a b = true) as bs) :
      Matches (.sequence as) (.sequence bs)
  | mapping {as bs : Entries} (length : as.length = bs.length)
      (matched : ∀ entry ∈ as, ∃ other ∈ bs, SameEntry entry other) :
      Matches (.mapping as) (.mapping bs)
  | tagged (tag : Tag) {a b : Value} (equal : same a b = true) :
      Matches (.tagged tag a) (.tagged tag b)

theorem same_iff {a b : Value} : same a b = true ↔ Matches a b := by
  constructor
  · intro equal
    cases a <;> cases b <;> simp only [same, Bool.and_eq_true, decide_eq_true_eq,
      Bool.false_eq_true, sameItems_iff, sameEntries_iff] at equal
    case null.null => exact .null
    case bool.bool => subst equal; exact .bool _
    case integer.integer => subst equal; exact .integer _
    case float.float => exact .float equal
    case string.string => subst equal; exact .string _
    case sequence.sequence => exact .sequence equal
    case mapping.mapping => exact .mapping equal.1 equal.2
    case tagged.tagged =>
      obtain ⟨rfl, equal⟩ := equal
      exact .tagged _ equal
  · intro matches_
    cases matches_ with
    | null | bool | integer | string => simp [same]
    | float equal => exact equal
    | sequence items => exact sameItems_iff.mpr items
    | mapping length matched => simpa [same, length] using sameEntries_iff.mpr matched
    | tagged tag equal => simpa [same] using equal

theorem trans_items {as bs cs : List Value}
    (trans : ∀ a ∈ as, ∀ {b c : Value}, same a b = true → same b c = true → same a c = true)
    (first : List.Forall₂ (fun a b => same a b = true) as bs)
    (second : List.Forall₂ (fun b c => same b c = true) bs cs) :
    List.Forall₂ (fun a c => same a c = true) as cs := by
  induction first generalizing cs with
  | nil => exact second
  | cons here _ ih =>
      cases second with
      | cons here' behind' =>
          exact .cons (trans _ List.mem_cons_self here here')
            (ih (fun a mem => trans a (List.mem_cons_of_mem _ mem)) behind')

theorem same_trans {a b c : Value} (equal : same a b = true) (equal' : same b c = true) :
    same a c = true := by
  induction a using Value.induction generalizing b c with
  | null | bool | integer | string =>
      cases same_iff.mp equal
      exact equal'
  | float value =>
      cases same_iff.mp equal with
      | float first =>
          cases same_iff.mp equal' with
          | float second => exact Binary64.same_trans first second
  | sequence items ih =>
      cases same_iff.mp equal with
      | sequence first =>
          cases same_iff.mp equal' with
          | sequence second => exact same_iff.mpr (.sequence (trans_items ih first second))
  | mapping entries ih =>
      cases same_iff.mp equal with
      | mapping length matched =>
          cases same_iff.mp equal' with
          | mapping length' matched' =>
              refine same_iff.mpr (.mapping (length.trans length') fun entry mem => ?_)
              obtain ⟨other, mem', key, value⟩ := matched entry mem
              obtain ⟨last, mem'', key', value'⟩ := matched' other mem'
              exact ⟨last, mem'', (ih entry mem).1 key key', (ih entry mem).2 value value'⟩
  | tagged tag value ih =>
      cases same_iff.mp equal with
      | tagged _ first =>
          cases same_iff.mp equal' with
          | tagged _ second => exact same_iff.mpr (.tagged tag (ih first second))

/-! ### Distinct keys -/

mutual

/-- Whether every mapping in a value has each key once. -/
def distinct : Value → Bool
  | .sequence items => distinctItems items
  | .mapping entries => distinctEntries entries
  | .tagged _ value => distinct value
  | _ => true

/-- `distinct` for all items. -/
def distinctItems : List Value → Bool
  | [] => true
  | item :: rest => distinct item && distinctItems rest

/-- `distinct` for all keys and values, and no key twice. -/
def distinctEntries : Entries → Bool
  | [] => true
  | (key, value) :: rest =>
    distinct key && distinct value && rest.all (fun other => !same key other.1) &&
      distinctEntries rest

end

theorem distinctItems_iff {items : List Value} :
    distinctItems items = true ↔ ∀ item ∈ items, distinct item = true := by
  induction items with
  | nil => simp [distinctItems]
  | cons item rest ih => simp [distinctItems, ih]

theorem distinctEntries_iff {entries : Entries} :
    distinctEntries entries = true ↔
      (∀ entry ∈ entries, distinct entry.1 = true ∧ distinct entry.2 = true) ∧
      entries.Pairwise fun entry other => same entry.1 other.1 = false := by
  induction entries with
  | nil => simp [distinctEntries]
  | cons entry rest ih =>
      simp only [distinctEntries, Bool.and_eq_true, List.all_eq_true, Bool.not_eq_true', ih,
        List.forall_mem_cons, List.pairwise_cons]
      tauto

/-! ### Pairs -/

section Pairs

variable {α β : Type} {R : α → β → Prop} {as : List α} {bs : List β}

theorem forall₂_mem (pairs : List.Forall₂ R as bs) :
    List.Forall₂ (fun a b => (a ∈ as ∧ b ∈ bs) ∧ R a b) as bs := by
  induction pairs with
  | nil => exact .nil
  | cons here _ ih =>
      refine .cons ⟨⟨List.mem_cons_self, List.mem_cons_self⟩, here⟩ (ih.imp ?_)
      rintro a b ⟨⟨mem, mem'⟩, related⟩
      exact ⟨⟨List.mem_cons_of_mem _ mem, List.mem_cons_of_mem _ mem'⟩, related⟩

theorem exists_of_forall₂ {b : β} (pairs : List.Forall₂ R as bs) (mem : b ∈ bs) :
    ∃ a ∈ as, R a b := by
  induction pairs with
  | nil => cases mem
  | cons here _ ih =>
      rcases List.mem_cons.mp mem with rfl | behind
      · exact ⟨_, List.mem_cons_self, here⟩
      · obtain ⟨a, mem', related⟩ := ih behind
        exact ⟨a, List.mem_cons_of_mem _ mem', related⟩

/-- If each of as many elements is related to one of a list, and no two to one, the
list is made of those in some order. -/
theorem paired_of_matched (length : as.length = bs.length)
    (apart : as.Pairwise fun a other => ∀ b ∈ bs, R a b → ¬ R other b)
    (matched : ∀ a ∈ as, ∃ b ∈ bs, R a b) : ∃ cs, cs.Perm bs ∧ List.Forall₂ R as cs := by
  induction as generalizing bs with
  | nil =>
      have empty : bs = [] := List.length_eq_zero_iff.mp length.symm
      exact ⟨[], by rw [empty], .nil⟩
  | cons a as ih =>
      obtain ⟨fresh, apart⟩ := List.pairwise_cons.mp apart
      obtain ⟨⟨b, mem, here⟩, matched⟩ := List.forall_mem_cons.mp matched
      obtain ⟨before, behind, rfl⟩ := List.append_of_mem mem
      have perm : (b :: (before ++ behind)).Perm (before ++ b :: behind) :=
        List.perm_middle.symm
      have within {c : β} (mem : c ∈ before ++ behind) : c ∈ before ++ b :: behind :=
        perm.subset (List.mem_cons_of_mem _ mem)
      obtain ⟨cs, perm', pairs⟩ := ih
        (by
          simp only [List.length_cons, List.length_append] at length ⊢
          omega)
        (apart.imp fun clash c mem => clash c (within mem))
        (by
          intro other mem'
          obtain ⟨c, mem'', related⟩ := matched other mem'
          rcases List.mem_cons.mp (perm.symm.subset mem'') with rfl | elsewhere
          · exact absurd related (fresh other mem' c mem here)
          · exact ⟨c, elsewhere, related⟩)
      exact ⟨b :: cs, (perm'.cons b).trans perm, .cons here pairs⟩

end Pairs

/-! ### Symmetry -/

/-- Two entries with different keys match no third one, so matches are pairs. -/
theorem paired_of_distinct {as bs : Entries} (distinct : distinctEntries as = true)
    (symm : ∀ entry ∈ as, ∀ {key : Value}, same entry.1 key = true → same key entry.1 = true)
    (length : as.length = bs.length)
    (matched : ∀ entry ∈ as, ∃ other ∈ bs, SameEntry entry other) :
    ∃ cs, cs.Perm bs ∧ List.Forall₂ SameEntry as cs := by
  refine paired_of_matched length ?_ matched
  refine (distinctEntries_iff.mp distinct).2.imp_of_mem ?_
  intro entry other _ mem differs last _ here there
  have clash := same_trans here.1 (symm other mem there.1)
  rw [differs] at clash
  cases clash

theorem same_symm {a b : Value} (distinct : distinct a = true) (equal : same a b = true) :
    same b a = true := by
  induction a using Value.induction generalizing b with
  | null | bool | integer | string =>
      cases same_iff.mp equal
      exact equal
  | float value =>
      cases same_iff.mp equal with
      | float first => exact Binary64.same_symm first
  | sequence items ih =>
      cases same_iff.mp equal with
      | sequence pairs =>
          have parts := distinctItems_iff.mp distinct
          refine same_iff.mpr (.sequence (List.Forall₂.flip ((forall₂_mem pairs).imp ?_)))
          rintro item other ⟨⟨mem, _⟩, here⟩
          exact ih item mem (parts item mem) here
  | mapping entries ih =>
      cases same_iff.mp equal with
      | mapping length matched =>
          have parts := (distinctEntries_iff.mp distinct).1
          obtain ⟨cs, perm, pairs⟩ := paired_of_distinct distinct
            (fun entry mem _ => (ih entry mem).1 (parts entry mem).1) length matched
          refine same_iff.mpr (.mapping length.symm fun other mem => ?_)
          obtain ⟨entry, mem', key, value⟩ : ∃ entry ∈ entries, SameEntry entry other := by
            have mem' := perm.symm.subset mem
            obtain ⟨entry, mem'', here⟩ := exists_of_forall₂ pairs mem'
            exact ⟨entry, mem'', here⟩
          exact ⟨entry, mem', (ih entry mem').1 (parts entry mem').1 key,
            (ih entry mem').2 (parts entry mem').2 value⟩
  | tagged tag value ih =>
      cases same_iff.mp equal with
      | tagged _ first => exact same_iff.mpr (.tagged tag (ih distinct first))

/-- The entries of equal mappings are the same up to their order. -/
theorem paired_of_same {as bs : Entries} (distinct : distinct (.mapping as) = true)
    (equal : same (.mapping as) (.mapping bs) = true) :
    ∃ cs, cs.Perm bs ∧ List.Forall₂ SameEntry as cs := by
  cases same_iff.mp equal with
  | mapping length matched =>
      have parts := (distinctEntries_iff.mp distinct).1
      exact paired_of_distinct distinct (fun entry mem _ => same_symm (parts entry mem).1) length
        matched

/-! ### Aligned documents -/

mutual

/-- Whether two values that are the same have the same floats and, in each mapping, the
same key at each place. -/
def aligned : Value → Value → Bool
  | .float x, .float y => x = y
  | .sequence as, .sequence bs => alignedItems as bs
  | .mapping as, .mapping bs => alignedEntries as bs
  | .tagged _ a, .tagged _ b => aligned a b
  | _, _ => true

/-- `aligned` item by item. -/
def alignedItems : List Value → List Value → Bool
  | a :: as, b :: bs => aligned a b && alignedItems as bs
  | _, _ => true

/-- `aligned` entry by entry. -/
def alignedEntries : Entries → Entries → Bool
  | (k, v) :: as, (l, w) :: bs =>
    same k l && aligned k l && aligned v w && alignedEntries as bs
  | _, _ => true

end

theorem aligned_places {as bs : List Value}
    (pairs : List.Forall₂ (fun a b => same a b = true) as bs)
    (lined : alignedItems as bs = true) :
    List.Forall₂ (fun a b => same a b = true ∧ aligned a b = true) as bs := by
  induction pairs with
  | nil => exact .nil
  | cons here _ ih =>
      simp only [alignedItems, Bool.and_eq_true] at lined
      exact .cons ⟨here, lined.1⟩ (ih lined.2)

/-- An entry whose key is the one at its place has no other match than the entry there,
since each mapping has the key once. -/
theorem aligned_entries {as bs : Entries} (distinct_as : distinctEntries as = true)
    (distinct_bs : distinctEntries bs = true) (length : as.length = bs.length)
    (matched : ∀ entry ∈ as, ∃ other ∈ bs, SameEntry entry other)
    (lined : alignedEntries as bs = true) :
    List.Forall₂ (fun entry other => SameEntry entry other ∧
      aligned entry.1 other.1 = true ∧ aligned entry.2 other.2 = true) as bs := by
  induction as generalizing bs with
  | nil =>
      have empty : bs = [] := List.length_eq_zero_iff.mp length.symm
      rw [empty]
      exact .nil
  | cons entry as ih =>
      obtain _ | ⟨other, bs⟩ := bs
      · cases length
      · simp only [alignedEntries, Bool.and_eq_true] at lined
        obtain ⟨⟨⟨key, key_lined⟩, value_lined⟩, behind⟩ := lined
        obtain ⟨parts, apart⟩ := distinctEntries_iff.mp distinct_as
        obtain ⟨parts', apart'⟩ := distinctEntries_iff.mp distinct_bs
        obtain ⟨here, matched⟩ := List.forall_mem_cons.mp matched
        refine .cons ⟨?_, key_lined, value_lined⟩ (ih ?_ ?_ (Nat.succ.inj length) ?_ behind)
        · obtain ⟨found, mem, same_found⟩ := here
          rcases List.mem_cons.mp mem with rfl | later
          · exact same_found
          · have back := same_symm (parts entry List.mem_cons_self).1 key
            have clash := (List.pairwise_cons.mp apart').1 found later
            rw [same_trans back same_found.1] at clash
            cases clash
        · exact distinctEntries_iff.mpr ⟨fun e mem => parts e (List.mem_cons_of_mem _ mem),
            (List.pairwise_cons.mp apart).2⟩
        · exact distinctEntries_iff.mpr ⟨fun e mem => parts' e (List.mem_cons_of_mem _ mem),
            (List.pairwise_cons.mp apart').2⟩
        · intro next mem
          obtain ⟨found, mem', same_found⟩ := matched next mem
          rcases List.mem_cons.mp mem' with rfl | later
          · have back := same_symm (parts next (List.mem_cons_of_mem _ mem)).1 same_found.1
            have clash := (List.pairwise_cons.mp apart).1 next mem
            rw [same_trans key back] at clash
            cases clash
          · exact ⟨found, later, same_found⟩

/-- Equal documents that are aligned are one value. -/
theorem eq_of_same_of_aligned {a b : Value} (distinct_a : distinct a = true)
    (distinct_b : distinct b = true) (equal : same a b = true) (lined : aligned a b = true) :
    a = b := by
  induction a using Value.induction generalizing b with
  | null | bool | integer | string =>
      cases same_iff.mp equal
      rfl
  | float value =>
      cases same_iff.mp equal with
      | float _ => rw [of_decide_eq_true lined]
  | sequence items ih =>
      cases same_iff.mp equal with
      | sequence pairs =>
          have parts := distinctItems_iff.mp distinct_a
          have parts' := distinctItems_iff.mp distinct_b
          congr 1
          rw [← List.forall₂_eq_eq_eq]
          refine (forall₂_mem (aligned_places pairs lined)).imp ?_
          rintro item other ⟨⟨mem, mem'⟩, here, here_lined⟩
          exact ih item mem (parts item mem) (parts' other mem') here here_lined
  | mapping entries ih =>
      cases same_iff.mp equal with
      | mapping length matched =>
          have parts := (distinctEntries_iff.mp distinct_a).1
          have parts' := (distinctEntries_iff.mp distinct_b).1
          congr 1
          rw [← List.forall₂_eq_eq_eq]
          refine (forall₂_mem (aligned_entries distinct_a distinct_b length matched lined)).imp ?_
          rintro entry other ⟨⟨mem, mem'⟩, here, key_lined, value_lined⟩
          have keys := (ih entry mem).1 (parts entry mem).1 (parts' other mem').1 here.1 key_lined
          have values := (ih entry mem).2 (parts entry mem).2 (parts' other mem').2 here.2
            value_lined
          exact Prod.ext keys values
  | tagged tag value ih =>
      cases same_iff.mp equal with
      | tagged _ first => exact congrArg (Value.tagged tag) (ih distinct_a distinct_b first lined)

end Yaml.Value

end CloudCluster
