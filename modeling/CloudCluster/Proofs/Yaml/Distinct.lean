import CloudCluster.Proofs.Except
import CloudCluster.Proofs.Yaml.Same
import CloudCluster.Yaml.Document

/-!
Values that are read have each key once.

A mapping with a key twice is refused when it is composed, so all results of `compose`
are `distinct`, whatever the nodes and their anchors are.
-/

namespace CloudCluster.Yaml

/-! ### Results of computations -/

/-- All results of a computation have a property. -/
def Yields {α : Type} (P : α → Prop) (computation : Composing α) : Prop :=
  ∀ count result, computation.run count = .ok result → P result.1

section Yields

variable {α β : Type} {P : α → Prop} {Q : β → Prop}

theorem yields_pure {a : α} (holds : P a) : Yields P (pure a : Composing α) := by
  intro count result ran
  cases ran
  exact holds

theorem yields_throw {e : Error} : Yields P (throw e : Composing α) := by
  intro count result ran
  cases ran

theorem yields_of_except {outcome : Except Error α} (holds : ∀ a, outcome = .ok a → P a) :
    Yields P (outcome : Composing α) := by
  intro count result ran
  obtain ⟨a, computed, same⟩ := bind_eq_ok.mp ran
  cases same
  exact holds a computed

/-- Results of the second computation are results on a result of the first. -/
theorem yields_bind {first : Composing α} {second : α → Composing β} (holds : Yields P first)
    (holds' : ∀ a, P a → Yields Q (second a)) : Yields Q (first >>= second) := by
  intro count result ran
  obtain ⟨⟨a, count'⟩, computed, ran'⟩ := bind_eq_ok.mp ran
  exact holds' a (holds count _ computed) count' result ran'

theorem yields_mapM {f : α → Composing β} {as : List α} (each : ∀ a, Yields Q (f a)) :
    Yields (fun bs => ∀ b ∈ bs, Q b) (as.mapM f) := by
  induction as with
  | nil =>
      rw [List.mapM_nil]
      exact yields_pure (by simp)
  | cons a rest ih =>
      rw [List.mapM_cons]
      refine yields_bind (each a) fun b here => yields_bind ih fun bs behind => ?_
      exact yields_pure (List.forall_mem_cons.mpr ⟨here, behind⟩)

end Yields

/-! ### Scalars -/

theorem distinct_resolve {text : String} {value : Value} (read : Plain.resolve text = .ok value) :
    value.distinct = true := by
  unfold Plain.resolve at read
  dsimp only at read
  repeat' split at read
  all_goals cases read <;> rfl

theorem distinct_globalScalar {tag text : String} {value : Value}
    (read : globalScalar tag text = .ok value) : value.distinct = true := by
  unfold globalScalar at read
  dsimp only at read
  repeat' split at read
  all_goals cases read <;> rfl

theorem distinct_scalarValue {tag : Option String} {text : String} {style : ScalarStyle}
    {value : Value} (read : scalarValue tag text style = .ok value) : value.distinct = true := by
  have plain {value : Value}
      (read : (if style = .plain then Plain.resolve text else .ok (.string text)) = .ok value) :
      value.distinct = true := by
    split at read
    · exact distinct_resolve read
    · cases read
      rfl
  unfold scalarValue at read
  split at read
  · exact distinct_globalScalar read
  · dsimp only at read
    split at read
    · next tag' _ =>
      cases inner : (if style = .plain then Plain.resolve text else .ok (.string text)) with
      | error e =>
          rw [inner] at read
          cases read
      | ok value' =>
          rw [inner] at read
          cases read
          have ofInner := plain inner
          exact ofInner
    · exact plain read

/-! ### Collections -/

theorem distinct_applyTag (tag : Option String) (value : Value) :
    (applyTag tag value).distinct = value.distinct := by
  unfold applyTag
  cases localTag? tag <;> rfl

theorem distinct_of_hasDuplicateKey {entries : Entries} (once : hasDuplicateKey entries = false)
    (parts : ∀ entry ∈ entries, entry.1.distinct = true ∧ entry.2.distinct = true) :
    (Value.mapping entries).distinct = true := by
  refine Value.distinctEntries_iff.mpr ⟨parts, ?_⟩
  induction entries with
  | nil => exact .nil
  | cons entry rest ih =>
      simp only [hasDuplicateKey, Bool.or_eq_false_iff, List.any_eq_false, Bool.not_eq_true] at once
      exact List.pairwise_cons.mpr
        ⟨once.1, ih once.2 fun e mem => parts e (List.mem_cons_of_mem _ mem)⟩

/-- Composed values have each key once. -/
theorem yields_compose (anchors : Anchors) (limit depth : Nat) (node : LinkedNode) :
    Yields (fun value => value.distinct = true) (compose anchors limit depth node) := by
  have followed (node : LinkedNode) : Yields (fun _ => True) (follow anchors limit node) :=
    fun _ _ _ => trivial
  induction depth generalizing node with
  | zero =>
      rw [compose]
      refine yields_bind (followed node) fun node _ => ?_
      split
      · exact yields_of_except fun value read => distinct_scalarValue read
      · exact yields_throw
  | succ depth ih =>
      rw [compose]
      refine yields_bind (followed node) fun node _ => ?_
      split
      · exact yields_of_except fun value read => distinct_scalarValue read
      · refine yields_bind (yields_mapM ih) fun items parts => yields_pure ?_
        rw [distinct_applyTag]
        exact Value.distinctItems_iff.mpr parts
      · have each (entry : LinkedNode × LinkedNode) :
            Yields (fun entry : Value × Value =>
                entry.1.distinct = true ∧ entry.2.distinct = true)
              (do
                let key ← compose anchors limit depth entry.1
                return (key, ← compose anchors limit depth entry.2)) :=
          yields_bind (ih entry.1) fun key ofKey =>
            yields_bind (ih entry.2) fun value ofValue => yields_pure ⟨ofKey, ofValue⟩
        refine yields_bind (yields_mapM each) fun entries parts => ?_
        split
        · exact yields_throw
        · next once =>
          refine yields_pure ?_
          rw [distinct_applyTag]
          exact distinct_of_hasDuplicateKey (Bool.eq_false_iff.mpr once) parts
      · exact yields_throw

/-- Values that are read have each key once. -/
theorem distinct_read {text : String} {value : Value} (done : read text = .ok value) :
    value.distinct = true := by
  obtain ⟨tokens, _, rest⟩ := bind_eq_ok.mp done
  obtain ⟨root, _, composed⟩ := bind_eq_ok.mp rest
  cases root with
  | none =>
      cases composed
      rfl
  | some root =>
      obtain ⟨⟨node, anchors⟩, _, rest⟩ := bind_eq_ok.mp composed
      obtain ⟨⟨value', count⟩, ran, same⟩ := bind_eq_ok.mp rest
      cases same
      exact yields_compose _ _ _ _ _ _ ran

end CloudCluster.Yaml
