import Mathlib.Data.List.Forall2

/-!
Computations that can fail, one after the other.
-/

namespace CloudCluster

variable {ε ε' α β : Type}

/-- Two computations have a result iff the first has one and the second has one
on it. -/
theorem bind_eq_ok {first : Except ε α} {second : α → Except ε β} {b : β} :
    (first >>= second) = .ok b ↔ ∃ a, first = .ok a ∧ second a = .ok b := by
  cases first <;> simp [bind, Except.bind]

/-- Computations on the members of a list have results iff each of them has its own. -/
theorem mapM_eq_ok {f : α → Except ε β} {as : List α} {bs : List β} :
    as.mapM f = .ok bs ↔ List.Forall₂ (fun a b => f a = .ok b) as bs := by
  induction as generalizing bs with
  | nil => simp [pure, Except.pure, eq_comm]
  | cons a as ih =>
      simp only [List.mapM_cons, bind_eq_ok, ih, List.forall₂_cons_left_iff]
      constructor
      · rintro ⟨b, ofHead, bs, ofRest, done⟩
        cases done
        exact ⟨b, bs, ofHead, ofRest, rfl⟩
      · rintro ⟨b, bs, ofHead, ofRest, rfl⟩
        exact ⟨b, ofHead, bs, ofRest, rfl⟩

@[simp]
theorem map_ok {f : α → β} {a : α} : (Except.ok a : Except ε α).map f = .ok (f a) := rfl

@[simp]
theorem map_error {f : α → β} {error : ε} :
    (Except.error error : Except ε α).map f = .error error := rfl

@[simp]
theorem mapError_ok {f : ε → ε'} {a : α} :
    (Except.ok a : Except ε α).mapError f = .ok a := rfl

@[simp]
theorem mapError_error {f : ε → ε'} {error : ε} :
    (Except.error error : Except ε α).mapError f = .error (f error) := rfl

theorem mapError_eq_ok {first : Except ε α} {f : ε → ε'} {a : α} :
    first.mapError f = .ok a ↔ first = .ok a := by
  cases first <;> simp

theorem isOk_iff {result : Except ε α} : result.isOk = true ↔ ∃ a, result = .ok a := by
  cases result <;> simp [Except.isOk, Except.toBool]

theorem isOk_mapError {result : Except ε α} {f : ε → ε'} :
    (result.mapError f).isOk = result.isOk := by
  cases result <;> rfl

theorem isOk_map {result : Except ε α} {f : α → β} : (result.map f).isOk = result.isOk := by
  cases result <;> rfl

/-- Where the second computation has a result on all values or on none, that alone
counts of it. -/
theorem isOk_bind {first : Except ε α} {second : α → Except ε β} {b : Bool}
    (uniform : ∀ a, (second a).isOk = b) : (first >>= second).isOk = (first.isOk && b) := by
  cases first with
  | error e => rfl
  | ok a => exact uniform a

end CloudCluster
