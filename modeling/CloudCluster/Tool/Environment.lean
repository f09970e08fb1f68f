/-!
Environment variables for one call of the provisioning tool.

Credentials go to the tool this way and not through the environment of the
whole process, so clusters on different providers do not disturb each other.
The variables are kept in ascending order of name, each name once.
-/

namespace CloudCluster.Tool

/-- Puts a variable at its place in an ascending list, in place of the one of
the same name. -/
def insertVariable (key value : String) : List (String × String) → List (String × String)
  | [] => [(key, value)]
  | (k, v) :: rest =>
    if key = k then (key, value) :: rest
    else if key < k then (key, value) :: (k, v) :: rest
    else (k, v) :: insertVariable key value rest

theorem mem_insertVariable {key value : String} {bindings : List (String × String)}
    {p : String × String} (h : p ∈ insertVariable key value bindings) :
    p = (key, value) ∨ p ∈ bindings := by
  induction bindings with
  | nil => simpa [insertVariable] using h
  | cons head rest ih =>
    obtain ⟨k, v⟩ := head
    unfold insertVariable at h
    split at h
    · grind
    · split at h <;> grind

theorem pairwise_insertVariable {key value : String} {bindings : List (String × String)}
    (h : bindings.Pairwise (·.1 < ·.1)) :
    (insertVariable key value bindings).Pairwise (·.1 < ·.1) := by
  induction bindings with
  | nil => simp [insertVariable]
  | cons head rest ih =>
    obtain ⟨k, v⟩ := head
    obtain ⟨below, sorted⟩ := List.pairwise_cons.mp h
    unfold insertVariable
    split
    · rename_i eq
      subst eq
      exact List.pairwise_cons.mpr ⟨below, sorted⟩
    · rename_i ne
      split
      · rename_i lt
        refine List.pairwise_cons.mpr ⟨fun p hp => ?_, h⟩
        rcases List.mem_cons.mp hp with rfl | hp
        · exact lt
        · exact String.lt_trans lt (below p hp)
      · rename_i nlt
        refine List.pairwise_cons.mpr ⟨fun p hp => ?_, ih sorted⟩
        rcases mem_insertVariable hp with rfl | hp
        · rcases Decidable.em (k < key) with lt | nlt'
          · exact lt
          · exact absurd (String.le_antisymm (String.not_lt.mp nlt') (String.not_lt.mp nlt)) ne
        · exact below p hp

/-- Environment variables in ascending order of name. -/
structure Environment where
  bindings : List (String × String) := []
  ascending : bindings.Pairwise (·.1 < ·.1) := by simp
  deriving DecidableEq, Repr

namespace Environment

/-- No variables. -/
def empty : Environment := {}

/-- The environment with a variable set. -/
def set (environment : Environment) (key value : String) : Environment where
  bindings := insertVariable key value environment.bindings
  ascending := pairwise_insertVariable environment.ascending

/-- The value of a variable. -/
def get? (environment : Environment) (key : String) : Option String :=
  environment.bindings.lookup key

/-- Whether no variable is set. -/
def isEmpty (environment : Environment) : Bool :=
  environment.bindings.isEmpty

end Environment

end CloudCluster.Tool
