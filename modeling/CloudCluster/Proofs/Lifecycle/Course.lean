import CloudCluster.Proofs.Lifecycle.Crowd

/-!
The course of a task.

`Course` ties the stage of a task to what was run for it so far: the body of the first
call that starts it, then, if that has failed, its hook, and then the error is kept. No
turn leaves it (`Course.step`). `Sound` adds the callers: which start was the first, who
waits and who has returned; it is kept by every turn (`Sound.step`) and so by every run
(`Sound.run`).
-/

namespace CloudCluster.Lifecycle

/-- The hooks that are run behind an outcome: that of the first call, if the body has
failed. -/
def Outcome.hooks (outcome : Outcome) : List Nat :=
  match outcome.cause? with
  | some _ => [0]
  | none => []

/-- The errors that are kept behind an outcome: one, if the body has failed. -/
def Outcome.failures (operation : Operation) (outcome : Outcome) : List ClusterError :=
  (outcome.cause?.map (.ofFailure operation)).toList

namespace Crowd

/-- What was run for a task: the bodies that have begun, those that have ended, the
hooks, and the errors that were kept. -/
structure Past where
  entered : List Nat := []
  left : List (Nat × Outcome) := []
  hooks : List Nat := []
  kept : List ClusterError := []

/-- What was run for a task so far. -/
def past (crowd : Crowd) : Past where
  entered := crowd.entered
  left := crowd.left
  hooks := crowd.hooks
  kept := crowd.kept

/-- The stages of a task, with what is run before each. -/
inductive Course (operation : Operation) (past : Past) : Stage Ticket → Prop where
  | idle (is : past = {}) : Course operation past .idle
  | queued (is : past = {}) : Course operation past (.body ⟨0, false⟩)
  | entered (is : past = { entered := [0] }) : Course operation past (.body ⟨0, true⟩)
  | failed {outcome cause} (failure : outcome.cause? = some cause)
      (is : past = { entered := [0], left := [(0, outcome)] }) :
      Course operation past (.failed ⟨0, true⟩ cause)
  | undone {outcome cause} (failure : outcome.cause? = some cause)
      (is : past = { entered := [0], left := [(0, outcome)], hooks := [0] }) :
      Course operation past (.undone cause)
  | finishing {outcome} (is : past = {
        entered := [0], left := [(0, outcome)], hooks := outcome.hooks
        kept := outcome.failures operation }) :
      Course operation past .finishing
  | done {outcome} (is : past = {
        entered := [0], left := [(0, outcome)], hooks := outcome.hooks
        kept := outcome.failures operation }) :
      Course operation past .done

/-- What is true of a task and its callers at every point of a run. -/
structure Sound (operation : Operation) (crowd : Crowd) : Prop where
  named : crowd.task.operation = operation
  course : Course operation crowd.past crowd.task.stage
  first : ∀ number answer, crowd.starts[number]? = some answer → (answer = true ↔ number = 0)
  unstarted : crowd.starts = [] ↔ crowd.task.stage = .idle
  waiting : ∀ entry ∈ crowd.waiting, entry.2 = .running ∧ crowd.task.stage ≠ .idle
  early : crowd.task.phase ≠ .completed →
    ∀ answer ∈ crowd.returns, answer.since = .notStarted ∧ answer.result = .ok ()

variable {crowd next : Crowd} {operation : Operation} {turn : Turn} {caller : Nat}

/-! ### What was run -/

/-- A join takes over the error that the task has kept. -/
theorem kept_returned (crowd : Crowd) (caller : Nat) (since : Phase) :
    (crowd.returns ++ [(⟨caller, since, crowd.task.answer⟩ : Return)]).filterMap
      Return.error? ++ (none : Option ClusterError).toList = crowd.kept := by
  rw [List.filterMap_append, Option.toList_none, List.append_nil, kept, told]
  unfold Task.answer
  cases crowd.task.error <;> rfl

/-- What is run in a turn is what comes next in the course of the task. -/
theorem Course.step (course : Course operation crowd.past crowd.task.stage)
    (named : crowd.task.operation = operation)
    (unstarted : crowd.starts = [] ↔ crowd.task.stage = .idle)
    (happens : Happens crowd turn next) : Course operation next.past next.task.stage := by
  cases happens with
  | started idle =>
      have first : crowd.starts.length = 0 := List.length_eq_zero_iff.mpr (unstarted.mpr idle)
      rw [idle] at course
      cases course with
      | idle is =>
          dsimp only
          rw [first]
          exact .queued is
  | @returned caller resting =>
      have same := congrArg (fun kept => { crowd.past with kept })
        (kept_returned crowd caller (crowd.since caller))
      exact Eq.subst (motive := fun past => Course operation past crowd.task.stage)
        same.symm course
  | entered stage =>
      rw [stage] at course
      cases course with
      | queued is =>
          exact .entered (congrArg (fun past : Past =>
            { past with entered := past.entered ++ [0] }) is)
  | @succeeded number outcome stage success =>
      rw [stage] at course
      cases course with
      | entered is =>
          have ended := congrArg (fun past : Past =>
            { past with left := past.left ++ [(0, outcome)] }) is
          have nothing_due : ({ entered := [0], left := [(0, outcome)] } : Past) = {
              entered := [0], left := [(0, outcome)], hooks := outcome.hooks
              kept := outcome.failures operation } := by
            simp [Outcome.hooks, Outcome.failures, success]
          exact .finishing (ended.trans nothing_due)
  | @failed number outcome cause stage failure =>
      rw [stage] at course
      cases course with
      | entered is =>
          exact .failed failure (congrArg (fun past : Past =>
            { past with left := past.left ++ [(0, outcome)] }) is)
  | undone stage =>
      rw [stage] at course
      cases course with
      | failed failure is =>
          exact .undone failure (congrArg (fun past : Past =>
            { past with hooks := past.hooks ++ [0] }) is)
  | @captured cause stage =>
      rw [stage] at course
      cases course with
      | @undone outcome _ failure is =>
          obtain ⟨nobody_told, _⟩ := List.append_eq_nil_iff.mp (congrArg Past.kept is)
          have keeps : ({ entered := [0], left := [(0, outcome)], hooks := [0]
                          kept := [ClusterError.ofFailure operation cause] } : Past) = {
              entered := [0], left := [(0, outcome)], hooks := outcome.hooks
              kept := outcome.failures operation } := by
            simp [Outcome.hooks, Outcome.failures, failure]
          have captured := congrArg (fun past : Past =>
            { past with kept := [ClusterError.ofFailure operation cause] }) is
          have told_then_kept := congrArg (fun told => { crowd.past with
            kept := told ++ [ClusterError.ofFailure operation cause] }) nobody_told
          rw [named]
          exact .finishing (told_then_kept.trans (captured.trans keeps))
  | completed stage =>
      rw [stage] at course
      cases course with
      | finishing is => exact .done is
  | _ => exact course

/-! ### Callers -/

/-- Nobody waits for a task that was not started. -/
theorem Sound.nobody_waits (sound : crowd.Sound operation) (idle : crowd.task.stage = .idle) :
    crowd.waiting = [] := by
  rw [List.eq_nil_iff_forall_not_mem]
  intro entry mem
  exact (sound.waiting entry mem).2 idle

/-- A task that was not started keeps no error. -/
theorem Sound.error_of_idle (sound : crowd.Sound operation) (idle : crowd.task.stage = .idle) :
    crowd.task.error = none := by
  have course := sound.course
  rw [idle] at course
  cases course with
  | idle is =>
      obtain ⟨_, nothing_kept⟩ := List.append_eq_nil_iff.mp (congrArg Past.kept is)
      exact Option.toList_eq_nil_iff.mp nothing_kept

/-- Who joins before the start has not waited. -/
theorem Sound.since_of_idle (sound : crowd.Sound operation) (idle : crowd.task.stage = .idle) :
    crowd.since caller = .notStarted := by
  simp [since, sound.nobody_waits idle, Task.phase, idle, Stage.phase]

/-- Who waits has joined while the task was running. -/
theorem Sound.since_of_running (sound : crowd.Sound operation)
    (running : crowd.task.phase = .running) : crowd.since caller = .running := by
  unfold since
  cases found : crowd.waiting.lookup caller with
  | none => exact running
  | some phase =>
      obtain ⟨before, after, split, _⟩ := List.lookup_eq_some_iff.mp found
      have mem : (caller, phase) ∈ crowd.waiting := by simp [split]
      exact (sound.waiting _ mem).1

theorem Sound.first_step (sound : crowd.Sound operation) (happens : Happens crowd turn next) :
    ∀ number answer, next.starts[number]? = some answer → (answer = true ↔ number = 0) := by
  have append (answer : Bool) (right : answer = true ↔ crowd.starts.length = 0) :
      ∀ number answer', (crowd.starts ++ [answer])[number]? = some answer' →
        (answer' = true ↔ number = 0) := by
    intro number answer' here
    by_cases earlier : number < crowd.starts.length
    · rw [List.getElem?_append_left earlier] at here
      exact sound.first number answer' here
    · rw [List.getElem?_append_right (Nat.not_lt.mp earlier), List.getElem?_singleton] at here
      split at here
      · next last =>
        cases here
        have same : number = crowd.starts.length := by omega
        rw [same]
        exact right
      · cases here
  cases happens with
  | started idle =>
      have none_before : crowd.starts = [] := sound.unstarted.mpr idle
      exact append true (by simp [none_before])
  | refused begun =>
      have some_before : crowd.starts ≠ [] := mt sound.unstarted.mp begun
      exact append false (by simpa using some_before)
  | _ => exact sound.first

/-- Before the task is completed, joins return only to those who came before the start. -/
theorem Sound.early_step (sound : crowd.Sound operation) (happens : Happens crowd turn next)
    (unfinished : next.task.phase ≠ .completed) :
    ∀ answer ∈ next.returns, answer.since = .notStarted ∧ answer.result = .ok () := by
  have before (same : crowd.task.phase = .completed → next.task.phase = .completed) :=
    sound.early (mt same unfinished)
  cases happens with
  | @returned caller resting =>
      intro answer mem
      rcases List.mem_append.mp mem with earlier | last
      · exact before id answer earlier
      · cases List.mem_singleton.mp last
        have idle : crowd.task.stage = .idle := by
          unfold Task.isRunning at resting
          unfold Task.phase at resting unfinished
          cases stage : crowd.task.stage <;> simp_all [Stage.phase]
        constructor
        · exact sound.since_of_idle idle
        · simp [Task.answer, sound.error_of_idle idle]
  | started idle =>
      refine before ?_
      intro completed
      rw [Task.phase, idle] at completed
      cases completed
  | entered stage | succeeded stage | failed stage | undone stage | captured stage =>
      refine before ?_
      intro completed
      rw [Task.phase, stage] at completed
      cases completed
  | completed stage => exact absurd rfl unfinished
  | _ => exact before id

/-- Those who wait have joined while the task was running. -/
theorem Sound.waiting_step (sound : crowd.Sound operation) (happens : Happens crowd turn next) :
    ∀ entry ∈ next.waiting, entry.2 = .running ∧ next.task.stage ≠ .idle := by
  intro entry mem
  cases happens with
  | returned resting =>
      exact sound.waiting entry (List.mem_filter.mp mem).1
  | waits running =>
      have running : crowd.task.phase = .running := by simpa [Task.isRunning] using running
      rcases List.mem_cons.mp mem with here | other
      · cases here
        constructor
        · exact sound.since_of_running running
        · intro idle
          rw [Task.phase, idle] at running
          cases running
      · exact sound.waiting entry (List.mem_filter.mp other).1
  | started | entered | succeeded | failed | undone | captured | completed =>
      constructor
      · exact (sound.waiting entry mem).1
      · intro idle
        cases idle
  | _ => exact sound.waiting entry mem

/-- The task is idle for as long as nobody has started it. -/
theorem Sound.unstarted_step (sound : crowd.Sound operation)
    (happens : Happens crowd turn next) : next.starts = [] ↔ next.task.stage = .idle := by
  have begun {stage : Stage Ticket} (here : crowd.task.stage = stage) (moved : stage ≠ .idle) :
      crowd.starts ≠ [] := by
    intro nobody
    exact moved (here.symm.trans (sound.unstarted.mp nobody))
  cases happens with
  | started | refused => simp_all
  | entered stage | succeeded stage | failed stage | undone stage | captured stage
  | completed stage => simpa using begun stage (by simp)
  | _ => exact sound.unstarted

/-! ### Runs -/

theorem Happens.operation_eq (happens : Happens crowd turn next) :
    next.task.operation = crowd.task.operation := by
  cases happens <;> rfl

theorem Sound.step (sound : crowd.Sound operation) (turn : Turn) :
    (crowd.step turn).Sound operation :=
  have happens := happens_step crowd turn
  { named := happens.operation_eq.trans sound.named
    course := sound.course.step sound.named sound.unstarted happens
    first := sound.first_step happens
    unstarted := sound.unstarted_step happens
    waiting := sound.waiting_step happens
    early := sound.early_step happens }

theorem sound_new (operation : Operation) : (new operation).Sound operation where
  named := rfl
  course := .idle rfl
  first := by simp [new]
  unstarted := by simp [new]
  waiting := by simp [new]
  early := by simp [new]

theorem Sound.run (sound : crowd.Sound operation) (turns : List Turn) :
    (crowd.run turns).Sound operation := by
  induction turns generalizing crowd with
  | nil => exact sound
  | cons turn later ih => exact ih (sound.step turn)

/-! ### What follows -/

theorem Sound.told_of_unfinished (sound : crowd.Sound operation)
    (unfinished : crowd.task.phase ≠ .completed) : crowd.told = [] := by
  rw [told, List.filterMap_eq_nil_iff]
  intro answer mem
  have ok := (sound.early unfinished answer mem).2
  rw [Return.error?, ok]

section Course

variable {past : Past} {stage : Stage Ticket}

theorem Course.entered_prefix (course : Course operation past stage) :
    past.entered <+: [0] := by
  cases course with
  | idle is | queued is | entered is | failed _ is | undone _ is | finishing is | done is =>
      simp [is]

theorem Course.left_prefix (course : Course operation past stage) :
    past.left.map Prod.fst <+: past.entered := by
  cases course with
  | idle is | queued is | entered is | failed _ is | undone _ is | finishing is | done is =>
      simp [is]

theorem Course.hooks_prefix (course : Course operation past stage) :
    past.hooks <+: past.left.flatMap (·.2.hooks) := by
  cases course with
  | idle is | queued is | entered is | failed _ is | finishing is | done is => simp [is]
  | undone failure is => simp [is, Outcome.hooks, failure]

theorem Course.of_completed (course : Course operation past stage)
    (completed : stage.phase = .completed) : ∃ outcome,
      past.left = [(0, outcome)] ∧ past.hooks = outcome.hooks ∧
        past.kept = outcome.failures operation := by
  cases course with
  | done is => simp [is]
  | _ => cases completed

/-- What is about to be completed has nothing left to do. -/
theorem Course.of_finishing (course : Course operation past .finishing) : ∃ outcome,
    past.left = [(0, outcome)] ∧ past.hooks = outcome.hooks ∧
      past.kept = outcome.failures operation := by
  cases course with
  | finishing is => simp [is]

end Course

end Crowd

end CloudCluster.Lifecycle
