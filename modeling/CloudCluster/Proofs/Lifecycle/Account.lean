import CloudCluster.Proofs.Lifecycle.Callers
import CloudCluster.Proofs.Lifecycle.Moves

/-!
What callers know of one operation.

An `Account` has what decides who is told of a failure: the task, whether it is
awaited, what was reported, and what the calls that wait for it have returned.
`Account.Step` has the few ways in which an occurrence can change it.
-/

namespace CloudCluster.Lifecycle

open Controller

/-- The failures of one operation are none of the other's. -/
theorem ofFailure_inj {first second : Operation} {cause cause' : ProvisionError}
    (same : ClusterError.ofFailure first cause = .ofFailure second cause') : first = second := by
  cases first <;> cases second <;> first | rfl | cases same

/-- An operation as its callers know it. -/
structure Account where
  task : Task Job
  awaited : Bool
  reported : List Report
  returned : List (Except ClusterError Unit)

/-- The account of an operation. -/
def Callers.account (callers : Callers) (operation : Operation) : Account where
  task := callers.controller.task operation
  awaited := callers.isAwaited operation
  reported := callers.reported operation
  returned := (callers.returned operation).map (·.result)

/-- What an occurrence changes in the account of an operation. -/
inductive Account.Step (operation : Operation) : Occurrence → Account → Account → Prop where
  | same {occurrence account} : Step operation occurrence account account
  | launched {account wait job} (idle : account.task.stage = .idle) :
      Step operation (.event (.call operation wait)) account
        { account with
          task := { account.task.heard wait with stage := .body job }
          awaited := account.awaited || wait }
  | heard {account wait} (begun : account.task.stage ≠ .idle) :
      Step operation (.event (.call operation wait)) account
        { account with task := account.task.heard wait, awaited := account.awaited || wait }
  | moved {account event stage} (step : StageStep event operation account.task.stage stage)
      (uncalled : ∀ wait, event ≠ .call operation wait) (uncaptured : event ≠ .capture operation) :
      Step operation (.event event) account { account with task := { account.task with stage } }
  | captured {account cause} (stage : account.task.stage = .undone cause) :
      Step operation (.event (.capture operation)) account
        { account with
          task := { account.task with
            stage := .finishing
            error := some (.ofFailure operation cause) }
          reported := account.reported ++
            if account.task.silent then [] else [⟨operation, .ofFailure operation cause⟩] }
  | joined {account number} (awaited : account.awaited = true)
      (resting : account.task.isRunning = false) :
      Step operation (.resume number) account
        { account with
          task := { account.task with error := none }
          returned := account.returned ++ [account.task.answer] }

/-- Whether each task of a controller is for its operation. -/
def Controller.Named (controller : Controller) : Prop :=
  ∀ operation, (controller.task operation).operation = operation

/-- A failure is reported by its capture only. -/
theorem Controller.Change.reports {controller next : Controller} {event : Event}
    {effects : List Effect} (change : Change controller event next effects)
    (named : controller.Named) {operation : Operation} (uncaptured : event ≠ .capture operation) :
    (effects.filterMap Session.reportOf?).filter (·.operation = operation) = [] := by
  cases change with
  | @captured called cause stage =>
      have different : called ≠ operation := fun same => uncaptured (same ▸ rfl)
      split <;> simp [Session.reportOf?, named called, different]
  | _ => simp [Session.reportOf?]

namespace Account

variable {account next : Account} {operation : Operation} {occurrence : Occurrence}

theorem Step.of_eq (same : next = account) : Step operation occurrence account next :=
  same ▸ .same

/-- What an accepted call changes. -/
theorem Step.of_call {controller next : Controller} {called : Operation} {wait : Bool}
    {effects : List Effect} (account : Account) (is : account.task = controller.task operation)
    (free : controller.isRunning called.other = false)
    (change : Change controller (.call called wait) next effects) :
    Step operation (.event (.call called wait)) account
      { account with
        task := next.task operation
        awaited := account.awaited || (wait && called = operation) } := by
  obtain ⟨unheard, heard⟩ := change.task_of_call free
  rcases operation.eq_or_eq_other called with rfl | rfl
  · rw [← is] at heard
    rcases heard with ⟨job, idle, task⟩ | ⟨begun, task⟩
    · rw [task]
      simpa using Step.launched idle
    · rw [task]
      simpa using Step.heard begun
  · rw [unheard, ← is]
    exact .of_eq (by simp [called.other_ne.symm])

/-- What an event changes that is no call and no join. -/
theorem Step.of_work {controller next : Controller} {event : Event} {effects : List Effect}
    (account : Account) (is : account.task = controller.task operation)
    (named : controller.Named) (change : Change controller event next effects)
    (uncalled : ∀ operation wait, event ≠ .call operation wait)
    (unjoined : ∀ operation, event ≠ .join operation) :
    Step operation (.event event) account
      { account with
        task := next.task operation
        reported := account.reported ++
          (effects.filterMap Session.reportOf?).filter (·.operation = operation) } := by
  by_cases captures : event = .capture operation
  · subst captures
    rcases change.task_of_capture with ⟨rfl, rfl⟩ | ⟨cause, stage, task, rfl⟩
    · exact .of_eq (by simp [← is])
    · have name : account.task.operation = operation := is ▸ named operation
      rw [← is] at stage task ⊢
      have step : Step operation (.event (.capture operation)) account _ := .captured stage
      cases silent : account.task.silent <;>
        simpa [task, name, silent, Session.reportOf?] using step
  · rw [change.reports named captures, List.append_nil]
    rcases change.task_of_work uncalled unjoined captures with same | ⟨stage, step, task⟩
    · exact .of_eq (by rw [same, ← is])
    · rw [task, ← is]
      exact .moved (is ▸ step) (uncalled operation) captures

/-- What is true of every account that can be reached. Nobody is told before the
task has captured an error or has succeeded. -/
structure Valid (operation : Operation) (account : Account) : Prop where
  named : account.task.operation = operation
  silent : account.task.silent = account.awaited
  begun : account.awaited = true → account.task.stage ≠ .idle
  kept : ∀ error, account.task.error = some error → ∃ cause, error = .ofFailure operation cause
  early : account.task.stage ≠ .finishing → account.task.stage ≠ .done →
    account.task.error = none ∧ account.reported = [] ∧ account.returned = []

theorem Valid.done (valid : account.Valid operation) (awaited : account.awaited = true)
    (resting : account.task.isRunning = false) : account.task.stage = .done := by
  have begun := valid.begun awaited
  cases stage : account.task.stage with
  | idle => exact absurd stage begun
  | done => rfl
  | _ => simp [Task.isRunning, Task.phase, stage, Stage.phase] at resting

/-- No stage leads back to an earlier one. -/
theorem settles_of_stageStep {event : Event} {stage becomes : Stage Job}
    (step : StageStep event operation stage becomes) :
    becomes ≠ .idle ∧
      (becomes ≠ .finishing → becomes ≠ .done → stage ≠ .finishing ∧ stage ≠ .done) := by
  cases step <;> simp

theorem Valid.step (valid : account.Valid operation)
    (step : Account.Step operation occurrence account next) : next.Valid operation := by
  cases step with
  | same => exact valid
  | launched idle =>
      have early := valid.early (by simp [idle]) (by simp [idle])
      exact ⟨by simp [valid.named], by simp [valid.silent], by simp, by simpa using valid.kept,
        fun _ _ => by simpa using early⟩
  | heard begun =>
      exact ⟨by simp [valid.named], by simp [valid.silent], by simp [begun],
        by simpa using valid.kept, by simpa using valid.early⟩
  | moved step uncalled uncaptured =>
      obtain ⟨begun, onward⟩ := settles_of_stageStep step
      refine ⟨valid.named, valid.silent, fun _ => begun, valid.kept, fun unfinished undone => ?_⟩
      obtain ⟨unfinished, undone⟩ := onward unfinished undone
      exact valid.early unfinished undone
  | captured stage =>
      refine ⟨valid.named, valid.silent, by simp, ?_, by simp⟩
      rintro error ⟨⟩
      exact ⟨_, rfl⟩
  | joined awaited resting =>
      have done := valid.done awaited resting
      exact ⟨valid.named, valid.silent, valid.begun, nofun, by simp [done]⟩

end Account

namespace Callers

variable {callers next : Callers} {occurrence : Occurrence}

theorem Happens.accountStep (happens : Happens callers occurrence next)
    (named : callers.controller.Named) (operation : Operation) :
    Account.Step operation occurrence (callers.account operation) (next.account operation) := by
  cases happens with
  | rejected busy =>
      exact .of_eq (by simp [account, isAwaited, returned, reported, Visit.waits])
  | @accepted called wait next effects free change =>
      have step := Account.Step.of_call (callers.account operation) rfl free change
      cases wait <;> simpa [account, isAwaited, returned, reported, Visit.waits] using step
  | @resumed number visit known waits unanswered resting =>
      by_cases same : visit.operation = operation
      · subst same
        have awaited : callers.isAwaited visit.operation = true :=
          List.any_eq_true.mpr ⟨visit, List.mem_of_getElem? known, waits⟩
        have step : Account.Step visit.operation (.resume number)
            (callers.account visit.operation) _ :=
          .joined awaited resting
        simpa [account, isAwaited, returned, reported, waits] using step
      · exact .of_eq
          (by simp [account, isAwaited, returned, reported, Visit.waits, same, Ne.symm same])
  | worked uncalled unjoined change =>
      have step :=
        Account.Step.of_work (callers.account operation) rfl named change uncalled unjoined
      simpa [account, isAwaited, returned, reported] using step
  | unchanged => exact .same

/-- What is true of a controller and its callers at every point of a run. -/
structure Sound (callers : Callers) : Prop where
  valid : ∀ operation, (callers.account operation).Valid operation
  known : ∀ answer ∈ callers.answers, callers.visits[answer.number]? = some answer.visit
  once : (callers.answers.map (·.number)).Nodup
  told : ∀ answer ∈ callers.answers, ∀ operation cause,
    answer.result = .error (.ofFailure operation cause) → answer.visit.waits operation = true

theorem Sound.named (sound : callers.Sound) : callers.controller.Named :=
  fun operation => (sound.valid operation).named

/-- Whether an answer may be given next: its call has not returned, and it tells
of a failure only those that wait for it. -/
structure Answerable (callers : Callers) (visits : List Visit) (answer : Answer) : Prop where
  known : visits[answer.number]? = some answer.visit
  unanswered : callers.hasReturned answer.number = false
  told : ∀ operation cause, answer.result = .error (.ofFailure operation cause) →
    answer.visit.waits operation = true

theorem Sound.hasReturned_length (sound : callers.Sound) :
    callers.hasReturned callers.visits.length = false := by
  rw [hasReturned, List.any_eq_false]
  intro answer mem same
  have known := sound.known answer mem
  rw [of_decide_eq_true same] at known
  simp at known

/-- An answer at most is given at a time. -/
theorem Happens.answered (happens : Happens callers occurrence next) (sound : callers.Sound) :
    callers.visits <+: next.visits ∧
      (next.answers = callers.answers ∨ ∃ answer, next.answers = callers.answers ++ [answer] ∧
        callers.Answerable next.visits answer) := by
  have fresh := sound.hasReturned_length
  cases happens with
  | @rejected called wait busy =>
      refine ⟨List.prefix_append _ _, Or.inr ⟨_, rfl, by simp, fresh, ?_⟩⟩
      intro operation cause same
      cases operation <;> cases same
  | @accepted called wait controller effects free change =>
      refine ⟨List.prefix_append _ _, ?_⟩
      cases wait with
      | true => exact Or.inl (by simp)
      | false => exact Or.inr ⟨_, rfl, by simp, fresh, nofun⟩
  | @resumed number visit known waits unanswered resting =>
      refine ⟨List.prefix_rfl, Or.inr ⟨_, rfl, known, unanswered, ?_⟩⟩
      intro operation cause told
      obtain ⟨_, is⟩ := (sound.valid visit.operation).kept _ (Task.error_of_answer told)
      rw [ofFailure_inj is]
      exact waits
  | worked uncalled unjoined change => exact ⟨List.prefix_rfl, Or.inl rfl⟩
  | unchanged => exact ⟨List.prefix_rfl, Or.inl rfl⟩

theorem Sound.step (sound : callers.Sound) (happens : Happens callers occurrence next) :
    next.Sound := by
  obtain ⟨visits, answers⟩ := happens.answered sound
  have earlier (answer : Answer) (mem : answer ∈ callers.answers) :
      next.visits[answer.number]? = some answer.visit := by
    obtain ⟨bound, here⟩ := List.getElem?_eq_some_iff.mp (sound.known answer mem)
    rw [List.prefix_iff_getElem?.mp visits _ bound, here]
  have valid (operation : Operation) : (next.account operation).Valid operation :=
    (sound.valid operation).step (happens.accountStep sound.named operation)
  rcases answers with same | ⟨answer, last, answerable⟩
  · exact ⟨valid, same ▸ earlier, same ▸ sound.once, same ▸ sound.told⟩
  · have new (old : Answer) (mem : old ∈ callers.answers) : old.number ≠ answer.number :=
      fun same => List.any_eq_false.mp answerable.unanswered old mem (decide_eq_true same)
    refine ⟨valid, ?_, ?_, ?_⟩ <;> rw [last]
    · intro given mem
      rcases List.mem_append.mp mem with old | last
      · exact earlier given old
      · rw [List.mem_singleton.mp last]
        exact answerable.known
    · rw [List.map_append, List.nodup_append]
      refine ⟨sound.once, by simp, ?_⟩
      simpa using new
    · intro given mem
      rcases List.mem_append.mp mem with old | last
      · exact sound.told given old
      · rw [List.mem_singleton.mp last]
        exact answerable.told

theorem Sound.run (sound : callers.Sound) (occurrences : List Occurrence) :
    (callers.run occurrences).Sound := by
  induction occurrences generalizing callers with
  | nil => exact sound
  | cons occurrence rest ih => exact ih (sound.step (happens_step callers occurrence))

end Callers

end CloudCluster.Lifecycle
