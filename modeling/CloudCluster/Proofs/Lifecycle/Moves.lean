import CloudCluster.Proofs.Lifecycle.Change

/-!
What changes do to the tasks.

A change moves one task at most. `StageStep` has the stages between which each
event can move it; `Change.stageStep` takes any change apart into such steps, so
that what depends on the stage of a task alone is shown by cases on the step. The
rest of a task is touched by calls, captures and joins only.
-/

namespace CloudCluster.Lifecycle.Controller

/-- The stages between which an event takes the task of an operation. -/
inductive StageStep : Event → Operation → Stage Job → Stage Job → Prop where
  | launched {operation wait state} :
      StageStep (.call operation wait) operation .idle (.body (.launched operation state))
  | invoked {operation rollbackTo} :
      StageStep (.begin operation) operation (.body ⟨.queued, rollbackTo⟩)
        (.body ⟨.calling, rollbackTo⟩)
  | returned {operation rollbackTo} :
      StageStep (.answered operation .success) operation (.body ⟨.calling, rollbackTo⟩)
        (.body ⟨.afterCall operation, rollbackTo⟩)
  | broken {operation outcome cause rollbackTo} (failure : outcome.cause? = some cause) :
      StageStep (.answered operation outcome) operation (.body ⟨.calling, rollbackTo⟩)
        (.failed ⟨.calling, rollbackTo⟩ cause)
  | reloaded {document rollbackTo} :
      StageStep (.loaded (.ok document)) .spawn (.body ⟨.returned, rollbackTo⟩)
        (.body ⟨.holding (some document), rollbackTo⟩)
  | unreadable {error rollbackTo path} :
      StageStep (.loaded (.error error)) .spawn (.body ⟨.returned, rollbackTo⟩)
        (.failed ⟨.returned, rollbackTo⟩ (.reload path error.message))
  | configRecorded {operation document rollbackTo} :
      StageStep (.recordConfig operation) operation (.body ⟨.holding document, rollbackTo⟩)
        (.body ⟨.recorded, rollbackTo⟩)
  | stateRecorded {operation rollbackTo} :
      StageStep (.recordState operation) operation (.body ⟨.recorded, rollbackTo⟩) .finishing
  | undone {operation job cause} :
      StageStep (.undo operation) operation (.failed job cause) (.undone cause)
  | captured {operation cause} :
      StageStep (.capture operation) operation (.undone cause) .finishing
  | completed {operation} : StageStep (.complete operation) operation .finishing .done

/-- Only the task of one operation moves, to another stage. -/
def Moves (controller next : Controller) (operation : Operation) (stage : Stage Job) : Prop :=
  ∀ which, (next.task which).stage = ((controller.atStage operation stage).task which).stage

variable {controller next : Controller} {event : Event} {effects : List Effect}
  {operation : Operation} {stage becomes : Stage Job}

theorem isRunning_of_stage (is : (controller.task operation).stage = stage)
    (running : stage.phase = .running) : controller.isRunning operation = true := by
  simp [isRunning, Task.isRunning, Task.phase, is, running]

theorem isRunning_congr
    (same : (next.task operation).stage = (controller.task operation).stage) :
    next.isRunning operation = controller.isRunning operation := by
  unfold isRunning Task.isRunning Task.phase
  rw [same]

theorem stage_withTask {task : Task Job} (kept : task.stage = (controller.task operation).stage)
    (which : Operation) :
    ((controller.withTask operation task).task which).stage = (controller.task which).stage := by
  rcases which.eq_or_eq_other operation with rfl | rfl <;> simp [kept]

theorem resting_of_idle (free : controller.isRunning operation.other = false)
    (idle : (controller.task operation).stage = .idle) (which : Operation) :
    controller.isRunning which = false := by
  rcases which.eq_or_eq_other operation with rfl | rfl
  · simp [isRunning, Task.isRunning, Task.phase, idle, Stage.phase]
  · exact free

namespace Moves

theorem atStage : Moves controller (controller.atStage operation becomes) operation becomes :=
  fun _ => rfl

theorem withTask {task : Task Job} (is : task.stage = becomes) :
    Moves controller (controller.withTask operation task) operation becomes := by
  intro which
  rcases which.eq_or_eq_other operation with rfl | rfl <;> simp [is]

theorem withState (moves : Moves controller next operation becomes) (state : ClusterState) :
    Moves controller (next.withState state) operation becomes := by
  simpa [Moves] using moves

theorem withConfig (moves : Moves controller next operation becomes)
    (config : Option ClusterConfig) :
    Moves controller (next.withConfig config) operation becomes := by
  simpa [Moves] using moves

theorem moved (moves : Moves controller next operation becomes) :
    (next.task operation).stage = becomes := by
  rw [moves operation, task_atStage]

theorem other (moves : Moves controller next operation becomes) :
    next.isRunning operation.other = controller.isRunning operation.other :=
  isRunning_congr (by simp [moves operation.other])

/-- If the spawner has not begun after a start, then it was not this that started. -/
theorem unspawned (moves : Moves controller next operation becomes) (begun : becomes ≠ .idle)
    (idle : (next.task .spawn).stage = .idle) :
    operation = .destroy ∧ (controller.task .spawn).stage = .idle := by
  rw [moves .spawn] at idle
  cases operation with
  | spawn => exact absurd (by simpa using idle) begun
  | destroy => exact ⟨rfl, by simpa using idle⟩

end Moves

theorem Moves.stageStep (moves : Moves controller next operation becomes)
    (is : (controller.task operation).stage = stage)
    (step : StageStep event operation stage becomes) (which : Operation) :
    (next.task which).stage = (controller.task which).stage ∨
      StageStep event which (controller.task which).stage (next.task which).stage := by
  rcases which.eq_or_eq_other operation with rfl | rfl
  · rw [moves.moved, is]
    exact Or.inr step
  · exact Or.inl (by simp [moves operation.other])

/-- A change takes each task one step at most. -/
theorem Change.stageStep (change : Change controller event next effects) (which : Operation) :
    (next.task which).stage = (controller.task which).stage ∨
      StageStep event which (controller.task which).stage (next.task which).stage := by
  cases change with
  | rejected busy => exact Or.inl rfl
  | launched free idle => exact ((Moves.withTask rfl).withState _).stageStep idle .launched which
  | repeated free begun => exact Or.inl (stage_withTask (by simp) which)
  | invoked stage => exact Moves.atStage.stageStep stage .invoked which
  | returned stage => exact Moves.atStage.stageStep stage .returned which
  | broken failure stage => exact Moves.atStage.stageStep stage (.broken failure) which
  | reloaded stage =>
      have spawner : (controller.task .spawn).stage = _ := stage
      exact Moves.atStage.stageStep spawner .reloaded which
  | unreadable stage =>
      have spawner : (controller.task .spawn).stage = _ := stage
      exact Moves.atStage.stageStep spawner .unreadable which
  | configRecorded stage =>
      exact (Moves.atStage.withConfig _).stageStep stage .configRecorded which
  | stateRecorded stage => exact (Moves.atStage.withState _).stageStep stage .stateRecorded which
  | undone stage => exact (Moves.atStage.withState _).stageStep stage .undone which
  | captured stage => exact (Moves.withTask rfl).stageStep stage .captured which
  | completed stage => exact Moves.atStage.stageStep stage .completed which
  | joined resting => exact Or.inl (stage_withTask (by rfl) which)
  | ignored _ undecided => exact Or.inl rfl

/-! ### Whole tasks -/

theorem task_atStage_eq (called : Operation) (stage : Stage Job) :
    (controller.atStage called stage).task operation = { controller.task operation with
      stage := ((controller.atStage called stage).task operation).stage } := by
  rcases operation.eq_or_eq_other called with rfl | rfl <;> simp

/-- An event that is no call and no join takes each task one step at most, and
leaves the rest of it unless it captures an error. -/
theorem Change.task_of_work (change : Change controller event next effects)
    (uncalled : ∀ operation wait, event ≠ .call operation wait)
    (unjoined : ∀ operation, event ≠ .join operation) (uncaptured : event ≠ .capture operation) :
    next.task operation = controller.task operation ∨
      ∃ stage, StageStep event operation (controller.task operation).stage stage ∧
        next.task operation = { controller.task operation with stage } := by
  have kept : next.task operation =
      { controller.task operation with stage := (next.task operation).stage } := by
    cases change with
    | rejected busy => rfl
    | launched free idle => exact absurd rfl (uncalled _ _)
    | repeated free begun => exact absurd rfl (uncalled _ _)
    | @captured called cause stage =>
        rcases operation.eq_or_eq_other called with rfl | rfl
        · exact absurd rfl uncaptured
        · simp
    | joined resting => exact absurd rfl (unjoined _)
    | ignored _ undecided => rfl
    | _ =>
        simp only [task_withState, task_withConfig]
        exact task_atStage_eq _ _
  rcases change.stageStep operation with same | step
  · rw [same] at kept
    exact Or.inl kept
  · exact Or.inr ⟨_, step, kept⟩

/-- A call that is accepted is heard by the task of its operation, and by no other. -/
theorem Change.task_of_call {called : Operation} {wait : Bool}
    (change : Change controller (.call called wait) next effects)
    (free : controller.isRunning called.other = false) :
    next.task called.other = controller.task called.other ∧
      ((∃ job, (controller.task called).stage = .idle ∧
        next.task called = { (controller.task called).heard wait with stage := .body job }) ∨
      ((controller.task called).stage ≠ .idle ∧
        next.task called = (controller.task called).heard wait)) := by
  cases change with
  | rejected busy => simp [free] at busy
  | launched free idle => exact ⟨by simp, Or.inl ⟨.launched called controller.state, idle, by simp⟩⟩
  | repeated free begun => exact ⟨by simp, Or.inr ⟨begun, by simp⟩⟩
  | ignored uncalled undecided => exact absurd rfl (uncalled called wait)

/-- A capture keeps the error, and reports it unless the task is silent. -/
theorem Change.task_of_capture {captured : Operation}
    (change : Change controller (.capture captured) next effects) :
    (next = controller ∧ effects = []) ∨
      ∃ cause, (controller.task captured).stage = .undone cause ∧
        next.task captured = { controller.task captured with
          stage := .finishing
          error := some (.ofFailure (controller.task captured).operation cause) } ∧
        effects = if (controller.task captured).silent then []
          else [.reported ⟨(controller.task captured).operation,
            .ofFailure (controller.task captured).operation cause⟩] := by
  cases change with
  | captured stage => exact Or.inr ⟨_, stage, by simp, rfl⟩
  | ignored _ undecided => exact Or.inl ⟨rfl, rfl⟩

end CloudCluster.Lifecycle.Controller
