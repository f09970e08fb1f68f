import CloudCluster.Proofs.Lifecycle.History
import CloudCluster.Proofs.Lifecycle.Task

/-!
All that one event can do to a controller.

`Change` has a constructor for each thing that can happen, with the condition
under which it happens, and all that it changes. `change_step` is the only place
where the steps of a controller are unfolded: what events keep is shown by cases
on the change that they make.
-/

namespace CloudCluster

namespace Operation

@[simp] theorem other_ne (operation : Operation) : operation.other ≠ operation := by
  cases operation <;> decide

theorem other_other (operation : Operation) : operation.other.other = operation := by
  cases operation <;> rfl

theorem eq_or_eq_other (first second : Operation) : first = second ∨ first = second.other := by
  cases first <;> cases second <;> decide

end Operation

namespace Lifecycle

namespace Controller

/-! ### Parts of a controller -/

/-- The controller in another state. -/
def withState (controller : Controller) (state : ClusterState) : Controller :=
  { controller with state }

/-- The controller with another document in memory. -/
def withConfig (controller : Controller) (config : Option ClusterConfig) : Controller :=
  { controller with config }

/-- The controller with the task of an operation at another stage. -/
def atStage (controller : Controller) (operation : Operation) (stage : Stage Job) : Controller :=
  controller.withTask operation { controller.task operation with stage }

section Parts

variable (controller : Controller) (operation : Operation) (task : Task Job)
  (state : ClusterState) (config : Option ClusterConfig) (stage : Stage Job)

@[simp] theorem task_withTask : (controller.withTask operation task).task operation = task := by
  cases operation <;> rfl

@[simp] theorem task_withTask_of_ne {which : Operation} (different : which ≠ operation) :
    (controller.withTask operation task).task which = controller.task which := by
  cases which <;> cases operation <;> first | rfl | exact absurd rfl different

@[simp] theorem state_withTask : (controller.withTask operation task).state = controller.state := by
  cases operation <;> rfl

@[simp] theorem config_withTask :
    (controller.withTask operation task).config = controller.config := by
  cases operation <;> rfl

@[simp] theorem path_withTask : (controller.withTask operation task).path = controller.path := by
  cases operation <;> rfl

@[simp] theorem environment_withTask :
    (controller.withTask operation task).environment = controller.environment := by
  cases operation <;> rfl

@[simp] theorem withTask_task :
    controller.withTask operation (controller.task operation) = controller := by
  cases operation <;> rfl

@[simp] theorem task_withState : (controller.withState state).task operation =
    controller.task operation := by
  cases operation <;> rfl

@[simp] theorem state_withState : (controller.withState state).state = state := rfl

@[simp] theorem config_withState : (controller.withState state).config = controller.config := rfl

@[simp] theorem path_withState : (controller.withState state).path = controller.path := rfl

@[simp] theorem environment_withState :
    (controller.withState state).environment = controller.environment := rfl

@[simp] theorem task_withConfig : (controller.withConfig config).task operation =
    controller.task operation := by
  cases operation <;> rfl

@[simp] theorem state_withConfig : (controller.withConfig config).state = controller.state := rfl

@[simp] theorem config_withConfig : (controller.withConfig config).config = config := rfl

@[simp] theorem path_withConfig : (controller.withConfig config).path = controller.path := rfl

@[simp] theorem environment_withConfig :
    (controller.withConfig config).environment = controller.environment := rfl

@[simp] theorem task_atStage : (controller.atStage operation stage).task operation =
    { controller.task operation with stage } := by
  simp [atStage]

@[simp] theorem task_atStage_of_ne {which : Operation} (different : which ≠ operation) :
    (controller.atStage operation stage).task which = controller.task which := by
  simp [atStage, different]

@[simp] theorem state_atStage : (controller.atStage operation stage).state = controller.state := by
  simp [atStage]

@[simp] theorem config_atStage :
    (controller.atStage operation stage).config = controller.config := by
  simp [atStage]

@[simp] theorem path_atStage : (controller.atStage operation stage).path = controller.path := by
  simp [atStage]

@[simp] theorem environment_atStage :
    (controller.atStage operation stage).environment = controller.environment := by
  simp [atStage]

@[simp] theorem standing_withTask :
    (controller.withTask operation task).standing = controller.standing := by
  simp [standing]

@[simp] theorem standing_withState :
    (controller.withState state).standing = ⟨state, controller.config⟩ := rfl

@[simp] theorem standing_withConfig :
    (controller.withConfig config).standing = ⟨controller.state, config⟩ := rfl

@[simp] theorem standing_atStage :
    (controller.atStage operation stage).standing = controller.standing := by
  simp [standing]

end Parts

/-! ### Changes -/

/-- What an event changes, and what is seen of it. -/
inductive Change (controller : Controller) : Event → Controller → List Effect → Prop where
  | rejected {operation wait} (busy : controller.isRunning operation.other = true) :
      Change controller (.call operation wait) controller
        [.rejected (.operationInProgress operation operation.other)]
  | launched {operation wait} (free : controller.isRunning operation.other = false)
      (idle : (controller.task operation).stage = .idle) :
      Change controller (.call operation wait)
        ((controller.withTask operation
          { (controller.task operation).heard wait with
            stage := .body (.launched operation controller.state) }).withState (.during operation))
        [.started operation]
  /-- The task was started before; a caller who waits still silences it. -/
  | repeated {operation wait} (free : controller.isRunning operation.other = false)
      (begun : (controller.task operation).stage ≠ .idle) :
      Change controller (.call operation wait)
        (controller.withTask operation ((controller.task operation).heard wait)) []
  | invoked {operation rollbackTo}
      (stage : (controller.task operation).stage = .body ⟨.queued, rollbackTo⟩) :
      Change controller (.begin operation)
        (controller.atStage operation (.body ⟨.calling, rollbackTo⟩))
        [.invoked operation controller.path controller.environment]
  | returned {operation rollbackTo}
      (stage : (controller.task operation).stage = .body ⟨.calling, rollbackTo⟩) :
      Change controller (.answered operation .success)
        (controller.atStage operation (.body ⟨.afterCall operation, rollbackTo⟩)) []
  | broken {operation outcome cause rollbackTo} (failure : outcome.cause? = some cause)
      (stage : (controller.task operation).stage = .body ⟨.calling, rollbackTo⟩) :
      Change controller (.answered operation outcome)
        (controller.atStage operation (.failed ⟨.calling, rollbackTo⟩ cause)) []
  | reloaded {document rollbackTo}
      (stage : controller.spawner.stage = .body ⟨.returned, rollbackTo⟩) :
      Change controller (.loaded (.ok document))
        (controller.atStage .spawn (.body ⟨.holding (some document), rollbackTo⟩)) []
  | unreadable {error rollbackTo}
      (stage : controller.spawner.stage = .body ⟨.returned, rollbackTo⟩) :
      Change controller (.loaded (.error error))
        (controller.atStage .spawn
          (.failed ⟨.returned, rollbackTo⟩ (.reload controller.path error.message)))
        []
  | configRecorded {operation document rollbackTo}
      (stage : (controller.task operation).stage = .body ⟨.holding document, rollbackTo⟩) :
      Change controller (.recordConfig operation)
        ((controller.atStage operation (.body ⟨.recorded, rollbackTo⟩)).withConfig document) []
  | stateRecorded {operation rollbackTo}
      (stage : (controller.task operation).stage = .body ⟨.recorded, rollbackTo⟩) :
      Change controller (.recordState operation)
        ((controller.atStage operation .finishing).withState (.after operation)) []
  | undone {operation job cause} (stage : (controller.task operation).stage = .failed job cause) :
      Change controller (.undo operation)
        ((controller.atStage operation (.undone cause)).withState job.rollbackTo) []
  | captured {operation cause} (stage : (controller.task operation).stage = .undone cause) :
      Change controller (.capture operation)
        (controller.withTask operation
          { controller.task operation with
            stage := .finishing
            error := some (.ofFailure (controller.task operation).operation cause) })
        (if (controller.task operation).silent then []
        else [.reported ⟨(controller.task operation).operation,
          .ofFailure (controller.task operation).operation cause⟩])
  | completed {operation} (stage : (controller.task operation).stage = .finishing) :
      Change controller (.complete operation) (controller.atStage operation .done) []
  | joined {operation} (resting : controller.isRunning operation = false) :
      Change controller (.join operation)
        (controller.withTask operation { controller.task operation with error := none })
        [.joined operation (controller.task operation).answer]
  /-- An event that cannot happen; a call always can. -/
  | ignored {event} (uncalled : ∀ operation wait, event ≠ .call operation wait)
      (undecided : controller.ending? event = none) :
      Change controller event controller []

variable {controller : Controller}

theorem call_of_busy {operation : Operation} {wait : Bool}
    (busy : controller.isRunning operation.other = true) :
    controller.call operation wait =
      (controller, [.rejected (.operationInProgress operation operation.other)]) := by
  unfold call
  rw [if_pos busy]

theorem call_of_free {operation : Operation} {wait : Bool}
    (free : controller.isRunning operation.other = false) :
    controller.call operation wait =
      let (task, started) := ((controller.task operation).heard wait).start
        (.launched operation controller.state)
      if started then
        ((controller.withTask operation task).withState (.during operation), [.started operation])
      else (controller.withTask operation task, []) := by
  unfold call
  rw [if_neg (by simp [free])]
  rfl

theorem change_call (operation : Operation) (wait : Bool) :
    Change controller (.call operation wait) (controller.call operation wait).1
      (controller.call operation wait).2 := by
  cases free : controller.isRunning operation.other with
  | true =>
      rw [call_of_busy free]
      exact .rejected free
  | false =>
      rw [call_of_free free]
      by_cases idle : (controller.task operation).stage = .idle
      · rw [Task.start_of_idle (by simpa using idle)]
        exact .launched free idle
      · rw [Task.start_of_begun (by simpa using idle)]
        exact .repeated free idle

theorem change_begin (operation : Operation) :
    Change controller (.begin operation) (controller.begin operation).1
      (controller.begin operation).2 := by
  unfold begin advance Task.job?
  cases stage : (controller.task operation).stage with
  | body job =>
      obtain ⟨body, rollbackTo⟩ := job
      cases body with
      | queued =>
          dsimp only
          rw [Task.advance_of_body stage]
          exact .invoked stage
      | _ => exact .ignored nofun rfl
  | _ => exact .ignored nofun rfl

theorem change_answered (operation : Operation) (outcome : Outcome) :
    Change controller (.answered operation outcome) (controller.answered operation outcome) [] := by
  unfold answered advance finish Task.job?
  cases stage : (controller.task operation).stage with
  | body job =>
      obtain ⟨body, rollbackTo⟩ := job
      cases body with
      | calling =>
          cases outcome with
          | success =>
              dsimp only
              rw [Task.advance_of_body stage]
              exact .returned stage
          | _ =>
              dsimp only
              rw [Task.finish_of_failure stage rfl]
              exact .broken rfl stage
      | _ => exact .ignored nofun (by simp [ending?, stage])
  | _ => exact .ignored nofun (by simp [ending?, stage])

theorem change_loaded (result : Except ClusterError ClusterConfig) :
    Change controller (.loaded result) (controller.loaded result) [] := by
  unfold loaded advance finish Task.job?
  cases stage : controller.spawner.stage with
  | body job =>
      obtain ⟨body, rollbackTo⟩ := job
      cases body with
      | returned =>
          cases result with
          | ok document =>
              dsimp only [task]
              rw [Task.advance_of_body stage]
              exact .reloaded stage
          | error error =>
              dsimp only [task]
              rw [Task.finish_of_failure stage rfl]
              exact .unreadable stage
      | _ => exact .ignored nofun (by simp [ending?, stage])
  | _ => exact .ignored nofun (by simp [ending?, stage])

theorem change_recordConfig (operation : Operation) :
    Change controller (.recordConfig operation) (controller.recordConfig operation) [] := by
  unfold recordConfig advance Task.job?
  cases stage : (controller.task operation).stage with
  | body job =>
      obtain ⟨body, rollbackTo⟩ := job
      cases body with
      | holding document =>
          dsimp only
          rw [Task.advance_of_body stage]
          exact .configRecorded stage
      | _ => exact .ignored nofun rfl
  | _ => exact .ignored nofun rfl

theorem change_recordState (operation : Operation) :
    Change controller (.recordState operation) (controller.recordState operation) [] := by
  unfold recordState finish Task.job?
  cases stage : (controller.task operation).stage with
  | body job =>
      obtain ⟨body, rollbackTo⟩ := job
      cases body with
      | recorded =>
          dsimp only
          rw [Task.finish_of_success stage rfl]
          exact .stateRecorded stage
      | _ => exact .ignored nofun rfl
  | _ => exact .ignored nofun rfl

theorem change_undo (operation : Operation) :
    Change controller (.undo operation) (controller.undo operation) [] := by
  unfold undo Task.undo
  cases stage : (controller.task operation).stage with
  | failed job cause => exact .undone stage
  | _ => exact .ignored nofun rfl

theorem change_capture (operation : Operation) :
    Change controller (.capture operation) (controller.capture operation).1
      (controller.capture operation).2 := by
  have unmoved : Change controller (.capture operation)
      (controller.withTask operation (controller.task operation)) [] := by
    rw [withTask_task]
    exact .ignored nofun rfl
  unfold capture Task.capture
  cases stage : (controller.task operation).stage with
  | undone cause =>
      have change := Change.captured stage
      cases silent : (controller.task operation).silent <;> simpa [silent] using change
  | _ => exact unmoved

theorem change_complete (operation : Operation) :
    Change controller (.complete operation) (controller.complete operation) [] := by
  have unmoved : Change controller (.complete operation)
      (controller.withTask operation (controller.task operation)) [] := by
    rw [withTask_task]
    exact .ignored nofun rfl
  unfold complete Task.complete
  cases stage : (controller.task operation).stage with
  | finishing => exact .completed stage
  | _ => exact unmoved

theorem change_join (operation : Operation) :
    Change controller (.join operation) (controller.join operation).1
      (controller.join operation).2 := by
  unfold join
  cases running : (controller.task operation).isRunning with
  | true =>
      rw [Task.join?_of_running running]
      exact .ignored nofun rfl
  | false =>
      rw [Task.join?_of_resting running]
      exact .joined running

/-- Every step is a change. -/
theorem change_step (controller : Controller) (event : Event) :
    Change controller event (controller.step event).1 (controller.step event).2 := by
  cases event with
  | call operation wait => exact change_call operation wait
  | «begin» operation => exact change_begin operation
  | answered operation outcome => exact change_answered operation outcome
  | loaded result => exact change_loaded result
  | recordConfig operation => exact change_recordConfig operation
  | recordState operation => exact change_recordState operation
  | undo operation => exact change_undo operation
  | capture operation => exact change_capture operation
  | complete operation => exact change_complete operation
  | join operation => exact change_join operation

end Controller

end Lifecycle

end CloudCluster
