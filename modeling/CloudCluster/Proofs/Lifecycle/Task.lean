import CloudCluster.Lifecycle.Task

/-!
What the operations of a task do at the stages where they do something.
-/

namespace CloudCluster.Lifecycle.Task

variable {Job : Type}

/-- The task after a caller has come, who waits or does not. -/
def heard (task : Task Job) (wait : Bool) : Task Job :=
  if wait then task.silence else task

/-- What a task that is not running answers to a join. -/
def answer (task : Task Job) : Except ClusterError Unit :=
  match task.error with
  | some error => .error error
  | none => .ok ()

section Heard

variable (task : Task Job) (wait : Bool)

@[simp] theorem operation_heard : (task.heard wait).operation = task.operation := by
  cases wait <;> rfl

@[simp] theorem stage_heard : (task.heard wait).stage = task.stage := by
  cases wait <;> rfl

@[simp] theorem error_heard : (task.heard wait).error = task.error := by
  cases wait <;> rfl

@[simp] theorem silent_heard : (task.heard wait).silent = (task.silent || wait) := by
  cases wait <;> simp [heard, silence]

end Heard

variable {task : Task Job} {job : Job}

theorem start_of_idle (idle : task.stage = .idle) :
    task.start job = ({ task with stage := .body job }, true) := by
  simp [start, idle]

theorem start_of_begun (begun : task.stage ≠ .idle) : task.start job = (task, false) := by
  unfold start
  split
  · next idle => exact absurd idle begun
  · rfl

theorem advance_of_body (stage : task.stage = .body job) (next : Job) :
    task.advance next = { task with stage := .body next } := by
  simp [advance, stage]

theorem finish_of_success (stage : task.stage = .body job) {outcome : Outcome}
    (success : outcome.cause? = none) :
    task.finish outcome = { task with stage := .finishing } := by
  simp [finish, stage, success]

theorem finish_of_failure (stage : task.stage = .body job) {outcome : Outcome}
    {cause : ProvisionError} (failure : outcome.cause? = some cause) :
    task.finish outcome = { task with stage := .failed job cause } := by
  simp [finish, stage, failure]

theorem error_of_answer {error : ClusterError} (answers : task.answer = .error error) :
    task.error = some error := by
  unfold answer at answers
  split at answers
  · next kept =>
    cases answers
    exact kept
  · cases answers

theorem join?_of_resting (resting : task.isRunning = false) :
    task.join? = some ({ task with error := none }, task.answer) := by
  unfold join? answer
  cases error : task.error with
  | none => simp [resting, ← error]
  | some error => simp [resting]

theorem join?_of_running (running : task.isRunning = true) : task.join? = none := by
  simp [join?, running]

end CloudCluster.Lifecycle.Task
