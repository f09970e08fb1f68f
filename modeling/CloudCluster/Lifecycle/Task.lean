import CloudCluster.Refusal
import CloudCluster.Text.Escaped

/-!
Background tasks that run once.

A task carries out one operation at most once. The first `start` decides which
job it runs; later ones change nothing. When the job's body has failed, the
task takes three steps that others can see one by one: it undoes what the
launch has done (`undo`), keeps the error and reports it unless it is silenced
(`capture`), and is complete (`complete`). A join after that takes the error
away, so that it is answered once.

Nothing is waited for within any of the three, and each is taken as a whole.
-/

namespace CloudCluster.Lifecycle

/-- How a body ends. A body that breaks off is known by its number only. -/
inductive Outcome where
  | success
  | failure (cause : ProvisionError)
  | breakdown (number : Nat) (defect : Defect)
  deriving DecidableEq, Repr

/-- The failure that an outcome is reported as. -/
def Outcome.cause? : Outcome → Option ProvisionError
  | success => none
  | failure cause => some cause
  | breakdown number defect =>
    some (.interrupted
      s!"task {number} panicked with message {Text.escaped defect.message}")

/-- How far a task is, for those who ask it. -/
inductive Phase where
  | notStarted
  | running
  | completed
  deriving DecidableEq, Repr

/-- The name of a phase. -/
def Phase.name : Phase → String
  | notStarted => "not_started"
  | running => "running"
  | completed => "completed"

/-- How far a task is, step by step. -/
inductive Stage (Job : Type) where
  | idle
  | body (job : Job)
  | failed (job : Job) (cause : ProvisionError)
  | undone (cause : ProvisionError)
  | finishing
  | done
  deriving DecidableEq, Repr

/-- The phase that a stage belongs to. -/
def Stage.phase {Job : Type} : Stage Job → Phase
  | idle => .notStarted
  | done => .completed
  | _ => .running

/-- A failure that is reported when it happens. -/
structure Report where
  operation : Operation
  error : ClusterError
  deriving DecidableEq, Repr

/-- The text that goes with every report. -/
def Report.message : String := "background cluster operation failed"

/-- A task: its stage, the error that waits to be answered, and whether a
caller has taken over the reporting. -/
structure Task (Job : Type) where
  operation : Operation
  stage : Stage Job := .idle
  error : Option ClusterError := none
  silent : Bool := false
  deriving DecidableEq, Repr

namespace Task

variable {Job : Type}

/-- The phase of a task. -/
def phase (task : Task Job) : Phase := task.stage.phase

/-- Whether the task is running. -/
def isRunning (task : Task Job) : Bool := task.phase = .running

/-- Starts a job unless the task was started before; answers whether it was
this call that started it. -/
def start (task : Task Job) (job : Job) : Task Job × Bool :=
  match task.stage with
  | .idle => ({ task with stage := .body job }, true)
  | _ => (task, false)

/-- Leaves failures to a caller who waits for them. -/
def silence (task : Task Job) : Task Job :=
  { task with silent := true }

/-- The job whose body is running. -/
def job? (task : Task Job) : Option Job :=
  match task.stage with
  | .body job => some job
  | _ => none

/-- Lets the running body take a step. -/
def advance (task : Task Job) (job : Job) : Task Job :=
  match task.stage with
  | .body _ => { task with stage := .body job }
  | _ => task

/-- Ends the running body. -/
def finish (task : Task Job) (outcome : Outcome) : Task Job :=
  match task.stage, outcome.cause? with
  | .body _, none => { task with stage := .finishing }
  | .body job, some cause => { task with stage := .failed job cause }
  | _, _ => task

/-- Takes the job of a failed body, for what it has done to be undone. -/
def undo (task : Task Job) : Task Job × Option Job :=
  match task.stage with
  | .failed job cause => ({ task with stage := .undone cause }, some job)
  | _ => (task, none)

/-- Keeps the error of a failed body, and reports it unless silenced.

Looking at `silent`, reporting and keeping the error are taken as one step. On
several threads this stands for the look at `silent`: a caller who silences the
task later is too late to stop the report but not for the error, as a join
waits until the task is complete. -/
def capture (task : Task Job) : Task Job × Option Report :=
  match task.stage with
  | .undone cause =>
    let error := ClusterError.ofFailure task.operation cause
    ({ task with stage := .finishing, error := some error },
      if task.silent then none else some ⟨task.operation, error⟩)
  | _ => (task, none)

/-- Completes a task that has nothing left to do. -/
def complete (task : Task Job) : Task Job :=
  match task.stage with
  | .finishing => { task with stage := .done }
  | _ => task

/-- Takes the error away; a running task has to be waited for. -/
def join? (task : Task Job) : Option (Task Job × Except ClusterError Unit) :=
  if task.isRunning then none
  else match task.error with
    | some error => some ({ task with error := none }, .error error)
    | none => some (task, .ok ())

end Task

end CloudCluster.Lifecycle
