import CloudCluster.Proofs.Lifecycle.Task

/-!
A task with the crowd around it.

Many callers use one task: some start it, each with a body and a failure hook of its
own, some silence it, some join it. `Crowd` keeps them apart. A body and its hook are
known by the number of the call that has brought them, so that it can be said whose of
them were run; a join is known by its caller, who makes one at a time. A `Turn` is all
that happens between two points at which another may come in, and turns may come in any
order. A caller who joins a task that is running waits, and returns on a later turn of
his own.
-/

namespace CloudCluster.Lifecycle

/-- A body with its failure hook, and whether the body has begun. -/
structure Ticket where
  number : Nat
  begun : Bool := false
  deriving DecidableEq, Repr

/-- A join that has returned, and the phase in which it was called. -/
structure Return where
  caller : Nat
  since : Phase
  result : Except ClusterError Unit

/-- The error that a join has returned. -/
def Return.error? (answer : Return) : Option ClusterError :=
  match answer.result with
  | .error error => some error
  | .ok () => none

/-- A task with what was answered to its callers and what was run for them, each in
order. Those who wait are kept with the phase in which they have joined. -/
structure Crowd where
  task : Task Ticket
  starts : List Bool := []
  waiting : List (Nat × Phase) := []
  returns : List Return := []
  entered : List Nat := []
  left : List (Nat × Outcome) := []
  hooks : List Nat := []
  reports : List Report := []

/-- What can happen to a task. -/
inductive Turn where
  /-- A call starts the task, with a body and a hook of its own. -/
  | start
  /-- A caller takes over the reporting. -/
  | silence
  /-- A caller joins, or looks again if it waits. -/
  | join (caller : Nat)
  /-- The body begins. -/
  | enter
  /-- The body ends. -/
  | leave (outcome : Outcome)
  /-- The hook of the failed body is run. -/
  | undo
  /-- The error is kept. -/
  | capture
  /-- The task is complete. -/
  | complete

namespace Crowd

/-- A task that nobody has used. -/
def new (operation : Operation) : Crowd := { task := { operation } }

/-- Starts the task. -/
def start (crowd : Crowd) : Crowd :=
  let (task, started) := crowd.task.start { number := crowd.starts.length }
  { crowd with task, starts := crowd.starts ++ [started] }

/-- Those who wait, but for one. -/
def others (crowd : Crowd) (caller : Nat) : List (Nat × Phase) :=
  crowd.waiting.filter (·.1 ≠ caller)

/-- The phase in which a caller who joins has joined: now, unless it waits. -/
def since (crowd : Crowd) (caller : Nat) : Phase :=
  (crowd.waiting.lookup caller).getD crowd.task.phase

/-- Lets a caller join: it returns, or waits. -/
def join (crowd : Crowd) (caller : Nat) : Crowd :=
  match crowd.task.join? with
  | some (task, result) =>
    { crowd with
      task
      waiting := crowd.others caller
      returns := crowd.returns ++ [{ caller, since := crowd.since caller, result }] }
  | none => { crowd with waiting := (caller, crowd.since caller) :: crowd.others caller }

/-- Lets the body begin. -/
def enter (crowd : Crowd) : Crowd :=
  match crowd.task.job? with
  | some ticket =>
    if ticket.begun then crowd
    else
      { crowd with
        task := crowd.task.advance { ticket with begun := true }
        entered := crowd.entered ++ [ticket.number] }
  | none => crowd

/-- Lets a body that has begun end. -/
def leave (crowd : Crowd) (outcome : Outcome) : Crowd :=
  match crowd.task.job? with
  | some ticket =>
    if ticket.begun then
      { crowd with
        task := crowd.task.finish outcome
        left := crowd.left ++ [(ticket.number, outcome)] }
    else crowd
  | none => crowd

/-- Runs the hook of a failed body. -/
def undo (crowd : Crowd) : Crowd :=
  match crowd.task.undo with
  | (task, some ticket) => { crowd with task, hooks := crowd.hooks ++ [ticket.number] }
  | (_, none) => crowd

/-- Keeps the error of a failed body. -/
def capture (crowd : Crowd) : Crowd :=
  let (task, report) := crowd.task.capture
  { crowd with task, reports := crowd.reports ++ report.toList }

/-- What a turn changes. -/
def step (crowd : Crowd) : Turn → Crowd
  | .start => crowd.start
  | .silence => { crowd with task := crowd.task.silence }
  | .join caller => crowd.join caller
  | .enter => crowd.enter
  | .leave outcome => crowd.leave outcome
  | .undo => crowd.undo
  | .capture => crowd.capture
  | .complete => { crowd with task := crowd.task.complete }

/-- What a sequence of turns changes. -/
def run (crowd : Crowd) (turns : List Turn) : Crowd :=
  turns.foldl step crowd

/-- The errors that joins have returned. -/
def told (crowd : Crowd) : List ClusterError :=
  crowd.returns.filterMap Return.error?

/-- The errors that were kept: those that joins have returned, and the one that is
still there. -/
def kept (crowd : Crowd) : List ClusterError :=
  crowd.told ++ crowd.task.error.toList

/-! ### Happenings -/

/-- All that a turn can do. -/
inductive Happens (crowd : Crowd) : Turn → Crowd → Prop where
  | started (idle : crowd.task.stage = .idle) :
      Happens crowd .start
        { crowd with
          task := { crowd.task with stage := .body { number := crowd.starts.length } }
          starts := crowd.starts ++ [true] }
  | refused (begun : crowd.task.stage ≠ .idle) :
      Happens crowd .start { crowd with starts := crowd.starts ++ [false] }
  | silenced : Happens crowd .silence { crowd with task := { crowd.task with silent := true } }
  | returned {caller} (resting : crowd.task.isRunning = false) :
      Happens crowd (.join caller)
        { crowd with
          task := { crowd.task with error := none }
          waiting := crowd.others caller
          returns := crowd.returns ++ [⟨caller, crowd.since caller, crowd.task.answer⟩] }
  | waits {caller} (running : crowd.task.isRunning = true) :
      Happens crowd (.join caller)
        { crowd with waiting := (caller, crowd.since caller) :: crowd.others caller }
  | entered {number} (stage : crowd.task.stage = .body ⟨number, false⟩) :
      Happens crowd .enter
        { crowd with
          task := { crowd.task with stage := .body ⟨number, true⟩ }
          entered := crowd.entered ++ [number] }
  | succeeded {number outcome} (stage : crowd.task.stage = .body ⟨number, true⟩)
      (success : outcome.cause? = none) :
      Happens crowd (.leave outcome)
        { crowd with
          task := { crowd.task with stage := .finishing }
          left := crowd.left ++ [(number, outcome)] }
  | failed {number outcome cause} (stage : crowd.task.stage = .body ⟨number, true⟩)
      (failure : outcome.cause? = some cause) :
      Happens crowd (.leave outcome)
        { crowd with
          task := { crowd.task with stage := .failed ⟨number, true⟩ cause }
          left := crowd.left ++ [(number, outcome)] }
  | undone {ticket cause} (stage : crowd.task.stage = .failed ticket cause) :
      Happens crowd .undo
        { crowd with
          task := { crowd.task with stage := .undone cause }
          hooks := crowd.hooks ++ [ticket.number] }
  | captured {cause} (stage : crowd.task.stage = .undone cause) :
      Happens crowd .capture
        { crowd with
          task := { crowd.task with
            stage := .finishing
            error := some (.ofFailure crowd.task.operation cause) }
          reports := crowd.reports ++ if crowd.task.silent then []
            else [⟨crowd.task.operation, .ofFailure crowd.task.operation cause⟩] }
  | completed (stage : crowd.task.stage = .finishing) :
      Happens crowd .complete { crowd with task := { crowd.task with stage := .done } }
  /-- It is not the turn of the body or of the task. -/
  | unchanged {turn} : Happens crowd turn crowd

variable {crowd : Crowd}

theorem happens_start : Happens crowd .start crowd.start := by
  unfold start
  by_cases idle : crowd.task.stage = .idle
  · rw [Task.start_of_idle idle]
    exact .started idle
  · rw [Task.start_of_begun idle]
    exact .refused idle

theorem happens_join (caller : Nat) : Happens crowd (.join caller) (crowd.join caller) := by
  unfold join
  cases running : crowd.task.isRunning with
  | true =>
      rw [Task.join?_of_running running]
      exact .waits running
  | false =>
      rw [Task.join?_of_resting running]
      exact .returned running

theorem happens_enter : Happens crowd .enter crowd.enter := by
  unfold enter Task.job?
  cases stage : crowd.task.stage with
  | body ticket =>
      obtain ⟨number, begun⟩ := ticket
      cases begun with
      | true => exact .unchanged
      | false =>
          dsimp only
          rw [Task.advance_of_body stage]
          exact .entered stage
  | _ => exact .unchanged

theorem happens_leave (outcome : Outcome) :
    Happens crowd (.leave outcome) (crowd.leave outcome) := by
  unfold leave Task.job?
  cases stage : crowd.task.stage with
  | body ticket =>
      obtain ⟨number, begun⟩ := ticket
      cases begun with
      | false => exact .unchanged
      | true =>
          dsimp only
          cases ends : outcome.cause? with
          | none =>
              rw [Task.finish_of_success stage ends]
              exact .succeeded stage ends
          | some cause =>
              rw [Task.finish_of_failure stage ends]
              exact .failed stage ends
  | _ => exact .unchanged

theorem happens_undo : Happens crowd .undo crowd.undo := by
  unfold undo Task.undo
  cases stage : crowd.task.stage with
  | failed ticket cause => exact .undone stage
  | _ => exact .unchanged

theorem happens_capture : Happens crowd .capture crowd.capture := by
  unfold capture Task.capture
  cases stage : crowd.task.stage with
  | undone cause =>
      have captured := Happens.captured stage
      cases silent : crowd.task.silent <;> simpa [silent] using captured
  | _ => simpa using Happens.unchanged

theorem happens_complete :
    Happens crowd .complete { crowd with task := crowd.task.complete } := by
  unfold Task.complete
  cases stage : crowd.task.stage with
  | finishing => exact .completed stage
  | _ => exact .unchanged

/-- Every step is a happening. -/
theorem happens_step (crowd : Crowd) (turn : Turn) : Happens crowd turn (crowd.step turn) := by
  cases turn with
  | start => exact happens_start
  | silence => exact .silenced
  | join caller => exact happens_join caller
  | enter => exact happens_enter
  | leave outcome => exact happens_leave outcome
  | undo => exact happens_undo
  | capture => exact happens_capture
  | complete => exact happens_complete

end Crowd

end CloudCluster.Lifecycle
