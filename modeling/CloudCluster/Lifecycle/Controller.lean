import CloudCluster.Config.Basic
import CloudCluster.Lifecycle.State
import CloudCluster.Lifecycle.Task
import CloudCluster.Text.Escaped
import CloudCluster.Tool.Environment

/-!
The lifecycle of one cluster.

A `Controller` has one task for each operation, for all its life: the first
call of an operation starts the task, later ones only join it. A call is
rejected while the other operation is running.

All that can happen is an `Event`, and `step` says what it changes and what is
seen of it. Events of different callers and bodies may come in any order; one
that cannot happen in a state changes nothing there. The body of an operation
goes through these events:

* `begin` — the gateway is called with the path and the environment that the
  controller was made with;
* `answered` — the gateway's call has ended;
* `loaded` — after a spawn, the config file has been read again;
* `recordConfig`, `recordState` — success is written down, the config first;
* `undo`, `capture` — after a failure, the state goes back to where it was and
  the error is kept;
* `complete` — nothing is left to do.
-/

namespace CloudCluster.Lifecycle

open Files Tool

/-- How far the body of an operation is. A spawn loads the document that it
will leave in memory; a destroy leaves none. -/
inductive Body where
  | queued
  | calling
  | returned
  | holding (document : Option ClusterConfig)
  | recorded
  deriving Repr

/-- Where a body is after its gateway call has succeeded. -/
def Body.afterCall : Operation → Body
  | .spawn => returned
  | .destroy => holding none

/-- A body and the state to go back to if it fails. -/
structure Job where
  body : Body := .queued
  rollbackTo : ClusterState
  deriving Repr

/-- The job that a call starts. A failed spawn has left no cluster; a failed
destroy has left what was there. -/
def Job.launched (operation : Operation) (previous : ClusterState) : Job :=
  match operation with
  | .spawn => { rollbackTo := .notSpawned }
  | .destroy => { rollbackTo := previous }

/-- The state of one cluster, with the tasks of its two operations. The config
is the document in memory; after a destroy there is none. -/
structure Controller where
  path : Path
  environment : Environment
  state : ClusterState := .notSpawned
  config : Option ClusterConfig
  spawner : Task Job := { operation := .spawn }
  destroyer : Task Job := { operation := .destroy }

/-- All that can happen to a controller. -/
inductive Event where
  | call (operation : Operation) (wait : Bool)
  | begin (operation : Operation)
  | answered (operation : Operation) (outcome : Outcome)
  | loaded (result : Except ClusterError ClusterConfig)
  | recordConfig (operation : Operation)
  | recordState (operation : Operation)
  | undo (operation : Operation)
  | capture (operation : Operation)
  | complete (operation : Operation)
  | join (operation : Operation)

/-- What is seen of an event from outside. -/
inductive Effect where
  /-- The call is rejected. -/
  | rejected (error : ClusterError)
  /-- The call has started the task of its operation. -/
  | started (operation : Operation)
  /-- The gateway is called. -/
  | invoked (operation : Operation) (path : Path) (environment : Environment)
  /-- A failure is reported in the background. -/
  | reported (report : Report)
  /-- A waiting call has its result. -/
  | joined (operation : Operation) (result : Except ClusterError Unit)

namespace Controller

/-- A controller for a config that is in a file. -/
def new (path : Path) (environment : Environment) (config : ClusterConfig) : Controller :=
  { path, environment, config := some config }

/-- The task of an operation. -/
def task (controller : Controller) : Operation → Task Job
  | .spawn => controller.spawner
  | .destroy => controller.destroyer

/-- The controller with another task for an operation. -/
def withTask (controller : Controller) (operation : Operation) (task : Task Job) : Controller :=
  match operation with
  | .spawn => { controller with spawner := task }
  | .destroy => { controller with destroyer := task }

/-- Whether the task of an operation is running. -/
def isRunning (controller : Controller) (operation : Operation) : Bool :=
  (controller.task operation).isRunning

/-- Whether connections can be made. -/
def isReady (controller : Controller) : Bool :=
  controller.state = .ready

/-! ### Calls -/

/-- Takes a call. Rejection comes first, so that a rejected call leaves no
trace; a caller who will wait takes over the reporting. -/
def call (controller : Controller) (operation : Operation) (wait : Bool) :
    Controller × List Effect :=
  if controller.isRunning operation.other then
    (controller, [.rejected (.operationInProgress operation operation.other)])
  else
    let task := controller.task operation
    let task := if wait then task.silence else task
    let (task, started) := task.start (.launched operation controller.state)
    let controller := controller.withTask operation task
    if started then
      ({ controller with state := .during operation }, [.started operation])
    else (controller, [])

/-- Gives a waiting call its result, once the task is not running. -/
def join (controller : Controller) (operation : Operation) : Controller × List Effect :=
  match (controller.task operation).join? with
  | some (task, result) => (controller.withTask operation task, [.joined operation result])
  | none => (controller, [])

/-! ### Bodies -/

/-- Lets the body of an operation go on to its next step. -/
def advance (controller : Controller) (operation : Operation) (job : Job) (body : Body) :
    Controller :=
  controller.withTask operation ((controller.task operation).advance { job with body })

/-- Ends the body of an operation. -/
def finish (controller : Controller) (operation : Operation) (outcome : Outcome) : Controller :=
  controller.withTask operation ((controller.task operation).finish outcome)

/-- Calls the gateway. -/
def begin (controller : Controller) (operation : Operation) : Controller × List Effect :=
  match (controller.task operation).job? with
  | some job =>
    match job.body with
    | .queued =>
      (controller.advance operation job .calling,
        [.invoked operation controller.path controller.environment])
    | _ => (controller, [])
  | none => (controller, [])

/-- Takes the gateway's answer; a body that breaks off does so here. -/
def answered (controller : Controller) (operation : Operation) (outcome : Outcome) :
    Controller :=
  match (controller.task operation).job? with
  | some job =>
    match job.body, outcome with
    | .calling, .success => controller.advance operation job (.afterCall operation)
    | .calling, outcome => controller.finish operation outcome
    | _, _ => controller
  | none => controller

/-- Takes the document that the gateway has left in the config file. -/
def loaded (controller : Controller) (result : Except ClusterError ClusterConfig) : Controller :=
  match controller.spawner.job? with
  | some job =>
    match job.body, result with
    | .returned, .ok document => controller.advance .spawn job (.holding (some document))
    | .returned, .error error =>
      controller.finish .spawn (.failure (.reload controller.path error.message))
    | _, _ => controller
  | none => controller

/-- Puts the document of a successful body in memory. -/
def recordConfig (controller : Controller) (operation : Operation) : Controller :=
  match (controller.task operation).job? with
  | some job =>
    match job.body with
    | .holding document =>
      { controller.advance operation job .recorded with config := document }
    | _ => controller
  | none => controller

/-- Sets the state of a successful body, which ends with that. -/
def recordState (controller : Controller) (operation : Operation) : Controller :=
  match (controller.task operation).job? with
  | some job =>
    match job.body with
    | .recorded => { controller.finish operation .success with state := .after operation }
    | _ => controller
  | none => controller

/-- Takes the state back to where it was before a failed body. -/
def undo (controller : Controller) (operation : Operation) : Controller :=
  match (controller.task operation).undo with
  | (task, some job) => { controller.withTask operation task with state := job.rollbackTo }
  | (_, none) => controller

/-- Keeps the error of a failed body, and reports it if nobody waits. -/
def capture (controller : Controller) (operation : Operation) : Controller × List Effect :=
  let (task, report) := (controller.task operation).capture
  (controller.withTask operation task, report.toList.map .reported)

/-- Completes the task of an operation. -/
def complete (controller : Controller) (operation : Operation) : Controller :=
  controller.withTask operation (controller.task operation).complete

/-! ### Runs -/

/-- What an event changes, and what is seen of it. -/
def step (controller : Controller) : Event → Controller × List Effect
  | .call operation wait => controller.call operation wait
  | .begin operation => controller.begin operation
  | .answered operation outcome => (controller.answered operation outcome, [])
  | .loaded result => (controller.loaded result, [])
  | .recordConfig operation => (controller.recordConfig operation, [])
  | .recordState operation => (controller.recordState operation, [])
  | .undo operation => (controller.undo operation, [])
  | .capture operation => controller.capture operation
  | .complete operation => (controller.complete operation, [])
  | .join operation => controller.join operation

/-- What a sequence of events changes, and all that is seen of it, in order. -/
def run (controller : Controller) : List Event → Controller × List Effect
  | [] => (controller, [])
  | event :: rest =>
    let (controller, first) := controller.step event
    let (controller, others) := controller.run rest
    (controller, first ++ others)

/-- The events from the gateway's answer to the end of a task, when nothing
comes between them. Those that do not apply after the answer change nothing. -/
def closing (operation : Operation) (outcome : Outcome)
    (result : Except ClusterError ClusterConfig) : List Event :=
  let loaded := match operation with
    | .spawn => [.loaded result]
    | .destroy => []
  [.answered operation outcome] ++ loaded ++
    [.recordConfig operation, .recordState operation, .undo operation, .capture operation,
      .complete operation]

/-! ### Connections -/

/-- What a caller who asks for connection details has seen of the cluster. The
address comes later, when the cluster may be another. -/
structure Inquiry where
  config : ClusterConfig
  path : Path
  environment : Environment

/-- Begins to ask for connection details. Only a cluster that is ready may be
asked. -/
def inquire (controller : Controller) : Except Refusal Inquiry :=
  if controller.isReady then
    match controller.config with
    | some config =>
      .ok { config, path := controller.path, environment := controller.environment }
    | none => .error (.error (.internal "ready cluster has no config"))
  else .error (.defect .notReady)

/-- Connection details from what was seen and the gateway's answer. A gateway
that is asked for an address is taken to answer with one or with a cause, and
not to break off, which nothing would catch. -/
def Inquiry.details (inquiry : Inquiry) (address : Except ProvisionError String) :
    Except ClusterError ConnectionDetails :=
  match address with
  | .ok address =>
    .ok {
      userName := inquiry.config.sshUser?.getD ClusterConfig.sshUser
      keyFile := inquiry.config.sshPrivateKey?
      address }
  | .error cause => .error (.cannotConnect cause)

/-! ### Text -/

/-- A description for developers. -/
def description (controller : Controller) : String :=
  "LifecycleController \x7b config_path: " ++ Text.escaped controller.path ++
    ", state: " ++ controller.state.label ++ ", .. \x7d"

end Controller

end CloudCluster.Lifecycle
