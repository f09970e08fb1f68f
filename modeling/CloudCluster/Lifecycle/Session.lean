import CloudCluster.Config.File
import CloudCluster.Lifecycle.Controller
import CloudCluster.Tool.Gateway

/-!
Controllers at work on a machine.

A `Session` has a controller, those that were there before it, the machine and
the gateway that they share, and a clock. One thing happens at a time: a body
runs only while a caller waits. A wait lets all queued bodies begin, in the
order of their calls, and then wakes sleeping ones in the order of their time,
until what it waits for has happened. Time passes by waking only.
-/

namespace CloudCluster.Lifecycle

open Files Tool

/-- A call of an operation. -/
structure Call where
  operation : Operation
  wait : Bool
  deriving DecidableEq, Repr

/-- A body of one of the controllers, by the controller's number. -/
structure Worker where
  owner : Nat
  operation : Operation
  deriving DecidableEq, Repr

/-- A body that sleeps before its gateway call acts. -/
structure Sleeper where
  worker : Worker
  due : Nat
  behaviour : Behaviour
  deriving DecidableEq, Repr

/-- Controllers with a machine, a gateway and a clock. Sleepers are in the
order in which they wake. -/
structure Session where
  machine : Machine
  gateway : Gateway
  current : Controller
  earlier : List Controller := []
  clock : Nat := 0
  queue : List Worker := []
  sleepers : List Sleeper := []
  begun : Nat := 0
  reports : List Report := []

namespace Session

/-! ### Controllers -/

/-- The number of the current controller. -/
def number (session : Session) : Nat :=
  session.earlier.length

/-- The controller of a number. -/
def controller (session : Session) (owner : Nat) : Controller :=
  session.earlier.getD owner session.current

/-- The session with another controller at a number. -/
def withController (session : Session) (owner : Nat) (controller : Controller) : Session :=
  if owner < session.earlier.length then
    { session with earlier := session.earlier.set owner controller }
  else { session with current := controller }

/-- Puts a new controller in the place of the current one, whose bodies go on. -/
def renew (session : Session) (controller : Controller) : Session :=
  { session with
    earlier := session.earlier ++ [session.current]
    current := controller }

/-- The report that an effect makes. -/
def reportOf? : Effect → Option Report
  | .reported report => some report
  | _ => none

/-- Lets events happen to a controller, and keeps the reports. -/
def happen (session : Session) (owner : Nat) (events : List Event) : Session × List Effect :=
  let (controller, effects) := (session.controller owner).run events
  let session := session.withController owner controller
  ({ session with reports := session.reports ++ effects.filterMap reportOf? }, effects)

/-- Takes the reports made so far. -/
def takeReports (session : Session) : Session × List Report :=
  ({ session with reports := [] }, session.reports)

/-! ### Bodies -/

/-- How a body ends whose gateway call has this result. -/
def outcome (session : Session) : Except Mock.Stop Unit → Outcome
  | .ok () => .success
  | .error (.error cause) => .failure cause
  | .error (.defect defect) => .breakdown session.begun defect

/-- Ends a body with the result of its gateway call. -/
def close (session : Session) (worker : Worker) (result : Except Mock.Stop Unit) : Session :=
  let path := (session.controller worker.owner).path
  let document := ClusterConfig.load session.machine.tree path
  (session.happen worker.owner
    (Controller.closing worker.operation (session.outcome result) document)).1

/-- Puts a sleeper behind all that wake no later. -/
def insertSleeper (sleeper : Sleeper) : List Sleeper → List Sleeper
  | [] => [sleeper]
  | next :: rest =>
    if next.due ≤ sleeper.due then next :: insertSleeper sleeper rest
    else sleeper :: next :: rest

/-- Lets a body begin. -/
def beginBody (session : Session) (worker : Worker) : Session :=
  let (session, _) := session.happen worker.owner [.begin worker.operation]
  let session := { session with begun := session.begun + 1 }
  let controller := session.controller worker.owner
  let (progress, gateway, machine) := session.gateway.begin session.machine worker.operation
    controller.path controller.environment
  let session := { session with gateway, machine }
  match progress with
  | .asleep delay behaviour =>
    let sleeper := { worker, due := session.clock + delay, behaviour }
    { session with sleepers := insertSleeper sleeper session.sleepers }
  | .ended result => session.close worker result

/-- Lets all queued bodies begin. -/
def beginBodies (session : Session) : Session :=
  session.queue.foldl beginBody { session with queue := [] }

/-- Wakes a sleeping body, which then acts and ends. -/
def wake (session : Session) (sleeper : Sleeper) : Session :=
  let path := (session.controller sleeper.worker.owner).path
  let (result, tree) :=
    (Mock.act sleeper.behaviour sleeper.worker.operation path).run session.machine.tree
  let session := { session with
    clock := sleeper.due
    machine := { session.machine with tree } }
  session.close sleeper.worker result

/-! ### Waiting -/

/-- Wakes sleepers until a condition holds and no other wakes at that time. -/
def wakeUntil (done : Session → Bool) : List Sleeper → Session → Session
  | [], session => { session with sleepers := [] }
  | next :: rest, session =>
    if session.clock < next.due && done session then
      { session with sleepers := next :: rest }
    else wakeUntil done rest (session.wake next)

/-- Waits until a condition holds. -/
def waitUntil (done : Session → Bool) (session : Session) : Session :=
  let session := session.beginBodies
  wakeUntil done session.sleepers session

/-- Waits until no operation is in progress. -/
def settle (session : Session) : Session :=
  if session.current.state.inProgress then
    session.waitUntil fun session => !session.current.state.inProgress
  else session

/-! ### Calls -/

/-- The result that effects show, for a call that waits for no body. -/
def resultOf? : List Effect → Option (Except ClusterError Unit)
  | [] => none
  | .rejected error :: _ => some (.error error)
  | .joined _ result :: _ => some result
  | _ :: rest => resultOf? rest

/-- Whether effects show that a task was started. -/
def hasStarted : List Effect → Bool
  | [] => false
  | .started _ :: _ => true
  | _ :: rest => hasStarted rest

/-- Takes a call. There is a result unless the caller has to wait. -/
def enter (session : Session) (call : Call) : Session × Option (Except ClusterError Unit) :=
  let owner := session.number
  let (session, effects) := session.happen owner [.call call.operation call.wait]
  let session :=
    if hasStarted effects then
      { session with queue := session.queue ++ [⟨owner, call.operation⟩] }
    else session
  match resultOf? effects with
  | some result => (session, some result)
  | none =>
    if call.wait then
      let (session, effects) := session.happen owner [.join call.operation]
      (session, resultOf? effects)
    else (session, some (.ok ()))

/-- Takes calls in order. -/
def enterAll (session : Session) :
    List Call → Session × List (Call × Option (Except ClusterError Unit))
  | [] => (session, [])
  | call :: rest =>
    let (session, first) := session.enter call
    let (session, others) := session.enterAll rest
    (session, (call, first) :: others)

/-- Gives the waiting calls their results, in order. -/
def joinAll (session : Session) :
    List (Call × Option (Except ClusterError Unit)) →
      Session × List (Except ClusterError Unit)
  | [] => (session, [])
  | (_, some result) :: rest =>
    let (session, others) := session.joinAll rest
    (session, result :: others)
  | (call, none) :: rest =>
    let (session, effects) := session.happen session.number [.join call.operation]
    let (session, others) := session.joinAll rest
    (session, (resultOf? effects).getD (.ok ()) :: others)

/-- Makes calls at once: all are taken before any of them waits. -/
def callAll (session : Session) (calls : List Call) :
    Session × List (Except ClusterError Unit) :=
  let (session, entered) := session.enterAll calls
  let waiting := entered.filter (·.2.isNone)
  let session :=
    if waiting.isEmpty then session
    else session.waitUntil fun session =>
      waiting.all fun (call, _) => !session.current.isRunning call.operation
  session.joinAll entered

/-- Makes one call. -/
def call (session : Session) (operation : Operation) (wait : Bool) :
    Session × Except ClusterError Unit :=
  let (session, results) := session.callAll [⟨operation, wait⟩]
  (session, results.headD (.ok ()))

/-- Asks for connection details. -/
def connectionDetails (session : Session) : Session × Except Refusal ConnectionDetails :=
  match session.current.inquire with
  | .error refusal => (session, .error refusal)
  | .ok inquiry =>
    let (address, machine) :=
      session.gateway.headAddress session.machine inquiry.path inquiry.environment
    ({ session with machine }, Refusal.ofExcept (inquiry.details address))

end Session

end CloudCluster.Lifecycle
