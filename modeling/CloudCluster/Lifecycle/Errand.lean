import CloudCluster.Lifecycle.Task

/-!
A task on its own, with bodies that wait and then end in a given way.

Bodies run only while someone waits. A body begins, sleeps through its delay,
and ends; `begin` lets it run up to its sleep, `settle` to its end.
-/

namespace CloudCluster.Lifecycle

/-- A body that ends with an outcome after a delay. -/
structure Errand where
  outcome : Outcome
  delay : Nat := 0
  begun : Bool := false
  deriving DecidableEq, Repr

/-- A task with what can be seen of it from outside. -/
structure Watch where
  task : Task Errand
  bodyRuns : Nat := 0
  undone : Nat := 0
  reports : List Report := []

namespace Watch

/-- A task that is not started. -/
def new (operation : Operation) : Watch := { task := { operation } }

/-- Starts a body; answers whether it will run. -/
def start (watch : Watch) (errand : Errand) : Watch × Bool :=
  let (task, started) := watch.task.start errand
  ({ watch with task }, started)

/-- Lets the body begin. -/
def beginBody (watch : Watch) : Watch :=
  match watch.task.job? with
  | some errand =>
    if errand.begun then watch
    else
      { watch with
        task := watch.task.advance { errand with begun := true }
        bodyRuns := watch.bodyRuns + 1 }
  | none => watch

/-- Lets the task undo, capture and complete. -/
def wrapUp (watch : Watch) : Watch :=
  let (task, job) := watch.task.undo
  let (task, report) := task.capture
  { watch with
    task := task.complete
    undone := watch.undone + job.toList.length
    reports := watch.reports ++ report.toList }

/-- Lets a begun body end. -/
def endBody (watch : Watch) : Watch :=
  match watch.task.job? with
  | some errand => { watch with task := watch.task.finish errand.outcome }.wrapUp
  | none => watch

/-- Waits until the task is not running. -/
def settle (watch : Watch) : Watch :=
  watch.beginBody.endBody

/-- Lets the body run until it sleeps or ends. -/
def begin (watch : Watch) : Watch :=
  match watch.task.job? with
  | some errand => if errand.delay = 0 then watch.settle else watch.beginBody
  | none => watch

/-- Waits for the task and takes its error. -/
def join (watch : Watch) : Watch × Except ClusterError Unit :=
  let watch := watch.settle
  match watch.task.join? with
  | some (task, result) => ({ watch with task }, result)
  | none => (watch, .ok ())

/-- Several joins at once: all wait, then each takes the error in turn. -/
def joinMany (watch : Watch) : Nat → Watch × List (Except ClusterError Unit)
  | 0 => (watch, [])
  | n + 1 =>
    let (watch, first) := watch.join
    let (watch, rest) := joinMany watch n
    (watch, first :: rest)

/-- Takes the reports made so far. -/
def takeReports (watch : Watch) : Watch × List Report :=
  ({ watch with reports := [] }, watch.reports)

end Watch

end CloudCluster.Lifecycle
