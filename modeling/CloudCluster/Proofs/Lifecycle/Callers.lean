import CloudCluster.Lifecycle.Session
import CloudCluster.Proofs.Lifecycle.Change

/-!
A controller with its callers.

The events of a controller do not say which call a join is for. `Callers` keeps
the calls apart: each is a `Visit` with a number, and has an `Answer` once it has
returned. A call that is rejected, or that does not wait, returns at once; one
that waits returns when it is resumed after its task has completed. Calls that
wait are not cancelled, but may be resumed in any order, and at any time later.
-/

namespace CloudCluster.Lifecycle

open Controller

/-- A call that has been taken, and whether it was accepted. -/
structure Visit where
  operation : Operation
  wait : Bool
  accepted : Bool

/-- Whether a visit waits for the task of an operation. -/
def Visit.waits (operation : Operation) (visit : Visit) : Bool :=
  visit.accepted && visit.wait && visit.operation = operation

/-- What a call has returned, with its number. -/
structure Answer where
  number : Nat
  visit : Visit
  result : Except ClusterError Unit

/-- A controller with the calls that it has taken, what they have returned, and
the failures that were reported, each in order. The number of a call is its
place among the visits. -/
structure Callers where
  controller : Controller
  visits : List Visit := []
  answers : List Answer := []
  reports : List Report := []

/-- What can happen to a controller and its callers: an event, where no join is
anybody's, or the resumption of a call. -/
inductive Occurrence where
  | event (event : Event)
  | resume (number : Nat)

namespace Callers

/-- Whether a call has returned. -/
def hasReturned (callers : Callers) (number : Nat) : Bool :=
  callers.answers.any (·.number = number)

/-- Whether a call that waits for an operation was accepted. -/
def isAwaited (callers : Callers) (operation : Operation) : Bool :=
  callers.visits.any (Visit.waits operation)

/-- What accepted calls that wait for an operation have returned. -/
def returned (callers : Callers) (operation : Operation) : List Answer :=
  callers.answers.filter (·.visit.waits operation)

/-- What was reported of an operation. -/
def reported (callers : Callers) (operation : Operation) : List Report :=
  callers.reports.filter (·.operation = operation)

/-- Lets a call return, if there is a result. -/
def reply (callers : Callers) (number : Nat) (visit : Visit)
    (result : Option (Except ClusterError Unit)) : Callers :=
  { callers with
    answers := callers.answers ++ result.toList.map fun result => { number, visit, result } }

/-- Takes a call. -/
def enter (callers : Callers) (operation : Operation) (wait : Bool) : Callers :=
  let (controller, effects) := callers.controller.call operation wait
  let rejection := Session.resultOf? effects
  let visit : Visit := { operation, wait, accepted := rejection.isNone }
  let next := { callers with controller, visits := callers.visits ++ [visit] }
  let result := if wait then rejection else some (rejection.getD (.ok ()))
  next.reply callers.visits.length visit result

/-- Resumes a call that waits. -/
def resume (callers : Callers) (number : Nat) : Callers :=
  match callers.visits[number]? with
  | some visit =>
    if visit.accepted && visit.wait && !callers.hasReturned number then
      let (controller, effects) := callers.controller.join visit.operation
      { callers with controller }.reply number visit (Session.resultOf? effects)
    else callers
  | none => callers

/-- Lets an event happen that is not for a caller, and keeps the reports. -/
def work (callers : Callers) (event : Event) : Callers :=
  let (controller, effects) := callers.controller.step event
  { callers with controller, reports := callers.reports ++ effects.filterMap Session.reportOf? }

/-- What an occurrence changes. -/
def step (callers : Callers) : Occurrence → Callers
  | .event (.call operation wait) => callers.enter operation wait
  | .event (.join _) => callers
  | .event event => callers.work event
  | .resume number => callers.resume number

/-- What a sequence of occurrences changes. -/
def run (callers : Callers) (occurrences : List Occurrence) : Callers :=
  occurrences.foldl step callers

theorem run_append (callers : Callers) (first second : List Occurrence) :
    callers.run (first ++ second) = (callers.run first).run second :=
  List.foldl_append

/-! ### Happenings -/

/-- All that an occurrence can do. -/
inductive Happens (callers : Callers) : Occurrence → Callers → Prop where
  | rejected {operation wait} (busy : callers.controller.isRunning operation.other = true) :
      Happens callers (.event (.call operation wait))
        { callers with
          visits := callers.visits ++ [⟨operation, wait, false⟩]
          answers := callers.answers ++ [⟨callers.visits.length, ⟨operation, wait, false⟩,
            .error (.operationInProgress operation operation.other)⟩] }
  | accepted {operation wait next effects}
      (free : callers.controller.isRunning operation.other = false)
      (change : Change callers.controller (.call operation wait) next effects) :
      Happens callers (.event (.call operation wait))
        { callers with
          controller := next
          visits := callers.visits ++ [⟨operation, wait, true⟩]
          answers := callers.answers ++ if wait then []
            else [⟨callers.visits.length, ⟨operation, wait, true⟩, .ok ()⟩] }
  | resumed {number visit} (known : callers.visits[number]? = some visit)
      (waits : visit.waits visit.operation = true) (unanswered : callers.hasReturned number = false)
      (resting : callers.controller.isRunning visit.operation = false) :
      Happens callers (.resume number)
        { callers with
          controller := callers.controller.withTask visit.operation
            { callers.controller.task visit.operation with error := none }
          answers := callers.answers ++
            [⟨number, visit, (callers.controller.task visit.operation).answer⟩] }
  | worked {event next effects} (uncalled : ∀ operation wait, event ≠ .call operation wait)
      (unjoined : ∀ operation, event ≠ .join operation)
      (change : Change callers.controller event next effects) :
      Happens callers (.event event)
        { callers with
          controller := next
          reports := callers.reports ++ effects.filterMap Session.reportOf? }
  /-- A call is resumed that does not wait, or whose task is running. -/
  | unchanged {occurrence} : Happens callers occurrence callers

variable {callers : Callers}

theorem resultOf?_of_free {controller next : Controller} {operation : Operation} {wait : Bool}
    {effects : List Effect} (free : controller.isRunning operation.other = false)
    (change : Change controller (.call operation wait) next effects) :
    Session.resultOf? effects = none := by
  cases change with
  | rejected busy => simp [free] at busy
  | _ => rfl

theorem happens_enter (operation : Operation) (wait : Bool) :
    Happens callers (.event (.call operation wait)) (callers.enter operation wait) := by
  unfold enter reply
  cases free : callers.controller.isRunning operation.other with
  | true =>
      rw [call_of_busy free]
      cases wait <;> exact .rejected free
  | false =>
      have change := callers.controller.change_call operation wait
      have accepted := Happens.accepted free change
      simp only [resultOf?_of_free free change]
      cases wait <;> exact accepted

theorem happens_resume (number : Nat) :
    Happens callers (.resume number) (callers.resume number) := by
  unfold resume join reply
  split
  · next visit known =>
    split
    · next eligible =>
      obtain ⟨waits, unanswered⟩ : visit.waits visit.operation = true ∧
          callers.hasReturned number = false := by
        simpa [Visit.waits] using eligible
      cases running : (callers.controller.task visit.operation).isRunning with
      | true =>
          rw [Task.join?_of_running running]
          simpa [Session.resultOf?] using Happens.unchanged
      | false =>
          rw [Task.join?_of_resting running]
          exact .resumed known waits unanswered running
    · exact .unchanged
  · exact .unchanged

/-- Every step is a happening. -/
theorem happens_step (callers : Callers) (occurrence : Occurrence) :
    Happens callers occurrence (callers.step occurrence) := by
  cases occurrence with
  | event event =>
      cases event with
      | call operation wait => exact happens_enter operation wait
      | join operation => exact .unchanged
      | _ => exact .worked nofun nofun (change_step _ _)
  | resume number => exact happens_resume number

end Callers

end CloudCluster.Lifecycle
