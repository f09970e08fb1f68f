import CloudCluster.Lifecycle.Controller

/-!
The history of a controller: what its bodies have done.

An `Attempt` is the run of one body, from the call that starts it. It ends when
its fate is decided: by the gateway's answer, or, for a spawn that the gateway
has answered well, by reading the config file again. `record` takes the next
event into a history. `Standing.after` is the sequential machine that the
history is for: a body that has succeeded leaves its standing at once, and one
that has failed leaves none.
-/

namespace CloudCluster.Lifecycle

open Files Tool

/-- How a body ends: a spawn with the document that it leaves in memory, a
destroy with none, and either with the cause of its failure. -/
inductive Ending where
  | spawned (document : ClusterConfig)
  | destroyed
  | failed (cause : ProvisionError)

/-- A body that was started, and how it has ended. -/
structure Attempt where
  operation : Operation
  ending : Option Ending := none

/-- A state with the document that is in memory. -/
structure Standing where
  state : ClusterState
  config : Option ClusterConfig

namespace Standing

/-- Where an ending leads. -/
def afterEnding (standing : Standing) : Ending → Standing
  | .spawned document => ⟨.ready, some document⟩
  | .destroyed => ⟨.notSpawned, none⟩
  | .failed _ => standing

/-- Where an attempt leads; one that has not ended leads nowhere yet. -/
def after (standing : Standing) (attempt : Attempt) : Standing :=
  match attempt.ending with
  | some ending => standing.afterEnding ending
  | none => standing

end Standing

/-- Ends the attempt at an operation that has not ended. -/
def Attempt.conclude (operation : Operation) (ending : Ending) (attempt : Attempt) : Attempt :=
  if attempt.operation = operation ∧ attempt.ending.isNone then
    { attempt with ending := some ending }
  else attempt

/-- The operation whose task an effect shows to be started. -/
def Effect.started? : Effect → Option Operation
  | .started operation => some operation
  | _ => none

/-- A history with the ending that an event decides, or with the tasks that its
effects show to be started. -/
def extend (history : List Attempt) (decided : Option (Operation × Ending))
    (effects : List Effect) : List Attempt :=
  match decided with
  | some (operation, ending) => history.map (Attempt.conclude operation ending)
  | none => history ++ (effects.filterMap Effect.started?).map ({ operation := · })

namespace Controller

/-- The state with the document in memory. -/
def standing (controller : Controller) : Standing :=
  ⟨controller.state, controller.config⟩

/-- Whether the gateway is at work on an operation. -/
def IsCalling (controller : Controller) (operation : Operation) : Prop :=
  ∃ rollbackTo, (controller.task operation).stage = .body ⟨.calling, rollbackTo⟩

/-- Whether the gateway has answered a spawn well whose document is not read yet. -/
def IsReloading (controller : Controller) : Prop :=
  ∃ rollbackTo, controller.spawner.stage = .body ⟨.returned, rollbackTo⟩

/-- The events that end a body, and how. The gateway's answer ends a destroy, and
a spawn if it is a failure; else a spawn ends when the config file is read. -/
inductive Decides (controller : Controller) : Event → Operation → Ending → Prop where
  | spawned {document} (reloading : controller.IsReloading) :
      Decides controller (.loaded (.ok document)) .spawn (.spawned document)
  | unreadable {error} (reloading : controller.IsReloading) :
      Decides controller (.loaded (.error error)) .spawn
        (.failed (.reload controller.path error.message))
  | destroyed (calling : controller.IsCalling .destroy) :
      Decides controller (.answered .destroy .success) .destroy .destroyed
  | broken {operation outcome cause} (calling : controller.IsCalling operation)
      (failure : outcome.cause? = some cause) :
      Decides controller (.answered operation outcome) operation (.failed cause)

/-- The ending that the gateway's answer decides: a failure ends either body, a
success only a destroy. -/
def answerEnding? (operation : Operation) (outcome : Outcome) : Option Ending :=
  match outcome.cause?, operation with
  | some cause, _ => some (.failed cause)
  | none, .destroy => some .destroyed
  | none, .spawn => none

/-- The body that an event ends, and how. -/
def ending? (controller : Controller) : Event → Option (Operation × Ending)
  | .answered operation outcome =>
    match (controller.task operation).stage with
    | .body ⟨.calling, _⟩ => (answerEnding? operation outcome).map (operation, ·)
    | _ => none
  | .loaded result =>
    match controller.spawner.stage, result with
    | .body ⟨.returned, _⟩, .ok document => some (.spawn, .spawned document)
    | .body ⟨.returned, _⟩, .error error =>
      some (.spawn, .failed (.reload controller.path error.message))
    | _, _ => none
  | _ => none

/-- Takes an event into a history. -/
def record (controller : Controller) (history : List Attempt) (event : Event) : List Attempt :=
  extend history (controller.ending? event) (controller.step event).2

/-- The history of a run, in the order of the launches. -/
def history (controller : Controller) (past : List Attempt) : List Event → List Attempt
  | [] => past
  | event :: rest => (controller.step event).1.history (controller.record past event) rest

/-! ### Runs -/

theorem run_append (controller : Controller) (first second : List Event) :
    controller.run (first ++ second) =
      (((controller.run first).1.run second).1,
        (controller.run first).2 ++ ((controller.run first).1.run second).2) := by
  induction first generalizing controller with
  | nil => simp [run]
  | cons event rest ih => simp [run, ih, List.append_assoc]

theorem run_concat (controller : Controller) (events : List Event) (event : Event) :
    controller.run (events ++ [event]) =
      (((controller.run events).1.step event).1,
        (controller.run events).2 ++ ((controller.run events).1.step event).2) := by
  simp [run_append, run]

/-- What every event keeps, every run keeps. -/
theorem run_invariant (Keeps : Controller → Prop)
    (step : ∀ controller event, Keeps controller → Keeps (controller.step event).1)
    {controller : Controller} (initial : Keeps controller) (events : List Event) :
    Keeps (controller.run events).1 := by
  induction events generalizing controller with
  | nil => exact initial
  | cons event rest ih => exact ih (step controller event initial)

/-! ### Where endings come from -/

theorem mem_record {controller : Controller} {past : List Attempt} {event : Event}
    {attempt : Attempt} {ending : Ending} (mem : attempt ∈ controller.record past event)
    (ended : attempt.ending = some ending) :
    attempt ∈ past ∨ controller.ending? event = some (attempt.operation, ending) := by
  unfold record extend at mem
  split at mem
  · next operation decided here =>
    obtain ⟨before, old, rfl⟩ := List.mem_map.mp mem
    unfold Attempt.conclude at ended ⊢
    split
    · next unended =>
      rw [if_pos unended] at ended
      cases ended
      exact Or.inr (by rw [here, unended.1])
    · exact Or.inl old
  · rcases List.mem_append.mp mem with old | new
    · exact Or.inl old
    · obtain ⟨operation, _, rfl⟩ := List.mem_map.mp new
      cases ended

theorem mem_history {controller : Controller} {past : List Attempt} {events : List Event}
    {attempt : Attempt} {ending : Ending} (mem : attempt ∈ controller.history past events)
    (ended : attempt.ending = some ending) :
    attempt ∈ past ∨ ∃ before event after, events = before ++ event :: after ∧
      (controller.run before).1.ending? event = some (attempt.operation, ending) := by
  induction events generalizing controller past with
  | nil => exact Or.inl mem
  | cons event rest ih =>
      rcases ih mem with recorded | ⟨before, decisive, after, rfl, decided⟩
      · rcases mem_record recorded ended with old | decided
        · exact Or.inl old
        · exact Or.inr ⟨[], event, rest, rfl, decided⟩
      · exact Or.inr ⟨event :: before, decisive, after, rfl, decided⟩

theorem decides_of_answer {controller : Controller} {operation : Operation} {outcome : Outcome}
    {ending : Ending} (calling : controller.IsCalling operation)
    (decided : answerEnding? operation outcome = some ending) :
    controller.Decides (.answered operation outcome) operation ending := by
  unfold answerEnding? at decided
  split at decided
  · next cause failure =>
    cases decided
    exact .broken calling failure
  · next success =>
    cases decided
    cases outcome with
    | success => exact .destroyed calling
    | _ => cases success
  · cases decided

theorem decides_of_ending? {controller : Controller} {event : Event} {operation : Operation}
    {ending : Ending} (decided : controller.ending? event = some (operation, ending)) :
    controller.Decides event operation ending := by
  unfold ending? at decided
  split at decided
  · next answered outcome =>
    split at decided
    · next rollbackTo stage =>
      obtain ⟨ending, is, same⟩ := Option.map_eq_some_iff.mp decided
      cases same
      exact decides_of_answer ⟨rollbackTo, stage⟩ is
    · cases decided
  · split at decided
    · next rollbackTo document stage =>
      cases decided
      exact .spawned ⟨rollbackTo, stage⟩
    · next rollbackTo error stage =>
      cases decided
      exact .unreadable ⟨rollbackTo, stage⟩
    · cases decided
  · cases decided

theorem ending?_of_decides {controller : Controller} {event : Event} {operation : Operation}
    {ending : Ending} (decides : controller.Decides event operation ending) :
    controller.ending? event = some (operation, ending) := by
  cases decides with
  | spawned reloading =>
      obtain ⟨rollbackTo, stage⟩ := reloading
      simp [ending?, stage]
  | unreadable reloading =>
      obtain ⟨rollbackTo, stage⟩ := reloading
      simp [ending?, stage]
  | destroyed calling =>
      obtain ⟨rollbackTo, stage⟩ := calling
      simp [ending?, stage, answerEnding?, Outcome.cause?]
  | broken calling failure =>
      obtain ⟨rollbackTo, stage⟩ := calling
      simp [ending?, stage, answerEnding?, failure]

/-- Every ending of a history was decided by an event of the run. -/
theorem decides_of_mem_history {start : Controller} {events : List Event} {attempt : Attempt}
    {ending : Ending} (mem : attempt ∈ start.history [] events)
    (ended : attempt.ending = some ending) :
    ∃ before event after, events = before ++ event :: after ∧
      (start.run before).1.Decides event attempt.operation ending := by
  rcases mem_history mem ended with old | ⟨before, event, after, split, decided⟩
  · cases old
  · exact ⟨before, event, after, split, decides_of_ending? decided⟩

end Controller

end CloudCluster.Lifecycle
