import CloudCluster.Proofs.Lifecycle.Tracking

/-!
Each operation calls the gateway at most once, and never during the other.

A call is counted by the stage of its task (`change_invocations`), so that a
whole run has as many calls as the last stage says. That the operations keep
apart follows from the simulation: while one is running, the other is not.
-/

namespace CloudCluster.Lifecycle

open Files Tool

/-- Whether an effect is the gateway call of an operation. -/
def Effect.invokes (operation : Operation) : Effect → Bool
  | .invoked which _ _ => which = operation
  | _ => false

/-- Whether the gateway was called on the way to a stage. -/
def Stage.hasInvoked : Stage Job → Bool
  | .idle | .body ⟨.queued, _⟩ => false
  | _ => true

namespace Controller

/-- How often an operation has called the gateway. -/
def invocations (controller : Controller) (operation : Operation) : Nat :=
  (controller.task operation).stage.hasInvoked.toNat

/-- Whether an event that follows a run calls the gateway for an operation. -/
def InvokesAfter (start : Controller) (before : List Event) (event : Event)
    (operation : Operation) : Prop :=
  ∃ effect ∈ ((start.run before).1.step event).2, effect.invokes operation

variable {controller next : Controller} {event : Event} {effects : List Effect}
  {operation : Operation}

/-! ### Single calls -/

/-- Only a beginning body calls the gateway. -/
theorem hasInvoked_of_stageStep {stage becomes : Stage Job}
    (step : StageStep event operation stage becomes) (other : ∀ which, event ≠ .begin which) :
    becomes.hasInvoked = stage.hasInvoked := by
  cases step with
  | @launched operation => cases operation <;> rfl
  | invoked => exact absurd rfl (other operation)
  | @returned operation => cases operation <;> rfl
  | _ => rfl

/-- A change counts every call that it makes. -/
theorem change_invocations (change : Change controller event next effects)
    (operation : Operation) :
    effects.countP (Effect.invokes operation) + controller.invocations operation =
      next.invocations operation := by
  have kept (other : ∀ which, event ≠ .begin which) :
      next.invocations operation = controller.invocations operation := by
    unfold invocations
    rcases change.stageStep operation with same | step
    · rw [same]
    · rw [hasInvoked_of_stageStep step other]
  cases change with
  | @invoked calling rollbackTo stage =>
      rcases operation.eq_or_eq_other calling with rfl | rfl
      · simp [Effect.invokes, invocations, stage, Stage.hasInvoked]
      · simp [Effect.invokes, invocations, calling.other_ne.symm]
  | captured stage =>
      rw [kept nofun]
      split <;> simp [Effect.invokes]
  | ignored _ undecided => simp
  | _ =>
      rw [kept nofun]
      simp [Effect.invokes]

theorem run_invocations (controller : Controller) (events : List Event) (operation : Operation) :
    (controller.run events).2.countP (Effect.invokes operation) +
        controller.invocations operation =
      (controller.run events).1.invocations operation := by
  induction events generalizing controller with
  | nil => simp [run]
  | cons event rest ih =>
      have first := change_invocations (change_step controller event) operation
      have others := ih (controller.step event).1
      simp only [run, List.countP_append]
      omega

/-! ### What calls are made with -/

theorem change_path (change : Change controller event next effects) :
    next.path = controller.path ∧ next.environment = controller.environment := by
  cases change <;> simp

/-- A change that calls the gateway begins a body, which is running then. -/
theorem change_invoked (change : Change controller event next effects) {effect : Effect}
    (mem : effect ∈ effects) (invokes : effect.invokes operation) :
    effect = .invoked operation controller.path controller.environment ∧
      controller.isRunning operation = true ∧ next.IsCalling operation := by
  cases change with
  | @invoked calling rollbackTo stage =>
      rw [List.mem_singleton.mp mem] at invokes ⊢
      obtain rfl : calling = operation := by simpa [Effect.invokes] using invokes
      exact ⟨rfl, isRunning_of_stage stage rfl, rollbackTo, by simp⟩
  | captured stage =>
      split at mem
      · cases mem
      · rw [List.mem_singleton.mp mem] at invokes
        cases invokes
  | rejected | launched | joined =>
      rw [List.mem_singleton.mp mem] at invokes
      cases invokes
  | _ => cases mem

theorem run_path (controller : Controller) (events : List Event) :
    (controller.run events).1.path = controller.path ∧
      (controller.run events).1.environment = controller.environment := by
  refine run_invariant (fun next => next.path = controller.path ∧
    next.environment = controller.environment) (fun before event kept => ?_) ⟨rfl, rfl⟩ events
  obtain ⟨path, environment⟩ := change_path (change_step before event)
  exact ⟨path.trans kept.1, environment.trans kept.2⟩

theorem run_invoked (controller : Controller) (events : List Event) {effect : Effect}
    (mem : effect ∈ (controller.run events).2) (invokes : effect.invokes operation) :
    effect = .invoked operation controller.path controller.environment := by
  induction events generalizing controller with
  | nil => cases mem
  | cons event rest ih =>
      rcases List.mem_append.mp mem with first | later
      · exact (change_invoked (change_step controller event) first invokes).1
      · have kept := change_path (change_step controller event)
        rw [ih (controller.step event).1 later, kept.1, kept.2]

/-! ### Calls in flight -/

/-- A call of the gateway lasts until it is answered. -/
theorem change_calling (change : Change controller event next effects)
    (calling : controller.IsCalling operation) :
    next.IsCalling operation ∨ ∃ outcome, event = .answered operation outcome := by
  obtain ⟨rollbackTo, stage⟩ := calling
  rcases change.stageStep operation with same | step
  · exact Or.inl ⟨rollbackTo, same.trans stage⟩
  · rw [stage] at step
    generalize (next.task operation).stage = becomes at step
    cases step with
    | returned => exact Or.inr ⟨_, rfl⟩
    | broken failure => exact Or.inr ⟨_, rfl⟩

theorem run_calling (controller : Controller) (events : List Event)
    (calling : controller.IsCalling operation) :
    (controller.run events).1.IsCalling operation ∨
      ∃ outcome, .answered operation outcome ∈ events := by
  induction events generalizing controller with
  | nil => exact Or.inl calling
  | cons event rest ih =>
      rcases change_calling (change_step controller event) calling with still | ⟨outcome, rfl⟩
      · rcases ih (controller.step event).1 still with later | ⟨outcome, mem⟩
        · exact Or.inl later
        · exact Or.inr ⟨outcome, List.mem_cons_of_mem _ mem⟩
      · exact Or.inr ⟨outcome, List.mem_cons_self⟩

namespace IsCalling

theorem isRunning (calling : controller.IsCalling operation) :
    controller.isRunning operation = true := by
  obtain ⟨rollbackTo, stage⟩ := calling
  exact isRunning_of_stage stage rfl

end IsCalling

namespace InvokesAfter

variable {start : Controller} {before : List Event}

theorem running (invoked : InvokesAfter start before event operation) :
    (start.run before).1.isRunning operation = true := by
  obtain ⟨effect, mem, invokes⟩ := invoked
  exact (change_invoked (change_step _ event) mem invokes).2.1

theorem calling (invoked : InvokesAfter start before event operation) :
    (start.run (before ++ [event])).1.IsCalling operation := by
  obtain ⟨effect, mem, invokes⟩ := invoked
  rw [run_concat]
  exact (change_invoked (change_step _ event) mem invokes).2.2

end InvokesAfter

/-! ### Operations keep apart -/

theorem phase_of_resting (rest : controller.isRunning operation = false) :
    (controller.task operation).phase = .notStarted ∨
      (controller.task operation).phase = .completed := by
  unfold isRunning Task.isRunning at rest
  cases phase : (controller.task operation).phase with
  | notStarted => exact Or.inl rfl
  | running => simp [phase] at rest
  | completed => exact Or.inr rfl

section New

variable (path : Path) (environment : Environment) (config : ClusterConfig)

/-- While an operation runs, the other does not. -/
theorem run_new_free (events : List Event)
    (running : ((new path environment config).run events).1.isRunning operation = true) :
    ((new path environment config).run events).1.isRunning operation.other = false := by
  obtain ⟨_, _, _, _, free, _⟩ :=
    (tracks_run (Tracks.new path environment config) events).busy running
  exact free

/-- Over any run of a new controller, each operation calls the gateway at most
once; it calls with the path and the environment of the controller; it begins
only when the task of the other operation has not started or is completed; and
if the other operation is called after it, it was answered before. -/
theorem operations_call_once_and_apart (events : List Event) :
    let start := new path environment config
    (∀ operation, (start.run events).2.countP (Effect.invokes operation) ≤ 1) ∧
    (∀ operation calledPath calledEnvironment,
      .invoked operation calledPath calledEnvironment ∈ (start.run events).2 →
        calledPath = path ∧ calledEnvironment = environment) ∧
    (∀ before event after operation, events = before ++ event :: after →
      InvokesAfter start before event operation →
        ((start.run before).1.task operation.other).phase = .notStarted ∨
          ((start.run before).1.task operation.other).phase = .completed) ∧
    (∀ before event between next after operation,
      events = before ++ event :: (between ++ next :: after) →
      InvokesAfter start before event operation →
      InvokesAfter start (before ++ event :: between) next operation.other →
        ∃ outcome, .answered operation outcome ∈ between) := by
  intro start
  refine ⟨fun operation => ?_, fun operation calledPath calledEnvironment mem => ?_,
    ?_, ?_⟩
  · have counted := run_invocations start events operation
    have bound : (start.run events).1.invocations operation ≤ 1 := Bool.toNat_le _
    omega
  · have invokes : (Effect.invoked operation calledPath calledEnvironment).invokes operation := by
      simp [Effect.invokes]
    cases run_invoked start events mem invokes
    exact ⟨rfl, rfl⟩
  · intro before event after operation _ invoked
    exact phase_of_resting (run_new_free path environment config before invoked.running)
  · intro before event between next after operation _ first second
    have later : start.run (before ++ event :: between) =
        start.run ((before ++ [event]) ++ between) := by simp
    -- An answer is needed: as long as there is none the first call is in flight,
    -- and then the second cannot begin.
    rcases run_calling _ between first.calling with calling | answered
    · have free := run_new_free path environment config _ second.running
      rw [later, run_append, Operation.other_other, calling.isRunning] at free
      cases free
    · exact answered

end New

/-- A destroy that is called for while the spawn is at work is rejected; one that
is called for later begins after the spawn was answered. -/
theorem spawn_answered_before_destroy :
    let start := new "c.yml" .empty ⟨[]⟩
    let between : List Event := [.call .destroy true, .answered .spawn .success, .loaded (.ok ⟨[]⟩),
      .recordConfig .spawn, .recordState .spawn, .complete .spawn, .call .destroy false]
    InvokesAfter start [.call .spawn true] (.begin .spawn) .spawn ∧
      InvokesAfter start ([.call .spawn true] ++ .begin .spawn :: between) (.begin .destroy)
        .destroy ∧
      ∃ outcome, .answered .spawn outcome ∈ between := by
  intro start between
  have spawned : InvokesAfter start [.call .spawn true] (.begin .spawn) .spawn :=
    ⟨.invoked .spawn "c.yml" .empty, List.mem_singleton_self _, rfl⟩
  have destroyed : InvokesAfter start ([.call .spawn true] ++ .begin .spawn :: between)
      (.begin .destroy) .destroy :=
    ⟨.invoked .destroy "c.yml" .empty, List.mem_singleton_self _, rfl⟩
  have apart := (operations_call_once_and_apart "c.yml" .empty ⟨[]⟩
    ([.call .spawn true] ++ .begin .spawn :: (between ++ .begin .destroy :: []))).2.2.2
  exact ⟨spawned, destroyed, apart _ _ _ _ _ _ rfl spawned destroyed⟩

end Controller

end CloudCluster.Lifecycle
