import CloudCluster.Config.File
import CloudCluster.Proofs.Lifecycle.Exclusion
import CloudCluster.Proofs.Lifecycle.States

/-!
A controller refines a sequential machine.

The machine is `Standing.afterAll`: it takes one ended body after the other, in
the order of their launches, and each at once. The controller takes a body in
many steps, between those of callers; but whenever it is at rest it stands where
the machine does.
-/

namespace CloudCluster.Lifecycle

open Files Tool

theorem Attempt.operation_conclude (operation : Operation) (ending : Ending) (attempt : Attempt) :
    (attempt.conclude operation ending).operation = attempt.operation := by
  unfold conclude
  split <;> rfl

namespace Controller

variable {controller : Controller} {event : Event}

/-- No event both ends a body and starts one. -/
theorem effects_of_ending? {operation : Operation} {ending : Ending}
    (decided : controller.ending? event = some (operation, ending)) :
    (controller.step event).2 = [] := by
  cases decides_of_ending? decided <;> rfl

theorem record_operations (controller : Controller) (past : List Attempt) (event : Event) :
    (controller.record past event).map (·.operation) =
      past.map (·.operation) ++ (controller.step event).2.filterMap Effect.started? := by
  unfold record extend
  split
  · next operation ending decided =>
    rw [effects_of_ending? decided, List.map_map]
    simp [Function.comp_def, Attempt.operation_conclude]
  · simp [Function.comp_def]

/-- A history has an attempt for every launch, in the order of the launches. -/
theorem history_operations (controller : Controller) (past : List Attempt) (events : List Event) :
    (controller.history past events).map (·.operation) =
      past.map (·.operation) ++ (controller.run events).2.filterMap Effect.started? := by
  induction events generalizing controller past with
  | nil => simp [history, run]
  | cons event rest ih =>
      simp only [history, run]
      rw [ih, record_operations, List.append_assoc, ← List.filterMap_append]

/-- What starts a task finds the controller at rest and the task idle. -/
theorem Change.idle_of_started {next : Controller} {effects : List Effect}
    {operation : Operation} (change : Change controller event next effects)
    (started : .started operation ∈ effects) :
    (∀ which, controller.isRunning which = false) ∧
      (controller.task operation).stage = .idle ∧
      (next.task operation).stage = .body (.launched operation controller.state) := by
  cases change with
  | launched free idle =>
      cases List.mem_singleton.mp started
      exact ⟨resting_of_idle free idle, idle, by simp⟩
  | captured stage => split at started <;> simp at started
  | _ => simp at started

/-- Whether all reloads of a run read the config file, in a tree of files that may
differ from point to point. -/
def ReloadsFrom (files : List Event → Tree) (path : Path) (events : List Event) : Prop :=
  ∀ before result after, events = before ++ .loaded result :: after →
    result = ClusterConfig.load (files before) path

/-- Whenever a new controller is at rest, its state and document are where the
sequential machine is after all its bodies, each of which has ended. The bodies
are those that calls have started, in that order; each ended as the gateway and
the config file decided, and the document of a spawn is what the file held when
it was read after the gateway's call. And whatever a call starts goes back, if
it fails, to the state that the call found at rest. -/
theorem standing_refines_history (path : Path) (environment : Environment) (config : ClusterConfig)
    (events : List Event) :
    let start := new path environment config
    let controller := (start.run events).1
    let history := start.history [] events
    ((∀ operation, controller.isRunning operation = false) →
      controller.standing = Standing.afterAll ⟨.notSpawned, some config⟩ history ∧
        ∀ attempt ∈ history, ∃ ending, attempt.ending = some ending) ∧
    history.map (·.operation) = (start.run events).2.filterMap Effect.started? ∧
    (∀ attempt ∈ history, ∀ ending, attempt.ending = some ending →
      ∃ before event after, events = before ++ event :: after ∧
        (start.run before).1.path = path ∧
        (start.run before).1.Decides event attempt.operation ending) ∧
    (∀ files, ReloadsFrom files path events →
      ∀ attempt ∈ history, ∀ document, attempt.ending = some (.spawned document) →
        ∃ before after, events = before ++ .loaded (.ok document) :: after ∧
          (start.run before).1.IsReloading ∧
          ClusterConfig.load (files before) path = .ok document) ∧
    ∀ operation wait, .started operation ∈ (controller.call operation wait).2 →
      (∀ which, controller.isRunning which = false) ∧
        ((controller.call operation wait).1.task operation).stage =
          .body ⟨.queued, controller.state⟩ := by
  intro start controller history
  have tracks : Tracks ⟨.notSpawned, some config⟩ controller history :=
    tracks_run (Tracks.new path environment config) events
  refine ⟨fun rest => ?_, ?_, fun attempt mem ending ended => ?_,
    fun files reads attempt mem document ended => ?_, fun operation wait started => ?_⟩
  · obtain ⟨ended, standing⟩ := tracks.settled rest
    exact ⟨standing, fun attempt mem => Option.ne_none_iff_exists'.mp (ended attempt mem)⟩
  · exact start.history_operations [] events
  · obtain ⟨before, event, after, split, decides⟩ := decides_of_mem_history mem ended
    exact ⟨before, event, after, split, (run_path start before).1, decides⟩
  · obtain ⟨before, after, split, reloading⟩ := reloads_of_history mem ended
    exact ⟨before, after, split, reloading, (reads before _ after split).symm⟩
  · obtain ⟨rest, idle, stage⟩ := (change_call operation wait).idle_of_started started
    rw [← tracks.rollback rest idle]
    exact ⟨rest, stage⟩

/-- A destroy that fails after a spawn leaves what the spawn has left. -/
theorem standing_after_failed_destroy :
    let start := new "c.yml" .empty ⟨[]⟩
    let document : ClusterConfig := ⟨[(.string "a", .null)]⟩
    let events : List Event := [.call .spawn true, .call .destroy true, .begin .spawn,
      .answered .spawn .success, .call .spawn false, .loaded (.ok document), .recordConfig .spawn,
      .recordState .spawn, .complete .spawn, .call .destroy false, .begin .destroy, .join .spawn,
      .answered .destroy (.failure (.interrupted "lost")), .undo .destroy, .capture .destroy,
      .complete .destroy]
    (∀ operation, (start.run events).1.isRunning operation = false) ∧
      (start.run events).1.standing = ⟨.ready, some document⟩ := by
  intro start document events
  have rest (operation : Operation) : (start.run events).1.isRunning operation = false := by
    cases operation <;> rfl
  have past : start.history [] events = [⟨.spawn, some (.spawned document)⟩,
      ⟨.destroy, some (.failed (.interrupted "lost"))⟩] := by
    dsimp only [start, events, document]
    rfl
  refine ⟨rest, ?_⟩
  rw [((standing_refines_history "c.yml" .empty ⟨[]⟩ events).1 rest).1]
  exact congrArg (Standing.afterAll _) past

end Controller

end CloudCluster.Lifecycle
