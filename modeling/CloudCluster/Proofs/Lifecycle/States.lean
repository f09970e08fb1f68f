import CloudCluster.Proofs.Lifecycle.Tracking
import Mathlib.Data.List.Induction

/-!
States that can be reached.

Between a launch and the end of its task the state is in progress, or the
controller already stands where a part of its history leads
(`Tracks.during_or_settled`). Where a history leads is never in progress, and is
ready only by a document that a spawn has read. So a state in progress has a
running task, and a cluster that is ready has a config.
-/

namespace CloudCluster.Lifecycle

open Files Tool Controller

namespace Standing

theorem after_inProgress {standing : Standing} (settled : standing.state.inProgress = false)
    (attempt : Attempt) : (standing.after attempt).state.inProgress = false := by
  unfold after
  split
  · next ending _ => cases ending <;> first | rfl | exact settled
  · exact settled

/-- A history never leads to a state in progress. -/
theorem afterAll_inProgress {start : Standing} (settled : start.state.inProgress = false)
    (history : List Attempt) : (start.afterAll history).state.inProgress = false := by
  induction history generalizing start with
  | nil => exact settled
  | cons attempt rest ih => exact ih (after_inProgress settled attempt)

/-- A history leads to a cluster that is ready only by a spawn, whose document is
in memory. -/
theorem spawned_of_ready {start : Standing} (unready : start.state ≠ .ready)
    (history : List Attempt) (ready : (start.afterAll history).state = .ready) :
    ∃ attempt ∈ history, ∃ document, attempt.ending = some (.spawned document) ∧
      (start.afterAll history).config = some document := by
  induction history using List.reverseRecOn with
  | nil => exact absurd ready unready
  | append_singleton past attempt ih =>
      rw [afterAll_concat] at ready ⊢
      have carried (same : (start.afterAll past).after attempt = start.afterAll past) :
          ∃ attempt' ∈ past ++ [attempt], ∃ document,
            attempt'.ending = some (.spawned document) ∧
              ((start.afterAll past).after attempt).config = some document := by
        rw [same] at ready ⊢
        obtain ⟨attempt', mem, found⟩ := ih ready
        exact ⟨attempt', List.mem_append_left _ mem, found⟩
      cases ended : attempt.ending with
      | none => exact carried (by simp [after, ended])
      | some ending =>
          cases ending with
          | spawned document =>
              exact ⟨attempt, List.mem_append_right _ (List.mem_singleton_self _), document, ended,
                by simp [after, ended, afterEnding]⟩
          | destroyed => simp [after, ended, afterEnding] at ready
          | failed cause => exact carried (by simp [after, ended, afterEnding])

end Standing

theorem Midway.during_or_settled {prior standing : Standing} {operation : Operation}
    {stage : Stage Job} {ending : Option Ending}
    (midway : Midway prior operation stage ending standing) :
    standing.state = .during operation ∨ standing = prior ∨
      standing = prior.after ⟨operation, ending⟩ := by
  cases midway with
  | undone => exact Or.inr (Or.inl rfl)
  | finishing => exact Or.inr (Or.inr rfl)
  | _ => exact Or.inl rfl

namespace Tracks

variable {start : Standing} {controller : Controller} {history : List Attempt}

/-- Either an operation is in progress, or the controller stands where a part of
its history leads. -/
theorem during_or_settled (tracks : Tracks start controller history) :
    (∃ operation, controller.isRunning operation = true ∧
      controller.state = .during operation) ∨
    ∃ part, part <+: history ∧ controller.standing = start.afterAll part := by
  cases tracks.course with
  | resting _ _ standing => exact Or.inr ⟨history, List.prefix_rfl, standing⟩
  | @busy past operation ending _ _ midway =>
      rcases midway.during_or_settled with during | before | after
      · exact Or.inl ⟨operation, isRunning_of_stage rfl midway.phase, during⟩
      · exact Or.inr ⟨past, List.prefix_append _ _, before⟩
      · exact Or.inr ⟨_, List.prefix_rfl, by rw [after, Standing.afterAll_concat]⟩

/-- A cluster that is ready has the document of a spawn in memory. -/
theorem spawned_of_ready (tracks : Tracks start controller history)
    (unready : start.state ≠ .ready) (ready : controller.state = .ready) :
    ∃ attempt ∈ history, ∃ document, attempt.ending = some (.spawned document) ∧
      controller.config = some document := by
  rcases tracks.during_or_settled with ⟨operation, _, during⟩ | ⟨part, prefix_, standing⟩
  · rw [ready] at during
    cases operation <;> cases during
  · have led : (start.afterAll part).state = .ready := by rw [← standing]; exact ready
    obtain ⟨attempt, mem, document, ended, config⟩ := Standing.spawned_of_ready unready part led
    refine ⟨attempt, prefix_.subset mem, document, ended, ?_⟩
    rw [← config, ← standing]
    rfl

/-- The state is in progress only while its operation runs. -/
theorem isRunning_of_during (tracks : Tracks start controller history)
    (settled : start.state.inProgress = false) {operation : Operation}
    (during : controller.state = .during operation) : controller.isRunning operation = true := by
  rcases tracks.during_or_settled with ⟨running, isRunning, during'⟩ | ⟨part, _, standing⟩
  · rw [during] at during'
    cases operation <;> cases running <;> first | exact isRunning | cases during'
  · have led := Standing.afterAll_inProgress settled part
    rw [← standing, show controller.standing.state = _ from during] at led
    cases operation <;> cases led

end Tracks

namespace Controller

/-- Whether a spawn body has read a document from the config file in the course
of a run, after the gateway's call. -/
def Reloads (start : Controller) (events : List Event) (document : ClusterConfig) : Prop :=
  ∃ before after, events = before ++ .loaded (.ok document) :: after ∧
    (start.run before).1.IsReloading

theorem reloads_of_history {start : Controller} {events : List Event} {attempt : Attempt}
    {document : ClusterConfig} (mem : attempt ∈ start.history [] events)
    (ended : attempt.ending = some (.spawned document)) : Reloads start events document := by
  obtain ⟨before, event, after, split, decides⟩ := decides_of_mem_history mem ended
  generalize attempt.operation = operation at decides
  cases decides with
  | spawned reloading => exact ⟨before, after, split, reloading⟩

/-- In every state that a new controller can reach, a state in progress has its
task running, a cluster that is ready has the document in memory that its spawn
has read, and with no task running the state is not in progress. -/
theorem states_match_tasks (path : Path) (environment : Environment) (config : ClusterConfig)
    (events : List Event) :
    let start := new path environment config
    let controller := (start.run events).1
    (controller.state = .spawning → controller.spawner.phase = .running) ∧
    (controller.state = .destroying → controller.destroyer.phase = .running) ∧
    (controller.state = .ready →
      ∃ document, controller.config = some document ∧ Reloads start events document) ∧
    (controller.spawner.phase ≠ .running → controller.destroyer.phase ≠ .running →
      controller.state = .notSpawned ∨ controller.state = .ready) := by
  intro start controller
  have tracks := tracks_run (Tracks.new path environment config) events
  have running (operation : Operation) (during : controller.state = .during operation) :
      (controller.task operation).phase = .running := by
    simpa [isRunning, Task.isRunning] using tracks.isRunning_of_during rfl during
  refine ⟨running .spawn, running .destroy, fun ready => ?_, fun spawner destroyer => ?_⟩
  · obtain ⟨attempt, mem, document, ended, held⟩ := tracks.spawned_of_ready (by simp) ready
    exact ⟨document, held, reloads_of_history mem ended⟩
  · cases state : controller.state with
    | notSpawned => exact Or.inl rfl
    | spawning => exact absurd (running .spawn state) spawner
    | ready => exact Or.inr rfl
    | destroying => exact absurd (running .destroy state) destroyer

/-- A destroy that breaks off leaves the cluster ready, with the document that
was read before. -/
theorem ready_after_interrupted_destroy :
    let start := new "c.yml" .empty ⟨[]⟩
    let events : List Event := [.call .spawn false, .begin .spawn, .answered .spawn .success,
      .loaded (.ok ⟨[(.string "a", .null)]⟩), .recordConfig .spawn, .recordState .spawn,
      .complete .spawn, .call .destroy true, .begin .destroy,
      .answered .destroy (.breakdown 1 (.described "lost")), .undo .destroy]
    (start.run events).1.state = .ready ∧ ∃ document,
      (start.run events).1.config = some document ∧ Reloads start events document := by
  intro start events
  have ready : (start.run events).1.state = .ready := rfl
  exact ⟨ready, (states_match_tasks "c.yml" .empty ⟨[]⟩ events).2.2.1 ready⟩

end Controller

end CloudCluster.Lifecycle
