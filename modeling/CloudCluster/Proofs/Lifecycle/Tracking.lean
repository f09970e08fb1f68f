import CloudCluster.Proofs.Lifecycle.Moves

/-!
A controller keeps to its history.

`Tracks` relates a controller to the history of its run. While no task is
running, the standing of the controller is where the history leads; while one
is, `Midway` says how far the controller has come from the standing before the
launch, at every point between two events. `tracks_run` is the simulation: every
run keeps to its history.
-/

namespace CloudCluster.Lifecycle

open Files Tool Controller

namespace Standing

/-- Where a history leads. -/
def afterAll (start : Standing) (history : List Attempt) : Standing :=
  history.foldl after start

@[simp] theorem afterAll_concat (start : Standing) (past : List Attempt) (attempt : Attempt) :
    start.afterAll (past ++ [attempt]) = (start.afterAll past).after attempt := by
  simp [afterAll]

end Standing

/-- Whether every attempt of a history has ended. -/
def AllEnded (history : List Attempt) : Prop :=
  ∀ attempt ∈ history, attempt.ending ≠ none

theorem AllEnded.concat {past : List Attempt} (ended : AllEnded past) (operation : Operation)
    (ending : Ending) : AllEnded (past ++ [⟨operation, some ending⟩]) := by
  intro attempt mem
  rcases List.mem_append.mp mem with old | new
  · exact ended attempt old
  · rw [List.mem_singleton.mp new]
    simp

/-- Only the last attempt can be open, so that an ending is its ending. -/
theorem AllEnded.conclude {past : List Attempt} (ended : AllEnded past) (operation : Operation)
    (ending : Ending) :
    (past ++ [⟨operation, none⟩] : List Attempt).map (Attempt.conclude operation ending) =
      past ++ [⟨operation, some ending⟩] := by
  have unchanged : past.map (Attempt.conclude operation ending) = past.map id :=
    List.map_congr_left fun attempt mem => by simp [Attempt.conclude, ended attempt mem]
  rw [List.map_append, unchanged, List.map_id]
  simp [Attempt.conclude]

/-- How far the task of an operation is, how its body has ended, and where the
controller stands, after a launch at a prior standing. -/
inductive Midway (prior : Standing) (operation : Operation) :
    Stage Job → Option Ending → Standing → Prop where
  | queued : Midway prior operation (.body ⟨.queued, prior.state⟩) none
      ⟨.during operation, prior.config⟩
  | calling : Midway prior operation (.body ⟨.calling, prior.state⟩) none
      ⟨.during operation, prior.config⟩
  | returned (loads : operation = .spawn) :
      Midway prior operation (.body ⟨.returned, prior.state⟩) none
        ⟨.during operation, prior.config⟩
  | holding {document ending}
      (leads : prior.afterEnding ending = ⟨.after operation, document⟩) :
      Midway prior operation (.body ⟨.holding document, prior.state⟩) (some ending)
        ⟨.during operation, prior.config⟩
  | recorded {document ending}
      (leads : prior.afterEnding ending = ⟨.after operation, document⟩) :
      Midway prior operation (.body ⟨.recorded, prior.state⟩) (some ending)
        ⟨.during operation, document⟩
  | failed {body cause} :
      Midway prior operation (.failed ⟨body, prior.state⟩ cause) (some (.failed cause))
        ⟨.during operation, prior.config⟩
  | undone {cause} : Midway prior operation (.undone cause) (some (.failed cause)) prior
  | finishing {ending} :
      Midway prior operation .finishing (some ending) (prior.afterEnding ending)

theorem Midway.phase {prior standing : Standing} {operation : Operation} {stage : Stage Job}
    {ending : Option Ending} (midway : Midway prior operation stage ending standing) :
    stage.phase = .running := by
  cases midway <;> rfl

/-- Where a controller is with respect to its history. -/
inductive Course (start : Standing) (controller : Controller) : List Attempt → Prop where
  | resting {history} (rest : ∀ operation, controller.isRunning operation = false)
      (ended : AllEnded history) (standing : controller.standing = start.afterAll history) :
      Course start controller history
  | busy {past operation ending} (ended : AllEnded past)
      (free : controller.isRunning operation.other = false)
      (midway : Midway (start.afterAll past) operation (controller.task operation).stage ending
        controller.standing) :
      Course start controller (past ++ [⟨operation, ending⟩])

/-- A controller keeps to its history; before the first spawn the history leads
to no cluster. -/
structure Tracks (start : Standing) (controller : Controller) (history : List Attempt) :
    Prop where
  course : Course start controller history
  unspawned : (controller.task .spawn).stage = .idle →
    (start.afterAll history).state = .notSpawned

variable {start : Standing} {controller next : Controller} {past history : List Attempt}
  {operation : Operation} {stage becomes : Stage Job}

namespace Tracks

theorem new (path : Path) (environment : Environment) (config : ClusterConfig) :
    Tracks ⟨.notSpawned, some config⟩ (.new path environment config) [] where
  course := .resting (fun operation => by cases operation <;> rfl) (fun _ mem => nomatch mem) rfl
  unspawned := fun _ => rfl

/-- What is known of a controller while an operation runs. -/
theorem busy (tracks : Tracks start controller history)
    (running : controller.isRunning operation = true) :
    ∃ past ending, history = past ++ [⟨operation, ending⟩] ∧ AllEnded past ∧
      controller.isRunning operation.other = false ∧
      Midway (start.afterAll past) operation (controller.task operation).stage ending
        controller.standing := by
  cases tracks.course with
  | resting rest => simp [rest] at running
  | @busy past launched ending ended free midway =>
      rcases operation.eq_or_eq_other launched with rfl | rfl
      · exact ⟨past, ending, rfl, ended, free, midway⟩
      · simp [free] at running

/-- A controller none of whose tasks has moved, and which stands as before. -/
theorem congr (tracks : Tracks start controller history)
    (stages : ∀ operation, (next.task operation).stage = (controller.task operation).stage)
    (standing : next.standing = controller.standing) : Tracks start next history where
  course := by
    have running := fun operation => isRunning_congr (stages operation)
    cases tracks.course with
    | resting rest ended before =>
        exact .resting (by simp [running, rest]) ended (standing.trans before)
    | busy ended free midway =>
        exact .busy ended (by rw [running, free]) (by rw [stages, standing]; exact midway)
  unspawned := by
    rw [stages]
    exact tracks.unspawned

/-- While no task runs, the controller stands where its history leads. -/
theorem settled (tracks : Tracks start controller history)
    (rest : ∀ operation, controller.isRunning operation = false) :
    AllEnded history ∧ controller.standing = start.afterAll history := by
  cases tracks.course with
  | resting _ ended standing => exact ⟨ended, standing⟩
  | busy _ _ midway => exact absurd (isRunning_of_stage rfl midway.phase) (by simp [rest])

/-- A failed body goes back to where its launch found the controller. For a spawn
that is a constant, which is where the history leads before the first spawn. -/
theorem rollback (tracks : Tracks start controller history)
    (rest : ∀ operation, controller.isRunning operation = false)
    (idle : (controller.task operation).stage = .idle) :
    Job.launched operation controller.state = ⟨.queued, controller.state⟩ := by
  cases operation with
  | spawn =>
      have led : controller.state = (start.afterAll history).state :=
        congrArg Standing.state (tracks.settled rest).2
      rw [led, tracks.unspawned idle]
      rfl
  | destroy => rfl

/-- A launch at rest opens an attempt. -/
theorem launch (tracks : Tracks start controller history)
    (free : controller.isRunning operation.other = false)
    (idle : (controller.task operation).stage = .idle)
    (moves : Moves controller next operation (.body (.launched operation controller.state)))
    (standing : next.standing = ⟨.during operation, controller.config⟩) :
    Tracks start next (history ++ [⟨operation, none⟩]) := by
  have rest := resting_of_idle free idle
  obtain ⟨ended, led⟩ := tracks.settled rest
  refine ⟨.busy ended (by rw [moves.other, free]) ?_, ?_⟩
  · rw [moves.moved, tracks.rollback rest idle, standing, ← led]
    exact .queued
  · intro unspawned
    rw [Standing.afterAll_concat]
    exact tracks.unspawned (moves.unspawned (by simp) unspawned).2

/-- A running body goes on without an ending. -/
theorem proceed (tracks : Tracks start controller history)
    (is : (controller.task operation).stage = stage) (running : stage.phase = .running)
    (moves : Moves controller next operation becomes)
    (onward : ∀ {prior ending here}, controller.standing = here →
      Midway prior operation stage ending here →
        Midway prior operation becomes ending next.standing) :
    Tracks start next history := by
  obtain ⟨past, ending, rfl, ended, free, midway⟩ := tracks.busy (isRunning_of_stage is running)
  have midwayNext := onward rfl (is ▸ midway)
  refine ⟨.busy ended (by rw [moves.other, free]) (moves.moved ▸ midwayNext), ?_⟩
  intro unspawned
  have begun : becomes ≠ .idle := fun idle => by simpa [idle, Stage.phase] using midwayNext.phase
  exact tracks.unspawned (moves.unspawned begun unspawned).2

/-- A running body comes to its ending. -/
theorem conclude {ending : Ending} (tracks : Tracks start controller history)
    (is : (controller.task operation).stage = stage) (running : stage.phase = .running)
    (moves : Moves controller next operation becomes)
    (onward : ∀ {prior before here}, controller.standing = here →
      Midway prior operation stage before here →
        before = none ∧ Midway prior operation becomes (some ending) next.standing)
    (spawns : ∀ document, ending = .spawned document → operation = .spawn) :
    Tracks start next (history.map (Attempt.conclude operation ending)) := by
  obtain ⟨past, before, rfl, ended, free, midway⟩ := tracks.busy (isRunning_of_stage is running)
  obtain ⟨rfl, midwayNext⟩ := onward rfl (is ▸ midway)
  rw [ended.conclude]
  refine ⟨.busy ended (by rw [moves.other, free]) (moves.moved ▸ midwayNext), ?_⟩
  intro unspawned
  have begun : becomes ≠ .idle := fun idle => by simpa [idle, Stage.phase] using midwayNext.phase
  obtain ⟨rfl, idle⟩ := moves.unspawned begun unspawned
  have prior := tracks.unspawned idle
  rw [Standing.afterAll_concat] at prior ⊢
  cases ending with
  | spawned document => cases spawns document rfl
  | destroyed => rfl
  | failed cause => exact prior

/-- A task that completes leaves the controller at rest where its attempt leads. -/
theorem complete (tracks : Tracks start controller history)
    (stage : (controller.task operation).stage = .finishing) :
    Tracks start (controller.atStage operation .done) history := by
  have moves : Moves controller (controller.atStage operation .done) operation .done := .atStage
  obtain ⟨past, ending, rfl, ended, free, midway⟩ :=
    tracks.busy (isRunning_of_stage stage rfl)
  refine ⟨?_, fun unspawned => tracks.unspawned (moves.unspawned (by simp) unspawned).2⟩
  rw [stage] at midway
  generalize here : controller.standing = standing at midway
  cases midway with
  | @finishing ending =>
      refine .resting ?_ (ended.concat operation ending) ?_
      · intro which
        rcases which.eq_or_eq_other operation with rfl | rfl
        · simp [isRunning, Task.isRunning, Task.phase, Stage.phase]
        · rw [moves.other, free]
      · rw [standing_atStage, here, Standing.afterAll_concat]
        rfl

/-- What decides no ending and starts no task is not recorded. -/
theorem unrecorded {decided : Option (Operation × Ending)} {effects : List Effect}
    (tracks : Tracks start next history) (undecided : decided = none)
    (unstarted : effects.filterMap Effect.started? = []) :
    Tracks start next (extend history decided effects) := by
  simpa [extend, undecided, unstarted] using tracks

/-- What decides an ending is recorded. -/
theorem recorded {decided : Option (Operation × Ending)} {effects : List Effect} {ending : Ending}
    (tracks : Tracks start next (history.map (Attempt.conclude operation ending)))
    (is : decided = some (operation, ending)) :
    Tracks start next (extend history decided effects) := by
  simpa [extend, is] using tracks

/-- Every change is taken into the history. -/
theorem change {event : Event} {effects : List Effect}
    (tracks : Tracks start controller history)
    (change : Change controller event next effects) :
    Tracks start next (extend history (controller.ending? event) effects) := by
  cases change with
  | rejected busy => exact tracks.unrecorded rfl rfl
  | launched free idle =>
      exact tracks.launch free idle ((Moves.withTask rfl).withState _) (by simp)
  | repeated free begun =>
      exact (tracks.congr (stage_withTask (by simp)) (by simp)).unrecorded rfl rfl
  | invoked stage =>
      refine (tracks.proceed stage rfl .atStage ?_).unrecorded rfl rfl
      intro prior ending here same midway
      cases midway with
      | queued =>
          rw [standing_atStage, same]
          exact .calling
  | @returned operation rollbackTo stage =>
      cases operation with
      | spawn =>
          refine (tracks.proceed stage rfl .atStage ?_).unrecorded
            (by simp [ending?, stage, answerEnding?, Outcome.cause?]) rfl
          intro prior ending here same midway
          cases midway with
          | calling =>
              rw [standing_atStage, same]
              exact .returned rfl
      | destroy =>
          refine (tracks.conclude stage rfl .atStage ?_ ?_).recorded
            (by simp [ending?, stage, answerEnding?, Outcome.cause?]; rfl)
          · intro prior ending here same midway
            cases midway with
            | calling =>
                rw [standing_atStage, same]
                exact ⟨rfl, .holding rfl⟩
          · intro document same
            cases same
  | broken failure stage =>
      refine (tracks.conclude stage rfl .atStage ?_ ?_).recorded
        (by simp [ending?, stage, answerEnding?, failure]; rfl)
      · intro prior ending here same midway
        cases midway with
        | calling =>
            rw [standing_atStage, same]
            exact ⟨rfl, .failed⟩
      · intro document same
        cases same
  | reloaded stage =>
      have spawner : (controller.task .spawn).stage = _ := stage
      refine (tracks.conclude spawner rfl .atStage ?_ ?_).recorded
        (by simp [ending?, stage]; rfl)
      · intro prior ending here same midway
        cases midway with
        | returned =>
            rw [standing_atStage, same]
            exact ⟨rfl, .holding rfl⟩
      · exact fun _ _ => rfl
  | unreadable stage =>
      have spawner : (controller.task .spawn).stage = _ := stage
      refine (tracks.conclude spawner rfl .atStage ?_ ?_).recorded
        (by simp [ending?, stage]; rfl)
      · intro prior ending here same midway
        cases midway with
        | returned =>
            rw [standing_atStage, same]
            exact ⟨rfl, .failed⟩
      · intro document same
        cases same
  | configRecorded stage =>
      refine (tracks.proceed stage rfl (Moves.atStage.withConfig _) ?_).unrecorded rfl rfl
      intro prior ending here same midway
      cases midway with
      | holding leads =>
          have state := congrArg Standing.state same
          simp only [standing_withConfig, state_atStage]
          rw [show controller.state = _ from state]
          exact .recorded leads
  | stateRecorded stage =>
      refine (tracks.proceed stage rfl (Moves.atStage.withState _) ?_).unrecorded rfl rfl
      intro prior ending here same midway
      cases midway with
      | recorded leads =>
          have config := congrArg Standing.config same
          simp only [standing_withState, config_atStage]
          rw [show controller.config = _ from config, ← leads]
          exact .finishing
  | @undone operation job cause stage =>
      obtain ⟨body, rollbackTo⟩ := job
      refine (tracks.proceed stage rfl (Moves.atStage.withState _) ?_).unrecorded rfl rfl
      intro prior ending here same midway
      cases midway with
      | failed =>
          have config := congrArg Standing.config same
          simp only [standing_withState, config_atStage]
          rw [show controller.config = _ from config]
          exact .undone
  | @captured operation cause stage =>
      refine (tracks.proceed stage rfl (.withTask rfl) ?_).unrecorded rfl (by split <;> rfl)
      intro prior ending here same midway
      cases midway with
      | undone =>
          rw [standing_withTask, same]
          exact .finishing
  | completed stage => exact (tracks.complete stage).unrecorded rfl rfl
  | joined resting => exact (tracks.congr (stage_withTask (by rfl)) (by simp)).unrecorded rfl rfl
  | ignored _ undecided => exact tracks.unrecorded undecided rfl

end Tracks

/-- Every run keeps to its history. -/
theorem tracks_run (tracks : Tracks start controller past) (events : List Event) :
    Tracks start (controller.run events).1 (controller.history past events) := by
  induction events generalizing controller past with
  | nil => exact tracks
  | cons event rest ih => exact ih (tracks.change (change_step controller event))

end CloudCluster.Lifecycle
