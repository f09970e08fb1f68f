import CloudCluster.Proofs.Lifecycle.Course

/-!
A task runs once.

Whoever sees the task completed comes after its body, the hook and the error (`Orderly`),
and who has joined while it was running returns after that too. The stages only go on,
so the turns that close a task close it whatever comes between them
(`completed_of_closing`). A join before the task is started is answered at once, and what
comes behind it cannot tell (`run_behind`). `runs_once` puts it together.
-/

namespace CloudCluster.Lifecycle

/-- The ways a phase may go on. -/
inductive Phase.Onward : Phase → Phase → Prop where
  | stays {phase} : Onward phase phase
  | starts : Onward .notStarted .running
  | completes : Onward .running .completed

/-- How many stages there are, at the least, before this one. -/
def Stage.rank {Job : Type} : Stage Job → Nat
  | idle => 0
  | body _ => 1
  | failed _ _ => 2
  | undone _ => 3
  | finishing => 4
  | done => 5

/-- The turns of a task after its body. -/
def Turn.closing : List Turn := [.undo, .capture, .complete]

namespace Crowd

/-- What the callers of a task can rely on. -/
structure Orderly (operation : Operation) (crowd : Crowd) : Prop where
  /-- The first start is answered with yes, and no other. -/
  first : ∀ number answer, crowd.starts[number]? = some answer → (answer = true ↔ number = 0)
  /-- No body but the first is run, and that one once at most. -/
  entered : crowd.entered <+: [0]
  left : crowd.left.map Prod.fst <+: crowd.entered
  /-- No hook but the first is run, and only if its body has failed. -/
  hooks : crowd.hooks <+: crowd.left.flatMap (·.2.hooks)
  /-- Who sees the task completed comes after the body, its hook and its error. -/
  completed : crowd.task.phase = .completed → ∃ outcome,
    crowd.left = [(0, outcome)] ∧ crowd.hooks = outcome.hooks ∧
      crowd.kept = outcome.failures operation
  /-- Until then joins return only to those who came before the start. -/
  early : crowd.task.phase ≠ .completed →
    ∀ answer ∈ crowd.returns, answer.since = .notStarted ∧ answer.result = .ok ()

variable {crowd next : Crowd} {operation : Operation} {turn : Turn}

/-- Who keeps to the course is orderly. -/
theorem Sound.orderly (sound : crowd.Sound operation) : crowd.Orderly operation where
  first := sound.first
  entered := sound.course.entered_prefix
  left := sound.course.left_prefix
  hooks := sound.course.hooks_prefix
  completed := sound.course.of_completed
  early := sound.early

/-! ### From stage to stage -/

theorem Happens.onward (happens : Happens crowd turn next) :
    crowd.task.phase.Onward next.task.phase := by
  unfold Task.phase
  cases happens with
  | started idle =>
      rw [idle]
      exact .starts
  | entered stage | succeeded stage | failed stage | undone stage | captured stage =>
      rw [stage]
      exact .stays
  | completed stage =>
      rw [stage]
      exact .completes
  | _ => exact .stays

theorem Happens.rank_le (happens : Happens crowd turn next) :
    crowd.task.stage.rank ≤ next.task.stage.rank := by
  cases happens with
  | started stage | entered stage | succeeded stage | failed stage | undone stage
  | captured stage | completed stage =>
      rw [stage]
      simp [Stage.rank]
  | _ => exact Nat.le_refl _

theorem rank_le_run (crowd : Crowd) (turns : List Turn) :
    crowd.task.stage.rank ≤ (crowd.run turns).task.stage.rank := by
  induction turns generalizing crowd with
  | nil => exact Nat.le_refl _
  | cons turn later ih => exact Nat.le_trans (happens_step crowd turn).rank_le (ih _)

/-- A stage that one turn leaves is left by all turns with that one among them. -/
theorem lt_rank_run {rank : Nat} (leaves : ∀ crowd : Crowd, rank ≤ crowd.task.stage.rank →
      rank < (crowd.step turn).task.stage.rank)
    {turns : List Turn} (mem : turn ∈ turns) (reached : rank ≤ crowd.task.stage.rank) :
    rank < (crowd.run turns).task.stage.rank := by
  induction turns generalizing crowd with
  | nil => cases mem
  | cons other later ih =>
      rcases List.mem_cons.mp mem with here | there
      · subst here
        exact Nat.lt_of_lt_of_le (leaves crowd reached) (rank_le_run _ later)
      · exact ih there (Nat.le_trans reached (happens_step crowd other).rank_le)

theorem lt_rank_undo (crowd : Crowd) (reached : 2 ≤ crowd.task.stage.rank) :
    2 < (crowd.step .undo).task.stage.rank := by
  unfold step undo Task.undo
  cases stage : crowd.task.stage <;> simp_all [Stage.rank]

theorem lt_rank_capture (crowd : Crowd) (reached : 3 ≤ crowd.task.stage.rank) :
    3 < (crowd.step .capture).task.stage.rank := by
  unfold step capture Task.capture
  cases stage : crowd.task.stage <;> simp_all [Stage.rank]

theorem lt_rank_complete (crowd : Crowd) (reached : 4 ≤ crowd.task.stage.rank) :
    4 < (crowd.step .complete).task.stage.rank := by
  unfold step Task.complete
  cases stage : crowd.task.stage <;> simp_all [Stage.rank]

theorem run_append (crowd : Crowd) (first second : List Turn) :
    crowd.run (first ++ second) = (crowd.run first).run second :=
  List.foldl_append

/-- After its body a task needs its closing turns, whatever comes between them. -/
theorem completed_of_closing (ended : 2 ≤ crowd.task.stage.rank) {turns : List Turn}
    (closes : Turn.closing.Sublist turns) : (crowd.run turns).task.phase = .completed := by
  obtain ⟨first, rest, rfl, undoes, closes⟩ := List.cons_sublist_iff.mp closes
  obtain ⟨second, rest, rfl, captures, closes⟩ := List.cons_sublist_iff.mp closes
  have completes := List.singleton_sublist.mp closes
  rw [run_append, run_append]
  have undone := lt_rank_run lt_rank_undo undoes ended
  have captured := lt_rank_run lt_rank_capture captures undone
  have completed := lt_rank_run lt_rank_complete completes captured
  unfold Task.phase
  cases stage : (((crowd.run first).run second).run rest).task.stage with
  | done => rfl
  | _ => simp [stage, Stage.rank] at completed

/-! ### Joins before the start -/

/-- What was returned before a turn makes no difference to it. -/
theorem step_behind (crowd : Crowd) (turn : Turn) : ∃ others, ∀ returns,
    ({ crowd with returns } : Crowd).step turn =
      { crowd.step turn with returns := returns ++ others } := by
  cases turn with
  | start => exact ⟨[], by simp [step, start]⟩
  | silence => exact ⟨[], by simp [step]⟩
  | join caller =>
      unfold step join
      cases answers : crowd.task.join? with
      | none => exact ⟨[], by simp [answers, since, others]⟩
      | some answer =>
          exact ⟨[⟨caller, crowd.since caller, answer.2⟩], by simp [answers, since, others]⟩
  | enter =>
      refine ⟨[], ?_⟩
      unfold step enter
      cases job : crowd.task.job? with
      | none => simp [job]
      | some ticket => cases begun : ticket.begun <;> simp [job, begun]
  | leave outcome =>
      refine ⟨[], ?_⟩
      unfold step leave
      cases job : crowd.task.job? with
      | none => simp [job]
      | some ticket => cases begun : ticket.begun <;> simp [job, begun]
  | undo =>
      refine ⟨[], ?_⟩
      unfold step undo
      rcases undone : crowd.task.undo with ⟨task, _ | ticket⟩ <;> simp [undone]
  | capture => exact ⟨[], by simp [step, capture]⟩
  | complete => exact ⟨[], by simp [step]⟩

/-- What was returned before a run makes no difference to it. -/
theorem run_behind (crowd : Crowd) (turns : List Turn) : ∃ others, ∀ returns,
    ({ crowd with returns } : Crowd).run turns =
      { crowd.run turns with returns := returns ++ others } := by
  induction turns generalizing crowd with
  | nil => exact ⟨[], fun returns => by simp [run]⟩
  | cons turn later ih =>
      obtain ⟨now, steps⟩ := step_behind crowd turn
      obtain ⟨others, runs⟩ := ih (crowd.step turn)
      refine ⟨now ++ others, fun returns => ?_⟩
      calc ({ crowd with returns } : Crowd).run (turn :: later)
          = (({ crowd with returns } : Crowd).step turn).run later := rfl
        _ = ({ crowd.step turn with returns := returns ++ now } : Crowd).run later := by
          rw [steps]
        _ = { crowd.run (turn :: later) with returns := returns ++ (now ++ others) } := by
          rw [runs, List.append_assoc]
          rfl

theorem Sound.join_of_idle (sound : crowd.Sound operation) (idle : crowd.task.stage = .idle)
    (caller : Nat) : crowd.join caller =
      { crowd with returns := crowd.returns ++ [⟨caller, .notStarted, .ok ()⟩] } := by
  have resting : crowd.task.isRunning = false := by
    simp [Task.isRunning, Task.phase, idle, Stage.phase]
  have answer : crowd.task.answer = .ok () := by
    simp [Task.answer, sound.error_of_idle idle]
  unfold join
  rw [Task.join?_of_resting resting]
  simp [others, sound.nobody_waits idle, sound.since_of_idle idle, answer,
    ← sound.error_of_idle idle]

/-! ### The whole of it -/

theorem Happens.finishing_of_completed (happens : Happens crowd turn next)
    (before : crowd.task.phase ≠ .completed) (after : next.task.phase = .completed) :
    crowd.task.stage = .finishing := by
  cases happens with
  | completed stage => exact stage
  | started | entered | succeeded | failed | undone | captured => cases after
  | _ => exact absurd after before

theorem Course.two_le_rank {past : Past} {stage : Stage Ticket}
    (course : Course operation past stage) (ended : past.left ≠ []) : 2 ≤ stage.rank := by
  cases course with
  | idle is | queued is | entered is => exact absurd (congrArg Past.left is) ended
  | _ => simp [Stage.rank]

theorem returns_join_of_running (running : crowd.task.phase = .running) (caller : Nat) :
    (crowd.join caller).returns = crowd.returns := by
  have waits : crowd.task.join? = none := Task.join?_of_running (by simp [Task.isRunning, running])
  rw [join, waits]

theorem idle_of_notStarted (notStarted : crowd.task.phase = .notStarted) :
    crowd.task.stage = .idle := by
  unfold Task.phase at notStarted
  cases stage : crowd.task.stage with
  | idle => rfl
  | _ =>
      rw [stage] at notStarted
      cases notStarted

/-- Whatever turns come in whatever order, a task and its callers are orderly; the phase
only goes on; when it becomes completed, the hook was run and the error is there; a join
does not return while the task is running; what follows the end of the body comes to its
end; and a join before the start returns at once, with no trace in anything else. -/
theorem runs_once (operation : Operation) (turns : List Turn) :
    let crowd := (new operation).run turns
    crowd.Orderly operation ∧
    (∀ turn, crowd.task.phase.Onward (crowd.step turn).task.phase) ∧
    (∀ turn, crowd.task.phase ≠ .completed → (crowd.step turn).task.phase = .completed →
      ∃ outcome, crowd.left = [(0, outcome)] ∧ crowd.hooks = outcome.hooks ∧
        crowd.task.error.toList = outcome.failures operation) ∧
    (∀ caller, crowd.task.phase = .running → (crowd.join caller).returns = crowd.returns) ∧
    (∀ later, crowd.left ≠ [] → Turn.closing.Sublist later →
      (crowd.run later).task.phase = .completed) ∧
    (∀ caller later, crowd.task.phase = .notStarted → ∃ others,
      crowd.run later = { crowd.run later with returns := crowd.returns ++ others } ∧
      crowd.run (.join caller :: later) =
        { crowd.run later with
          returns := crowd.returns ++ ⟨caller, .notStarted, .ok ()⟩ :: others }) := by
  intro crowd
  have sound : crowd.Sound operation := (sound_new operation).run turns
  refine ⟨sound.orderly, ?_, ?_, ?_, ?_, ?_⟩
  · intro turn
    exact (happens_step crowd turn).onward
  · intro turn before after
    have stage := (happens_step crowd turn).finishing_of_completed before after
    obtain ⟨outcome, left, hooks, kept⟩ := (stage ▸ sound.course).of_finishing
    refine ⟨outcome, left, hooks, ?_⟩
    have kept : crowd.told ++ crowd.task.error.toList = outcome.failures operation := kept
    rwa [sound.told_of_unfinished before, List.nil_append] at kept
  · intro caller running
    exact returns_join_of_running running caller
  · intro later ended closes
    exact completed_of_closing (sound.course.two_le_rank ended) closes
  · intro caller later notStarted
    obtain ⟨others, runs⟩ := run_behind crowd later
    refine ⟨others, runs crowd.returns, ?_⟩
    have idle := idle_of_notStarted notStarted
    calc crowd.run (.join caller :: later)
        = (crowd.join caller).run later := rfl
      _ = _ := by
        rw [sound.join_of_idle idle caller, runs, List.append_assoc, List.singleton_append]

/-- A join before the first of two starts, one while the body runs, and a failure. -/
theorem runs_once_of_failure :
    let turns : List Turn :=
      [.start, .join 1, .start, .enter, .leave (.failure (.interrupted "stop"))]
    let crowd := (new .spawn).run turns
    let closed := (new .spawn).run (turns ++ [.undo, .join 1, .capture])
    (∃ others, ((new .spawn).run (.join 0 :: turns)).returns =
      ⟨0, .notStarted, .ok ()⟩ :: others) ∧
    crowd.task.phase = .running ∧ (crowd.join 2).returns = crowd.returns ∧
    (crowd.run [.undo, .join 1, .capture, .complete]).task.phase = .completed ∧
    ∃ outcome, closed.left = [(0, outcome)] ∧ closed.hooks = outcome.hooks ∧
      closed.task.error.toList = outcome.failures .spawn := by
  intro turns crowd closed
  have closes : Turn.closing.Sublist [.undo, .join 1, .capture, .complete] :=
    .cons_cons _ (.cons _ (.cons_cons _ (.cons_cons _ .slnil)))
  have unfinished : closed.task.phase ≠ .completed := by decide
  have completes : (closed.step .complete).task.phase = .completed := by decide
  refine ⟨?_, rfl, ?_, ?_, ?_⟩
  · obtain ⟨others, _, joined⟩ := (runs_once .spawn []).2.2.2.2.2 0 turns rfl
    exact ⟨others, congrArg Crowd.returns joined⟩
  · exact (runs_once .spawn turns).2.2.2.1 2 rfl
  · exact (runs_once .spawn turns).2.2.2.2.1 _ (List.cons_ne_nil _ _) closes
  · exact (runs_once .spawn _).2.2.1 .complete unfinished completes

end Crowd

end CloudCluster.Lifecycle
