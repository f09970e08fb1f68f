import CloudCluster.Proofs.Lifecycle.Account
import CloudCluster.Proofs.Lifecycle.History

/-!
A failure is reported or returned, and returned once.

Before its capture nobody is told of a failure (`Account.Valid.early`). The
capture decides at once whether it is reported, and keeps the error in the task;
from there `Account.Delivery` goes with it, until the first call that is resumed
takes it away. The capture is one step here (`Task.capture`), so that every call comes
before it or after it.
-/

namespace CloudCluster.Lifecycle

open Files Tool Controller

namespace Account

variable {account next : Account} {operation : Operation} {occurrence : Occurrence}

/-- Whether a body has failed whose error is not captured yet. -/
def Owes (account : Account) (cause : ProvisionError) : Prop :=
  (∃ job, account.task.stage = .failed job cause) ∨ account.task.stage = .undone cause

/-- Where an error is that was captured: in the task, or with the first of those
that have returned. -/
inductive Delivery (error : ClusterError) (account : Account) : Prop where
  | kept (stage : account.task.stage = .finishing ∨ account.task.stage = .done)
      (kept : account.task.error = some error) (returned : account.returned = [])
  | taken {others} (stage : account.task.stage = .done) (taken : account.task.error = none)
      (returned : account.returned = .error error :: others)
      (empty : ∀ other ∈ others, other = .ok ())

theorem Owes.isRunning {cause : ProvisionError} (owes : account.Owes cause) :
    account.task.isRunning = true := by
  rcases owes with ⟨job, stage⟩ | stage <;>
    simp [Task.isRunning, Task.phase, stage, Stage.phase]

theorem Owes.untold {cause : ProvisionError} (owes : account.Owes cause)
    (valid : account.Valid operation) : account.reported = [] ∧ account.returned = [] := by
  rcases owes with ⟨job, stage⟩ | stage <;>
    exact (valid.early (by simp [stage]) (by simp [stage])).2

/-- An error is owed until it is captured. -/
theorem Owes.step {cause : ProvisionError} (owes : account.Owes cause)
    (valid : account.Valid operation) (step : Account.Step operation occurrence account next) :
    next.Owes cause ∨
      (occurrence = .event (.capture operation) ∧ account.task.stage = .undone cause ∧
        next.Delivery (.ofFailure operation cause) ∧
        next.reported =
          if account.awaited then [] else [⟨operation, .ofFailure operation cause⟩]) := by
  cases step with
  | same => exact Or.inl owes
  | launched idle => rcases owes with ⟨job, stage⟩ | stage <;> simp [idle] at stage
  | heard begun => exact Or.inl (by simpa [Owes] using owes)
  | moved step uncalled uncaptured =>
      rcases owes with ⟨job, stage⟩ | stage
      · rw [stage] at step
        cases step with
        | undone => exact Or.inl (Or.inr rfl)
      · rw [stage] at step
        cases step with
        | captured => exact absurd rfl uncaptured
  | captured undone =>
      obtain ⟨unreported, unreturned⟩ := owes.untold valid
      rcases owes with ⟨job, stage⟩ | stage
      · simp [stage] at undone
      · rw [stage] at undone
        cases undone
        refine Or.inr ⟨rfl, stage, .kept (Or.inl rfl) rfl unreturned, ?_⟩
        rw [unreported, valid.silent]
        rfl
  | joined awaited resting => simp [owes.isRunning] at resting

/-- A captured error is in one place at any time, and never reported again. -/
theorem Delivery.step {error : ClusterError} (delivery : account.Delivery error)
    (step : Account.Step operation occurrence account next) :
    next.Delivery error ∧ next.reported = account.reported := by
  have stage : account.task.stage = .finishing ∨ account.task.stage = .done := by
    cases delivery with
    | kept stage => exact stage
    | taken stage => exact Or.inr stage
  cases step with
  | same => exact ⟨delivery, rfl⟩
  | launched idle => simp [idle] at stage
  | heard begun =>
      cases delivery with
      | kept stage kept returned => exact ⟨.kept (by simpa) (by simpa) returned, rfl⟩
      | taken stage taken returned empty => exact ⟨.taken (by simpa) (by simpa) returned empty, rfl⟩
  | moved step uncalled uncaptured =>
      cases delivery with
      | kept stage kept returned =>
          rcases stage with stage | stage <;> rw [stage] at step <;> cases step
          exact ⟨.kept (Or.inr rfl) kept returned, rfl⟩
      | taken stage taken returned empty =>
          rw [stage] at step
          cases step
  | captured undone => simp [undone] at stage
  | joined awaited resting =>
      rcases stage with stage | done
      · simp [Task.isRunning, Task.phase, stage, Stage.phase] at resting
      · cases delivery with
        | kept _ kept returned =>
            have one : account.returned ++ [account.task.answer] = [.error error] := by
              simp [returned, Task.answer, kept]
            exact ⟨.taken done rfl one (List.forall_mem_nil _), rfl⟩
        | @taken others _ taken returned empty =>
            have more : account.returned ++ [account.task.answer] =
                .error error :: (others ++ [.ok ()]) := by
              simp [returned, Task.answer, taken]
            refine ⟨.taken done rfl more ?_, rfl⟩
            intro other mem
            rcases List.mem_append.mp mem with earlier | last
            · exact empty other earlier
            · exact List.mem_singleton.mp last

theorem Delivery.done {error : ClusterError} (delivery : account.Delivery error)
    (returned : account.returned ≠ []) : account.task.stage = .done := by
  cases delivery with
  | kept stage kept none => exact absurd none returned
  | taken stage taken some empty => exact stage

end Account

/-- A body that fails owes the error. -/
theorem Controller.Change.failed_of_decides {controller next : Controller} {event : Event}
    {effects : List Effect} {operation : Operation} {cause : ProvisionError}
    (change : Change controller event next effects)
    (fails : controller.Decides event operation (.failed cause)) :
    ∃ job, (next.task operation).stage = .failed job cause := by
  have decided := ending?_of_decides fails
  cases fails with
  | unreadable reloading =>
      cases change with
      | @unreadable _ rollbackTo stage => exact ⟨⟨.returned, rollbackTo⟩, by simp⟩
      | ignored _ undecided => simp [decided] at undecided
  | broken calling failure =>
      cases change with
      | returned stage => cases failure
      | @broken _ _ _ rollbackTo same stage =>
          rw [failure] at same
          cases same
          exact ⟨⟨.calling, rollbackTo⟩, by simp⟩
      | ignored _ undecided => simp [decided] at undecided

theorem Task.not_failed_after_capture (task : Task Job) :
    (∀ job cause, task.undo.1.capture.1.stage ≠ .failed job cause) ∧
      ∀ cause, task.undo.1.capture.1.stage ≠ .undone cause := by
  cases stage : task.stage <;> simp [Task.undo, Task.capture, stage]

theorem Controller.task_undo (controller : Controller) (operation : Operation) :
    (controller.undo operation).task operation = (controller.task operation).undo.1 := by
  unfold undo Task.undo
  cases stage : (controller.task operation).stage with
  | failed job cause => exact task_withTask _ _ _
  | _ => rfl

theorem Controller.task_capture (controller : Controller) (operation : Operation) :
    (controller.capture operation).1.task operation = (controller.task operation).capture.1 :=
  task_withTask _ _ _

namespace Callers

variable {callers next : Callers} {operation : Operation} {cause : ProvisionError}

/-- Whether, of those that have returned, the first has an error and the others none. -/
def FirstHas (error : ClusterError) : List Answer → Prop
  | [] => True
  | first :: others => first.result = .error error ∧ ∀ other ∈ others, other.result = .ok ()

theorem owes_of_decides {event : Event}
    (fails : callers.controller.Decides event operation (.failed cause)) :
    ((callers.step (.event event)).account operation).Owes cause := by
  have change := change_step callers.controller event
  obtain ⟨job, stage⟩ := change.failed_of_decides fails
  cases fails <;> exact Or.inl ⟨job, stage⟩

theorem delivery_run {error : ClusterError} (sound : callers.Sound)
    (delivery : (callers.account operation).Delivery error) (occurrences : List Occurrence) :
    ((callers.run occurrences).account operation).Delivery error ∧
      (callers.run occurrences).reported operation = callers.reported operation := by
  induction occurrences generalizing callers with
  | nil => exact ⟨delivery, rfl⟩
  | cons occurrence rest ih =>
      have happens := happens_step callers occurrence
      have step := happens.accountStep sound.named operation
      obtain ⟨first, unreported⟩ := delivery.step step
      obtain ⟨last, same⟩ := ih (sound.step happens) first
      exact ⟨last, same.trans unreported⟩

/-- An error is owed until its capture, which decides whether it is reported; from
there it is in the task, or with those that have returned. -/
theorem owes_run (sound : callers.Sound) (owes : (callers.account operation).Owes cause)
    (occurrences : List Occurrence) :
    ((callers.run occurrences).account operation).Owes cause ∨
    ∃ between rest, occurrences = between ++ .event (.capture operation) :: rest ∧
      ((callers.run between).controller.task operation).stage = .undone cause ∧
      ((callers.run occurrences).account operation).Delivery (.ofFailure operation cause) ∧
      (callers.run occurrences).reported operation =
        if (callers.run between).isAwaited operation then []
        else [⟨operation, .ofFailure operation cause⟩] := by
  induction occurrences generalizing callers with
  | nil => exact Or.inl owes
  | cons occurrence rest ih =>
      have happens := happens_step callers occurrence
      have after := sound.step happens
      rcases owes.step (sound.valid operation) (happens.accountStep sound.named operation) with
        still | ⟨rfl, stage, delivery, reported⟩
      · rcases ih after still with still | ⟨between, rest, rfl, captured⟩
        · exact Or.inl still
        · exact Or.inr ⟨occurrence :: between, rest, rfl, captured⟩
      · obtain ⟨delivered, unreported⟩ := delivery_run after delivery rest
        exact Or.inr ⟨[], rest, rfl, stage, delivered, unreported.trans reported⟩

theorem isAwaited_run (sound : callers.Sound) (occurrences : List Occurrence)
    (awaited : callers.isAwaited operation = true) :
    (callers.run occurrences).isAwaited operation = true := by
  induction occurrences generalizing callers with
  | nil => exact awaited
  | cons occurrence rest ih =>
      have happens := happens_step callers occurrence
      obtain ⟨visit, mem, waits⟩ := List.any_eq_true.mp awaited
      have visits := (happens.answered sound).1
      exact ih (sound.step happens) (List.any_eq_true.mpr ⟨visit, visits.subset mem, waits⟩)

theorem firstHas_of_delivery {error : ClusterError}
    (delivery : (callers.account operation).Delivery error) :
    FirstHas error (callers.returned operation) := by
  cases delivery with
  | kept stage kept returned =>
      rw [List.map_eq_nil_iff.mp returned]
      trivial
  | taken stage taken returned empty =>
      obtain ⟨first, others, list, result, rfl⟩ := List.map_eq_cons_iff.mp returned
      rw [list]
      exact ⟨result, fun other mem => empty _ (List.mem_map_of_mem mem)⟩

/-- The answers that tell of a failure: the first to those that waited, if any. -/
theorem told_iff (sound : callers.Sound)
    (told : FirstHas (.ofFailure operation cause) (callers.returned operation))
    {answer : Answer} (mem : answer ∈ callers.answers) :
    answer.result = .error (.ofFailure operation cause) ↔
      (callers.returned operation).head? = some answer := by
  have here (result : answer.result = .error (.ofFailure operation cause)) :
      answer ∈ callers.returned operation :=
    List.mem_filter.mpr ⟨mem, sound.told answer mem operation cause result⟩
  cases list : callers.returned operation with
  | nil =>
      rw [list] at here
      exact ⟨fun result => absurd (here result) List.not_mem_nil, nofun⟩
  | cons first others =>
      rw [list] at here told
      constructor
      · intro result
        rcases List.mem_cons.mp (here result) with rfl | other
        · rfl
        · rw [told.2 answer other] at result
          cases result
      · rintro ⟨⟩
        exact told.1

/-- Whether all accepted calls that wait for an operation have returned. -/
def AllReturned (callers : Callers) (operation : Operation) : Prop :=
  ∀ number visit, callers.visits[number]? = some visit → visit.waits operation = true →
    callers.hasReturned number = true

theorem returned_of_allReturned (sound : callers.Sound)
    (awaited : callers.isAwaited operation = true) (all : callers.AllReturned operation) :
    callers.returned operation ≠ [] := by
  obtain ⟨visit, mem, waits⟩ := List.any_eq_true.mp awaited
  obtain ⟨number, here⟩ := List.mem_iff_getElem?.mp mem
  obtain ⟨answer, given, same⟩ := List.any_eq_true.mp (all number visit here waits)
  have known := sound.known answer given
  rw [of_decide_eq_true same, here] at known
  cases known
  exact List.ne_nil_of_mem (List.mem_filter.mpr ⟨given, waits⟩)

/-- Two more steps of the task, which nothing can hinder, capture what is owed. -/
theorem captured_of_steps (callers : Callers) (operation : Operation) (cause : ProvisionError) :
    ¬((callers.run [.event (.undo operation), .event (.capture operation)]).account
      operation).Owes cause := by
  have task : ((callers.run [.event (.undo operation), .event (.capture operation)]).account
      operation).task = ((callers.controller.task operation).undo.1.capture).1 := by
    rw [← task_undo, ← task_capture]
    rfl
  have settled := (callers.controller.task operation).not_failed_after_capture
  rintro (⟨job, stage⟩ | stage) <;> rw [task] at stage
  · exact settled.1 job cause stage
  · exact settled.2 cause stage

/-- A controller that is new, with no callers yet. -/
def new (path : Path) (environment : Environment) (config : ClusterConfig) : Callers where
  controller := .new path environment config

theorem Sound.new (path : Path) (environment : Environment) (config : ClusterConfig) :
    (new path environment config).Sound where
  valid operation := by
    cases operation <;> exact ⟨rfl, rfl, nofun, nofun, fun _ _ => ⟨rfl, rfl, rfl⟩⟩
  known := List.forall_mem_nil _
  once := List.nodup_nil
  told := List.forall_mem_nil _

/-- Once a body has failed, its error is owed until it is captured, and two more
steps of the task capture it. It is reported at the capture if no call that waits
for the operation was accepted before, and at no other time. The error is returned
by the first of the accepted calls that wait for the operation, when the task has
completed, and by no other call; no call returns twice. So when all of these calls
have returned, an error that is not owed was reported or returned. -/
theorem failure_told_once (path : Path) (environment : Environment) (config : ClusterConfig)
    (before after : List Occurrence) (event : Event) (operation : Operation)
    (cause : ProvisionError)
    (fails : ((new path environment config).run before).controller.Decides event operation
      (.failed cause)) :
    let failed := ((new path environment config).run before).step (.event event)
    let final := failed.run after
    let error := ClusterError.ofFailure operation cause
    ((final.account operation).Owes cause ∧ final.reported operation = [] ∨
      ∃ between rest, after = between ++ .event (.capture operation) :: rest ∧
        ((failed.run between).controller.task operation).stage = .undone cause ∧
        final.reported operation =
          if (failed.run between).isAwaited operation then [] else [⟨operation, error⟩]) ∧
    ¬((final.run [.event (.undo operation), .event (.capture operation)]).account
      operation).Owes cause ∧
    (∀ answer ∈ final.answers,
      answer.result = .error error ↔ (final.returned operation).head? = some answer) ∧
    (final.returned operation ≠ [] → (final.controller.task operation).phase = .completed) ∧
    ((final.answers.map (·.number)).Nodup ∧
      ∀ answer ∈ final.answers, final.visits[answer.number]? = some answer.visit) ∧
    (final.AllReturned operation →
      (final.account operation).Owes cause ∨ final.reported operation = [⟨operation, error⟩] ∨
        ∃ answer ∈ final.answers, answer.result = .error error) := by
  intro failed final error
  have sound : failed.Sound :=
    ((Sound.new path environment config).run before).step (happens_step _ _)
  have soundly : final.Sound := sound.run after
  have fate := owes_run sound (owes_of_decides fails) after
  have untold (owes : (final.account operation).Owes cause) :
      final.reported operation = [] ∧ final.returned operation = [] := by
    obtain ⟨reported, returned⟩ := owes.untold (soundly.valid operation)
    exact ⟨reported, List.map_eq_nil_iff.mp returned⟩
  have told : FirstHas error (final.returned operation) := by
    rcases fate with owes | ⟨_, _, _, _, delivery, _⟩
    · rw [(untold owes).2]
      trivial
    · exact firstHas_of_delivery delivery
  have tells (answer : Answer) (mem : answer ∈ final.answers) :
      answer.result = .error error ↔ (final.returned operation).head? = some answer :=
    told_iff soundly told mem
  refine ⟨?_, captured_of_steps final operation cause, tells, fun returned => ?_,
    ⟨soundly.once, soundly.known⟩, fun all => ?_⟩
  · rcases fate with owes | ⟨between, rest, split, stage, _, reported⟩
    · exact Or.inl ⟨owes, (untold owes).1⟩
    · exact Or.inr ⟨between, rest, split, stage, reported⟩
  · have stage : (final.controller.task operation).stage = .done := by
      rcases fate with owes | ⟨_, _, _, _, delivery, _⟩
      · exact absurd (untold owes).2 returned
      · exact delivery.done (fun none => returned (List.map_eq_nil_iff.mp none))
    rw [Task.phase, stage]
    rfl
  · rcases fate with owes | ⟨between, rest, split, _, _, reported⟩
    · exact Or.inl owes
    · right
      cases awaited : (failed.run between).isAwaited operation with
      | false => exact Or.inl (by rw [reported, awaited]; rfl)
      | true =>
          have still := isAwaited_run (sound.run between)
            (.event (.capture operation) :: rest) awaited
          rw [← run_append, ← split] at still
          have head := List.head?_eq_some_head (returned_of_allReturned soundly still all)
          have mem := (List.mem_filter.mp (List.mem_of_mem_head? head)).1
          exact Or.inr ⟨_, mem, (tells _ mem).mpr head⟩

/-- A spawn fails that its first caller does not wait for. As one that waits has come
before the capture nothing is reported; but the error goes to another, who has come
after it and is resumed first. -/
theorem interrupted_spawn_returned_once :
    let cause := ProvisionError.interrupted "lost"
    let before : List Occurrence := [.event (.call .spawn false), .event (.begin .spawn)]
    let after : List Occurrence := [.event (.call .spawn true), .event (.undo .spawn),
      .event (.capture .spawn), .event (.call .spawn true), .resume 1, .event (.complete .spawn),
      .resume 2, .resume 1, .event (.call .destroy true), .resume 3]
    let failed := ((new "c.yml" .empty ⟨[]⟩).run before).step
      (.event (.answered .spawn (.failure cause)))
    let final := failed.run after
    final.reported .spawn = [] ∧
      (∃ answer ∈ final.answers, answer.result = .error (.cannotSpawn cause)) ∧
      ∀ answer ∈ final.answers,
        answer.result = .error (.cannotSpawn cause) → answer.number = 2 := by
  intro cause before after failed final
  have fails : ((new "c.yml" .empty ⟨[]⟩).run before).controller.Decides
      (.answered .spawn (.failure cause)) .spawn (.failed cause) :=
    .broken ⟨.notSpawned, rfl⟩ rfl
  have tells := (failure_told_once "c.yml" .empty ⟨[]⟩ before after
    (.answered .spawn (.failure cause)) .spawn cause fails).2.2.1
  have returned : final.returned .spawn = [⟨2, ⟨.spawn, true, true⟩, .error (.cannotSpawn cause)⟩,
      ⟨1, ⟨.spawn, true, true⟩, .ok ()⟩] := by
    dsimp only [final, failed, before, after, cause]
    rfl
  have first : ⟨2, ⟨.spawn, true, true⟩, .error (.cannotSpawn cause)⟩ ∈ final.returned .spawn := by
    rw [returned]
    exact List.mem_cons_self
  refine ⟨?_, ⟨_, (List.mem_filter.mp first).1, rfl⟩, fun answer mem told => ?_⟩
  · dsimp only [final, failed, before, after, cause]
    rfl
  · have head : (final.returned .spawn).head? = some answer := (tells answer mem).mp told
    rw [returned] at head
    cases head
    rfl

end Callers

end CloudCluster.Lifecycle
