import CloudCluster.Proofs.Lifecycle.Delivery

/-!
A call that is rejected leaves no trace.

Two runs are compared: one with the call, and one without. Calls are known by
their numbers, so the second run is the first with the call struck out
(`Occurrence.without`), and all calls behind it have moved up by one. Striking it
out commutes with every step (`step_without`, `effects_without`), as nothing that
comes later reads a call that was not accepted. By induction the two runs agree
in everything but the answer to the call.

Which calls are rejected is decided when they are taken: `Fair` says that the
others never have the answer of one that is.
-/

namespace CloudCluster.Lifecycle

open Files Tool Controller

/-- The number of a call when another one was never made. -/
def renumber (number other : Nat) : Nat :=
  if other < number then other else other - 1

/-- An occurrence when a call was never made, which cannot be resumed then. -/
def Occurrence.without (number : Nat) : Occurrence → Option Occurrence
  | occurrence@(.event _) => some occurrence
  | .resume other => if other = number then none else some (.resume (renumber number other))

/-- Whether a call has been answered as it was taken: one that was rejected with
the operation that was running, any other with the end of its own operation. -/
def Answer.Fair (answer : Answer) : Prop :=
  match answer.visit.accepted with
  | true => answer.result = .ok () ∨
      ∃ cause, answer.result = .error (.ofFailure answer.visit.operation cause)
  | false => answer.result =
      .error (.operationInProgress answer.visit.operation answer.visit.operation.other)

/-- A fair answer is a rejection iff its call was not accepted. -/
theorem Answer.Fair.rejection_iff {answer : Answer} (fair : answer.Fair)
    {requested running : Operation} :
    answer.result = .error (.operationInProgress requested running) ↔
      requested = answer.visit.operation ∧ running = answer.visit.operation.other ∧
        answer.visit.accepted = false := by
  unfold Fair at fair
  cases accepted : answer.visit.accepted with
  | true =>
      rw [accepted] at fair
      rcases fair with result | ⟨cause, result⟩
      · simp [result]
      · rw [result]
        cases answer.visit.operation <;> simp [ClusterError.ofFailure]
  | false =>
      rw [accepted] at fair
      simp [show answer.result = _ from fair, eq_comm]

namespace Callers

/-- The callers when a call was never made. -/
def without (number : Nat) (callers : Callers) : Callers where
  controller := callers.controller
  visits := callers.visits.eraseIdx number
  answers := (callers.answers.filter (·.number ≠ number)).map fun answer =>
    { answer with number := renumber number answer.number }
  reports := callers.reports

/-- What is seen of an occurrence. -/
def effects (callers : Callers) : Occurrence → List Effect
  | .event (.join _) => []
  | .event event => (callers.controller.step event).2
  | .resume number =>
    match callers.visits[number]? with
    | some visit =>
      if visit.accepted && visit.wait && !callers.hasReturned number then
        (callers.controller.join visit.operation).2
      else []
    | none => []

/-- All that is seen of a sequence of occurrences, in order. -/
def trace (callers : Callers) : List Occurrence → List Effect
  | [] => []
  | occurrence :: rest => callers.effects occurrence ++ (callers.step occurrence).trace rest

variable {callers next : Callers} {number other : Nat} {visit : Visit} {occurrence : Occurrence}

/-! ### Numbers -/

@[simp] theorem controller_without :
    (callers.without number).controller = callers.controller := rfl

theorem getElem?_without (different : other ≠ number) :
    (callers.without number).visits[renumber number other]? = callers.visits[other]? := by
  unfold without renumber
  rw [List.getElem?_eraseIdx]
  split
  · next below => rfl
  · next above => rw [if_neg (by omega), show other - 1 + 1 = other by omega]

theorem renumber_inj {first second : Nat} (ofFirst : first ≠ number) (ofSecond : second ≠ number) :
    renumber number first = renumber number second ↔ first = second := by
  grind [renumber]

theorem length_without (bound : number < callers.visits.length) :
    (callers.without number).visits.length = renumber number callers.visits.length := by
  rw [without, List.length_eraseIdx_of_lt bound, renumber, if_neg (by omega)]

theorem hasReturned_without (different : other ≠ number) :
    (callers.without number).hasReturned (renumber number other) = callers.hasReturned other := by
  rw [Bool.eq_iff_iff]
  simp only [hasReturned, without, List.any_map, List.any_filter, List.any_eq_true,
    Function.comp_apply, Bool.and_eq_true, decide_eq_true_eq]
  refine exists_congr fun answer => and_congr_right fun _ => ?_
  constructor
  · rintro ⟨kept, same⟩
    exact (renumber_inj kept different).mp same
  · rintro rfl
    exact ⟨different, rfl⟩

/-! ### Two runs -/

theorem reply_without (callers : Callers) (different : other ≠ number) (visit : Visit)
    (result : Option (Except ClusterError Unit)) :
    (callers.reply other visit result).without number =
      (callers.without number).reply (renumber number other) visit result := by
  cases result <;> simp [reply, without, different]

theorem enter_without (bound : number < callers.visits.length) (operation : Operation)
    (wait : Bool) :
    (callers.enter operation wait).without number =
      (callers.without number).enter operation wait := by
  unfold enter
  rw [length_without bound]
  dsimp only
  rw [reply_without _ (by omega)]
  simp only [without, List.eraseIdx_append_of_lt_length bound]

theorem resume_without (different : other ≠ number) :
    (callers.resume other).without number =
      (callers.without number).resume (renumber number other) := by
  unfold resume
  rw [getElem?_without different, hasReturned_without different]
  split
  · split
    · rw [reply_without _ different]
      rfl
    · rfl
  · rfl

theorem resume_of_rejected (known : callers.visits[number]? = some visit)
    (rejected : visit.accepted = false) : callers.resume number = callers := by
  simp [resume, known, rejected]

/-- A step when a rejected call was never made. -/
theorem step_without (known : callers.visits[number]? = some visit)
    (rejected : visit.accepted = false) (occurrence : Occurrence) :
    (callers.step occurrence).without number =
      (callers.without number).run (occurrence.without number).toList := by
  have bound : number < callers.visits.length := (List.getElem?_eq_some_iff.mp known).1
  cases occurrence with
  | event event =>
      cases event with
      | call operation wait => exact enter_without bound operation wait
      | _ => rfl
  | resume other =>
      by_cases same : other = number
      · subst same
        rw [step, resume_of_rejected known rejected]
        simp [Occurrence.without, run]
      · rw [Occurrence.without, if_neg same]
        exact resume_without same

/-- What is seen of a step when a rejected call was never made. -/
theorem effects_without (known : callers.visits[number]? = some visit)
    (rejected : visit.accepted = false) (occurrence : Occurrence) :
    callers.effects occurrence =
      (callers.without number).trace (occurrence.without number).toList := by
  cases occurrence with
  | event event => cases event <;> simp [Occurrence.without, trace, effects]
  | resume other =>
      by_cases same : other = number
      · subst same
        simp [effects, known, rejected, Occurrence.without, trace]
      · simp [Occurrence.without, same, trace, effects, getElem?_without same,
          hasReturned_without same]

theorem trace_append (callers : Callers) (first second : List Occurrence) :
    callers.trace (first ++ second) = callers.trace first ++ (callers.run first).trace second := by
  induction first generalizing callers with
  | nil => rfl
  | cons occurrence rest ih =>
      rw [List.cons_append, trace, ih, trace, List.append_assoc]
      rfl

/-- Calls that were taken and answers that were given stay as they are. -/
theorem grows_run (sound : callers.Sound) (occurrences : List Occurrence) :
    callers.visits <+: (callers.run occurrences).visits ∧
      callers.answers <+: (callers.run occurrences).answers := by
  induction occurrences generalizing callers with
  | nil => exact ⟨List.prefix_rfl, List.prefix_rfl⟩
  | cons occurrence rest ih =>
      have happens := happens_step callers occurrence
      obtain ⟨visits, answers⟩ := happens.answered sound
      obtain ⟨visits', answers'⟩ := ih (sound.step happens)
      refine ⟨visits.trans visits', List.IsPrefix.trans ?_ answers'⟩
      rcases answers with same | ⟨answer, last, _⟩
      · exact same ▸ List.prefix_rfl
      · exact last ▸ List.prefix_append _ _

theorem visit_run (sound : callers.Sound) (known : callers.visits[number]? = some visit)
    (occurrences : List Occurrence) :
    (callers.run occurrences).visits[number]? = some visit := by
  obtain ⟨bound, here⟩ := List.getElem?_eq_some_iff.mp known
  rw [List.prefix_iff_getElem?.mp (grows_run sound occurrences).1 _ bound, here]

/-- A run when a call that is rejected was never made. -/
theorem run_without (sound : callers.Sound) (known : callers.visits[number]? = some visit)
    (rejected : visit.accepted = false) (occurrences : List Occurrence) :
    (callers.run occurrences).without number =
        (callers.without number).run (occurrences.filterMap (·.without number)) ∧
      callers.trace occurrences =
        (callers.without number).trace (occurrences.filterMap (·.without number)) := by
  induction occurrences generalizing callers with
  | nil => exact ⟨rfl, rfl⟩
  | cons occurrence rest ih =>
      -- The call keeps its number and stays rejected, so the induction goes on behind it.
      have stays := visit_run sound known [occurrence]
      obtain ⟨same, seen⟩ := ih (sound.step (happens_step callers occurrence)) stays
      have split : (occurrence :: rest).filterMap (·.without number) =
          (occurrence.without number).toList ++ rest.filterMap (·.without number) := by
        cases kept : occurrence.without number <;> simp [kept]
      rw [step_without known rejected] at same seen
      rw [split, run_append, trace_append, ← effects_without known rejected, ← seen]
      exact ⟨same, rfl⟩

/-! ### Rejections -/

theorem Happens.fair (happens : Happens callers occurrence next) (sound : callers.Sound)
    (fair : ∀ answer ∈ callers.answers, answer.Fair) : ∀ answer ∈ next.answers, answer.Fair := by
  cases happens with
  | rejected busy =>
      intro answer mem
      rcases List.mem_append.mp mem with old | last
      · exact fair answer old
      · rw [List.mem_singleton.mp last]
        rfl
  | @accepted operation wait controller effects free change =>
      intro answer mem
      rcases List.mem_append.mp mem with old | last
      · exact fair answer old
      · cases wait with
        | true => cases last
        | false =>
            rw [List.mem_singleton.mp last]
            exact Or.inl rfl
  | @resumed number visit known waits unanswered resting =>
      intro answer mem
      rcases List.mem_append.mp mem with old | last
      · exact fair answer old
      · have accepted : visit.accepted = true := by
          simp only [Visit.waits, Bool.and_eq_true] at waits
          exact waits.1.1
        rw [List.mem_singleton.mp last, Answer.Fair]
        dsimp only
        rw [accepted]
        -- A task keeps no error but that of its own operation.
        cases told : (callers.controller.task visit.operation).answer with
        | ok => exact Or.inl rfl
        | error error =>
            obtain ⟨cause, is⟩ :=
              (sound.valid visit.operation).kept _ (Task.error_of_answer told)
            exact Or.inr ⟨cause, congrArg _ is⟩
  | worked uncalled unjoined change => exact fair
  | unchanged => exact fair

theorem fair_run (sound : callers.Sound) (fair : ∀ answer ∈ callers.answers, answer.Fair)
    (occurrences : List Occurrence) :
    ∀ answer ∈ (callers.run occurrences).answers, answer.Fair := by
  induction occurrences generalizing callers with
  | nil => exact fair
  | cons occurrence rest ih =>
      have happens := happens_step callers occurrence
      exact ih (sound.step happens) (happens.fair sound fair)

/-- The visit of a call says whether the other operation was running. -/
theorem visits_enter (callers : Callers) (operation : Operation) (wait : Bool) :
    (callers.enter operation wait).visits =
      callers.visits ++ [⟨operation, wait, !callers.controller.isRunning operation.other⟩] := by
  unfold enter reply
  cases free : callers.controller.isRunning operation.other with
  | true =>
      rw [call_of_busy free]
      rfl
  | false =>
      simp only [resultOf?_of_free free (change_call operation wait)]
      rfl

theorem enter_of_busy {operation : Operation} (wait : Bool)
    (busy : callers.controller.isRunning operation.other = true) :
    callers.enter operation wait =
      { callers with
        visits := callers.visits ++ [⟨operation, wait, false⟩]
        answers := callers.answers ++ [⟨callers.visits.length, ⟨operation, wait, false⟩,
          .error (.operationInProgress operation operation.other)⟩] } := by
  unfold enter reply
  rw [call_of_busy busy]
  cases wait <;> rfl

/-- With a rejected call struck out again, all is as before it. -/
theorem without_enter_of_busy {operation : Operation} (wait : Bool) (sound : callers.Sound)
    (busy : callers.controller.isRunning operation.other = true) :
    (callers.enter operation wait).without callers.visits.length = callers := by
  have below (answer : Answer) (mem : answer ∈ callers.answers) :
      answer.number < callers.visits.length :=
    (List.getElem?_eq_some_iff.mp (sound.known answer mem)).1
  -- All who have returned came before the call, so their numbers stay.
  have kept : callers.answers.filter (·.number ≠ callers.visits.length) = callers.answers :=
    List.filter_eq_self.mpr fun answer mem =>
      decide_eq_true (Nat.ne_of_lt (below answer mem))
  have named : callers.answers.map (fun answer =>
      { answer with number := renumber callers.visits.length answer.number }) =
        callers.answers := by
    refine (List.map_congr_left fun answer mem => ?_).trans (List.map_id _)
    rw [renumber, if_pos (below answer mem)]
    rfl
  rw [enter_of_busy wait busy]
  unfold without
  dsimp only
  rw [List.eraseIdx_append_of_length_le (Nat.le_refl _), Nat.sub_self, List.eraseIdx_cons_zero,
    List.append_nil, List.filter_append, kept, List.filter_cons_of_neg (by simp), List.filter_nil,
    List.append_nil, named]

/-- A call has the answer that another operation is in progress iff the other one was
running when the call was taken; and then it leaves no trace. It changes nothing but
the list of those who have called, nothing but the rejection is seen of it, and it is
answered at once. Whatever happens after it, everything that is seen, every answer to
the other calls, every report and the controller are as if it was never made. -/
theorem rejected_iff_and_without_trace (path : Path) (environment : Environment)
    (config : ClusterConfig) (before : List Occurrence) (operation : Operation) (wait : Bool) :
    let callers := (new path environment config).run before
    let call := Occurrence.event (.call operation wait)
    let called := callers.step call
    let number := callers.visits.length
    let rejection := ClusterError.operationInProgress operation operation.other
    (∀ after requested running,
      (∃ answer ∈ (called.run after).answers, answer.number = number ∧
        answer.result = .error (.operationInProgress requested running)) ↔
      requested = operation ∧ running = operation.other ∧
        (callers.controller.task operation.other).phase = .running) ∧
    ((callers.controller.task operation.other).phase = .running →
      called = { callers with
        visits := callers.visits ++ [⟨operation, wait, false⟩]
        answers := callers.answers ++ [⟨number, ⟨operation, wait, false⟩, .error rejection⟩] } ∧
      callers.effects call = [.rejected rejection] ∧
      ∀ after,
        (called.run after).without number = callers.run (after.filterMap (·.without number)) ∧
        called.trace after = callers.trace (after.filterMap (·.without number))) := by
  intro callers call called number rejection
  have sound : callers.Sound := (Sound.new path environment config).run before
  have soundly : called.Sound := sound.step (happens_step callers call)
  have running_iff : callers.controller.isRunning operation.other = true ↔
      (callers.controller.task operation.other).phase = .running := decide_eq_true_iff
  have known : called.visits[number]? =
      some ⟨operation, wait, !callers.controller.isRunning operation.other⟩ := by
    rw [show called.visits = _ from visits_enter callers operation wait]
    exact List.getElem?_concat_length
  refine ⟨fun after requested running => ?_, fun phase => ?_⟩
  · have fair : ∀ answer ∈ (called.run after).answers, answer.Fair :=
      fair_run soundly
        ((happens_step callers call).fair sound (fair_run (Sound.new path environment config)
          (List.forall_mem_nil _) before))
        after
    rw [← running_iff]
    constructor
    · rintro ⟨answer, mem, named, result⟩
      have given := (soundly.run after).known answer mem
      rw [named, visit_run soundly known after] at given
      have visit := Option.some.inj given
      obtain ⟨requested, running, unaccepted⟩ := (fair answer mem).rejection_iff.mp result
      rw [← visit] at requested running unaccepted
      exact ⟨requested, running, by simpa using unaccepted⟩
    · rintro ⟨rfl, rfl, busy⟩
      have answered : called.answers = _ :=
        congrArg Callers.answers (enter_of_busy wait busy)
      refine ⟨⟨number, ⟨requested, wait, false⟩, .error rejection⟩, ?_, rfl, rfl⟩
      refine (grows_run soundly after).2.subset ?_
      rw [answered]
      exact List.mem_append_right _ List.mem_cons_self
  · have busy := running_iff.mpr phase
    have unmade : called.without number = callers := without_enter_of_busy wait sound busy
    rw [busy] at known
    refine ⟨enter_of_busy wait busy, congrArg Prod.snd (call_of_busy busy), fun after => ?_⟩
    have same := run_without soundly known rfl after
    rw [unmade] at same
    exact same

/-- A destroy that somebody would wait for is rejected while the spawn runs. So the one
that is made later, for which nobody waits, is reported when it fails. -/
theorem rejected_destroy_silences_nothing :
    let cause := ProvisionError.interrupted "lost"
    let callers := (new "c.yml" .empty ⟨[]⟩).run
      [.event (.call .spawn false), .event (.begin .spawn)]
    let called := callers.step (.event (.call .destroy true))
    let spawned : List Occurrence := [.resume 1, .event (.answered .spawn .success),
      .event (.loaded (.ok ⟨[]⟩)), .event (.recordConfig .spawn), .event (.recordState .spawn),
      .event (.complete .spawn)]
    let destroyed : List Occurrence := [.event (.call .destroy false), .event (.begin .destroy),
      .event (.answered .destroy (.failure cause)), .event (.undo .destroy),
      .event (.capture .destroy), .event (.complete .destroy)]
    (callers.controller.task .spawn).phase = .running ∧
      (called.run (spawned ++ destroyed)).reported .destroy =
        [⟨.destroy, .cannotDestroy cause⟩] ∧
      called.trace (spawned ++ destroyed) = callers.trace (spawned.tail ++ destroyed) := by
  intro cause callers called spawned destroyed
  have running : (callers.controller.task .spawn).phase = .running := by
    dsimp only [callers]
    rfl
  have number : callers.visits.length = 1 := by
    dsimp only [callers]
    rfl
  have kept : (spawned ++ destroyed).filterMap (·.without 1) = spawned.tail ++ destroyed := by
    dsimp only [spawned, destroyed]
    rfl
  have untraced := ((rejected_iff_and_without_trace "c.yml" .empty ⟨[]⟩
    [.event (.call .spawn false), .event (.begin .spawn)] .destroy true).2 running).2.2
  refine ⟨running, ?_, ?_⟩
  · dsimp only [called, callers, spawned, destroyed, cause]
    rfl
  · rw [← kept, ← number]
    exact (untraced (spawned ++ destroyed)).2

end Callers

end CloudCluster.Lifecycle
