import CloudCluster.Proofs.Except
import CloudCluster.Proofs.Text.Lines
import CloudCluster.Tool.Launcher

/-!
Runs of the launcher.

A run has output if the launcher is found, can be started and exits with zero
(`run_eq_ok_iff`), and it has an address if a line of that is not blank
(`parseAddress_isOk_iff`). A machine's record grows by a run that is started
(`runs_of_run`).
-/

namespace CloudCluster

open Files

namespace Tool

/-! ### Records -/

/-- A run is recorded if it is started, and one that answers was started. -/
theorem Machine.runs_of_run (machine : Machine) (command : Path) (invocation : Invocation) :
    ∃ ran, (machine.run command invocation).2.runs = machine.runs ++ ran ∧
      (ran = [invocation] ∨ ran = [] ∧ (machine.run command invocation).1.isOk = false) := by
  unfold Machine.run
  dsimp only
  split
  · exact ⟨[], (List.append_nil _).symm, Or.inr ⟨rfl, rfl⟩⟩
  · cases machine.resolve command with
    | error fault => exact ⟨[], (List.append_nil _).symm, Or.inr ⟨rfl, rfl⟩⟩
    | ok place =>
        refine ⟨[invocation], ?_, Or.inl rfl⟩
        dsimp only
        split <;> rfl

namespace Launcher

variable {machine : Machine} {binary : Option Path} {command : Command} {path : Path}
  {environment : Environment}

/-- A run of the launcher for a command, as it is recorded. -/
def invocation (command : Command) (path : Path) (environment : Environment) : Invocation :=
  { arguments := command.arguments path, environment }

/-- The launcher is found and started for a command, and this is how it responds. -/
def Responds (machine : Machine) (binary : Option Path) (command : Command) (path : Path)
    (environment : Environment) (response : Response) : Prop :=
  ∃ tool, locate machine binary = .ok tool ∧
    (machine.run tool (invocation command path environment)).1 = .ok response

theorem isSuccess_iff {ending : Ending} : ending.isSuccess = true ↔ ending = .exited 0 := by
  cases ending <;> simp [Ending.isSuccess]

theorem run_of_locate {tool : Path} (found : locate machine binary = .ok tool) :
    run machine binary command path environment =
      ((machine.run tool (invocation command path environment)).1.mapError .io >>=
        interpret tool (command.arguments path),
      (machine.run tool (invocation command path environment)).2) := by
  unfold run
  rw [found]
  dsimp only [invocation]
  rcases machine.run tool _ with ⟨_ | _, _⟩ <;> rfl

theorem interpret_eq_ok_iff {tool : Path} {arguments : List String} {response : Response}
    {out : String} :
    interpret tool arguments response = .ok out ↔
      response.ending = .exited 0 ∧ Text.decodeLossyText response.out = out := by
  rw [interpret, ← isSuccess_iff]
  by_cases success : response.ending.isSuccess = true
  · simp [success]
  · simp [success]

/-- A run has output iff the launcher responds and exits with zero. -/
theorem run_eq_ok_iff {out : String} :
    (run machine binary command path environment).1 = .ok out ↔
      ∃ response, Responds machine binary command path environment response ∧
        response.ending = .exited 0 ∧ Text.decodeLossyText response.out = out := by
  cases found : locate machine binary with
  | error cause => simp [run, Responds, found]
  | ok tool =>
      rw [run_of_locate found]
      simp only [bind_eq_ok, mapError_eq_ok, interpret_eq_ok_iff, Responds, found]
      constructor
      · rintro ⟨response, ran, success⟩
        exact ⟨response, ⟨tool, rfl, ran⟩, success⟩
      · rintro ⟨response, ⟨_, same, ran⟩, success⟩
        cases same
        exact ⟨response, ran, success⟩

theorem exits_iff :
    (∃ out, (run machine binary command path environment).1 = .ok out) ↔
      ∃ response, Responds machine binary command path environment response ∧
        response.ending = .exited 0 := by
  simp only [run_eq_ok_iff]
  constructor
  · rintro ⟨_, response, responds, success, _⟩
    exact ⟨response, responds, success⟩
  · rintro ⟨response, responds, success⟩
    exact ⟨_, response, responds, success, rfl⟩

/-- A run is recorded if it is started, as one that has output is. -/
theorem runs_of_run (machine : Machine) (binary : Option Path) (command : Command) (path : Path)
    (environment : Environment) :
    ∃ ran, (run machine binary command path environment).2.runs = machine.runs ++ ran ∧
      (ran = [invocation command path environment] ∨
        ran = [] ∧ (run machine binary command path environment).1.isOk = false) := by
  cases found : locate machine binary with
  | error cause =>
      refine ⟨[], ?_, Or.inr ⟨rfl, ?_⟩⟩
      · simp [run, found]
      · simp [run, found, Except.isOk, Except.toBool]
  | ok tool =>
      rw [run_of_locate found]
      obtain ⟨ran, runs, started | ⟨nothing, refused⟩⟩ :=
        machine.runs_of_run tool (invocation command path environment)
      · exact ⟨ran, runs, Or.inl started⟩
      · refine ⟨ran, runs, Or.inr ⟨nothing, ?_⟩⟩
        cases answer : (machine.run tool (invocation command path environment)).1 with
        | error fault => rfl
        | ok response =>
            rw [answer] at refused
            cases refused

/-- The address is the last of the words in the launcher's output. -/
theorem parseAddress_eq_ok_iff {out address : String} :
    parseAddress out = .ok address ↔ (Text.words out.toList).getLast? = some address.toList := by
  rw [parseAddress, ← Text.words]
  cases (Text.words out.toList).getLast? with
  | none => simp
  | some word => simp [← String.toList_inj]

theorem parseAddress_eq_error_iff {out : String} {error : ProvisionError} :
    parseAddress out = .error error ↔
      error = .invalidOutput "no head node address printed" ∧ Text.words out.toList = [] := by
  rw [parseAddress, ← Text.words, ← List.getLast?_eq_none_iff]
  cases (Text.words out.toList).getLast? with
  | none => simp [eq_comm]
  | some word => simp

/-- There is an address in the launcher's output iff a line of it is not blank. -/
theorem parseAddress_isOk_iff {out : String} :
    (parseAddress out).isOk = true ↔
      ∃ line ∈ Text.lines out.toList, ∃ c ∈ line, Text.isBlank c = false := by
  have words : (∃ line ∈ Text.lines out.toList, ∃ c ∈ line, Text.isBlank c = false) ↔
      Text.words out.toList ≠ [] := by
    simp [Text.words_eq_nil_iff]
  rw [words]
  cases parsed : parseAddress out with
  | error error => simp [(parseAddress_eq_error_iff.mp parsed).2, Except.isOk, Except.toBool]
  | ok address =>
      have last := parseAddress_eq_ok_iff.mp parsed
      have something : Text.words out.toList ≠ [] := by
        intro nothing
        rw [nothing] at last
        cases last
      simp [something, Except.isOk, Except.toBool]

/-- The launcher answers with an address iff it exits with zero and prints a line that
is not blank. -/
theorem address_isOk_iff :
    ((run machine binary command path environment).1 >>= parseAddress).isOk = true ↔
      ∃ response, Responds machine binary command path environment response ∧
        response.ending = .exited 0 ∧
        ∃ line ∈ Text.lines (Text.decodeLossyText response.out).toList,
          ∃ c ∈ line, Text.isBlank c = false := by
  simp only [isOk_iff, bind_eq_ok, run_eq_ok_iff]
  constructor
  · rintro ⟨address, _, ⟨response, responds, success, rfl⟩, parsed⟩
    exact ⟨response, responds, success, parseAddress_isOk_iff.mp (isOk_iff.mpr ⟨address, parsed⟩)⟩
  · rintro ⟨response, responds, success, word⟩
    obtain ⟨address, parsed⟩ := isOk_iff.mp (parseAddress_isOk_iff.mpr word)
    exact ⟨address, _, ⟨response, responds, success, rfl⟩, parsed⟩

end Launcher

end Tool

end CloudCluster
