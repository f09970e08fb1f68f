import CloudCluster.CommandLine.Run
import CloudCluster.Proofs.Shell.Bare
import Mathlib.Control.Monad.Basic

/-!
The command that `connect` prints, as a shell reads it.

It is what ssh is to be called with, with a blank between one argument and the next
(`sshCommand_eq`); nothing in it is quoted. So a shell calls ssh in this way iff the key
file, the user name and the address can do without quotes (`ssh_called_iff`).
-/

namespace CloudCluster.CommandLine

open Files Lifecycle Shell

/-- Whom ssh logs in as, and where. -/
def login (details : ConnectionDetails) : String :=
  details.userName ++ "@" ++ details.address

/-- What is to be called, by somebody with a home directory, to reach the head node: ssh
with the key file, if there is one, and the port, if it is not the one that ssh takes
anyway. -/
def sshArguments (home : String) (details : ConnectionDetails) : List String :=
  let key := match details.keyFile with
    | some path => ["-i", Path.expandHome home path]
    | none => []
  let port := if details.port = sshPort then [] else ["-p", toString details.port.toNat]
  ["ssh"] ++ key ++ port ++ [login details]

variable {details : ConnectionDetails}

theorem sshCommand_eq (details : ConnectionDetails) :
    sshCommand details = " ".intercalate (sshArguments "~" details) := by
  cases ofKey : details.keyFile <;> by_cases ofPort : details.port = sshPort
  all_goals
    simp only [sshCommand, sshArguments, login, ofKey, ofPort, if_true, if_false, expandHome_tilde,
      List.cons_append, List.nil_append, String.intercalate_cons_cons, String.intercalate_singleton]
    apply String.toList_injective
    simp [show toString " -p " = " -p " from rfl]

theorem isPlain_number (n : Nat) : IsPlain n.repr := by
  constructor
  · exact Nat.repr_ne_empty
  · rw [List.all_eq_true]
    intro c mem
    have digit : c.isDigit := Nat.isDigit_of_mem_toDigits (by decide) (by decide)
      (Nat.toList_repr ▸ mem)
    simp [isSafe, Char.isAlphanum, digit]

theorem expandHome_of_isPlain {text : String} (home : String) (plain : IsPlain text) :
    Path.expandHome home text = text :=
  expandHome_of_noTilde fun head =>
    ne_of_isSafe (List.all_eq_true.mp plain.2 _ (List.mem_of_head? head)) _ (by decide) rfl

/-- The home directory makes a difference to the key file only, unless the user name begins
with a tilde. -/
theorem map_expandHome_sshArguments (home : String) (details : ConnectionDetails) :
    (sshArguments "~" details).map (Path.expandHome home) = sshArguments home details ↔
      Path.expandHome home (login details) = login details := by
  have ofProgram : Path.expandHome home "ssh" = "ssh" := expandHome_of_isPlain home (by decide)
  have ofKey : Path.expandHome home "-i" = "-i" := expandHome_of_isPlain home (by decide)
  have ofPort : Path.expandHome home "-p" = "-p" := expandHome_of_isPlain home (by decide)
  have ofNumber := expandHome_of_isPlain home (isPlain_number details.port.toNat)
  cases key : details.keyFile <;> by_cases port : details.port = sshPort
  all_goals simp [sshArguments, key, port, ofProgram, ofKey, ofPort, ofNumber, expandHome_tilde]

theorem forall_mem_sshArguments : (∀ text ∈ sshArguments "~" details, IsBare text) ↔
    (∀ key ∈ details.keyFile, IsBare key) ∧ IsBare (login details) := by
  have ofProgram : IsBare "ssh" := IsPlain.isBare (by decide)
  have ofKey : IsBare "-i" := IsPlain.isBare (by decide)
  have ofPort : IsBare "-p" := IsPlain.isBare (by decide)
  have ofNumber := (isPlain_number details.port.toNat).isBare
  cases key : details.keyFile <;> by_cases port : details.port = sshPort
  all_goals simp [sshArguments, key, port, ofProgram, ofKey, ofPort, ofNumber, expandHome_tilde]

/-- A shell calls ssh as the connection details say, whatever the home directory is, iff the
key file, the user name and the address are bare, and no tilde is in front of the user name. -/
theorem ssh_called_iff (details : ConnectionDetails) :
    (∀ home, splitAt home (sshCommand details) = .ok (sshArguments home details)) ↔
      (∀ key ∈ details.keyFile, IsBare key) ∧ IsBare (login details) ∧
        (login details).toList.head? ≠ some '~' := by
  have notEmpty : sshArguments "~" details ≠ [] := List.cons_ne_nil _ _
  rw [sshCommand_eq, ← and_assoc, ← forall_mem_sshArguments]
  constructor
  · intro called
    have bare := isBare_of_splitAt notEmpty (called "~")
    refine ⟨bare, ?_⟩
    have same := Except.ok.inj ((splitAt_intercalate notEmpty bare).symm.trans (called ""))
    have loginBare := (forall_mem_sshArguments.mp bare).2
    exact loginBare.noTilde ((map_expandHome_sshArguments "" details).mp same)
  · rintro ⟨bare, noTilde⟩ home
    rw [splitAt_intercalate notEmpty bare,
      (map_expandHome_sshArguments home details).mpr (expandHome_of_noTilde noTilde)]

example :
    let details : ConnectionDetails :=
      { userName := "stratus", keyFile := "~/.ssh/demo.pem", address := "10.0.0.1", port := 2222 }
    splitAt "/home/ada" (sshCommand details) =
      .ok ["ssh", "-i", "/home/ada/.ssh/demo.pem", "-p", "2222", "stratus@10.0.0.1"] := by
  intro details
  decide +kernel

/-- The blank in the name of a cluster gets into the path of its key file, and ends the path
there: the rest of it is taken for the host. -/
theorem key_file_cut_at_blank :
    let details : ConnectionDetails :=
      { userName := "stratus", keyFile := "~/.ssh/stratus-my cluster.pem", address := "127.0.0.1" }
    sshCommand details = "ssh -i ~/.ssh/stratus-my cluster.pem stratus@127.0.0.1" ∧
      splitAt "/home/ada" (sshCommand details) =
        .ok ["ssh", "-i", "/home/ada/.ssh/stratus-my", "cluster.pem", "stratus@127.0.0.1"] ∧
      splitAt "/home/ada" (sshCommand details) ≠ .ok (sshArguments "/home/ada" details) := by
  intro details
  decide +kernel

end CloudCluster.CommandLine
