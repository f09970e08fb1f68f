import CloudCluster.Files.Tree
import CloudCluster.Tool.Environment

/-!
Running programs.

A program answers its arguments with output and an ending, and may change
files. A `Machine` is a file tree with the programs that stand in it, the
places where programs are looked for, and a record of every run.
-/

namespace CloudCluster.Tool

open Files

/-- How a process ends. -/
inductive Ending where
  | exited (code : Nat)
  | killed (signal : Nat)
  deriving DecidableEq, Repr

namespace Ending

/-- The names of the system's signals, by number. -/
def signalNames : List (Nat × String) := [
  (1, "SIGHUP"), (2, "SIGINT"), (3, "SIGQUIT"), (4, "SIGILL"), (5, "SIGTRAP"), (6, "SIGABRT"),
  (7, "SIGBUS"), (8, "SIGFPE"), (9, "SIGKILL"), (10, "SIGUSR1"), (11, "SIGSEGV"),
  (12, "SIGUSR2"), (13, "SIGPIPE"), (14, "SIGALRM"), (15, "SIGTERM"), (16, "SIGSTKFLT"),
  (17, "SIGCHLD"), (18, "SIGCONT"), (19, "SIGSTOP"), (20, "SIGTSTP"), (21, "SIGTTIN"),
  (22, "SIGTTOU"), (23, "SIGURG"), (24, "SIGXCPU"), (25, "SIGXFSZ"), (26, "SIGVTALRM"),
  (27, "SIGPROF"), (28, "SIGWINCH"), (29, "SIGIO"), (30, "SIGPWR"), (31, "SIGSYS")]

/-- The text of an ending. -/
def text : Ending → String
  | exited code => s!"exit status: {code}"
  | killed signal =>
    match signalNames.lookup signal with
    | some name => s!"signal: {signal} ({name})"
    | none => s!"signal: {signal}"

/-- Whether the process has done what it was run for. -/
def isSuccess : Ending → Bool
  | exited code => code = 0
  | killed _ => false

end Ending

/-- What a process leaves behind, other than files. -/
structure Response where
  out : ByteArray := .empty
  err : ByteArray := .empty
  ending : Ending := .exited 0

/-- A run of a program: its arguments and the variables added to its
environment. -/
structure Invocation where
  arguments : List String
  environment : Environment
  deriving DecidableEq, Repr

/-- A program: what it does for its arguments on a file tree. -/
abbrev Program := List String → Tree → Response × Tree

/-- A file tree with programs. -/
structure Machine where
  tree : Tree
  programs : List (Place × Program) := []
  searchPath : Option String := none
  home : String := ""
  runs : List Invocation := []

namespace Machine

/-- Cuts characters at colons. -/
def cutColons : List Char → List (List Char)
  | [] => [[]]
  | c :: rest =>
    if c = ':' then [] :: cutColons rest
    else match cutColons rest with
      | [] => [[c]]
      | first :: more => (c :: first) :: more

/-- The directories that programs are looked for in. -/
def searchDirectories (machine : Machine) : List Path :=
  match machine.searchPath with
  | some text => (cutColons text.toList).map String.ofList
  | none => []

/-- Whether a path leads to a program. -/
def isProgram (machine : Machine) (path : Path) : Bool :=
  match machine.tree.status path with
  | .ok entry => entry.isExecutable
  | .error _ => false

/-- The path of a program that is known by its name. -/
def which? (machine : Machine) (name : String) : Option Path :=
  (machine.searchDirectories.map fun dir =>
    Path.join (Path.expandHome machine.home dir) name).find? machine.isProgram

/-- Where the program is that a path leads to. -/
def locateProgram (machine : Machine) (path : Path) : Except Fault Place := do
  let entry ← machine.tree.status path
  if entry.isExecutable then machine.tree.locate path
  else throw (.system .permissionDenied)

/-- Looks for a program in directories; one that may not be run is passed over. -/
def searchProgram (machine : Machine) (name : String) :
    List Path → SystemError → Except Fault Place
  | [], error => .error (.system error)
  | dir :: rest, error =>
    match machine.locateProgram (Path.join dir name) with
    | .ok place => .ok place
    | .error (.system .permissionDenied) => searchProgram machine name rest .permissionDenied
    | .error _ => searchProgram machine name rest error

/-- Where the program is that is run for a command: a name without a slash is
looked for. -/
def resolve (machine : Machine) (command : Path) : Except Fault Place :=
  if command.toList.contains '/' || command.isEmpty then machine.locateProgram command
  else machine.searchProgram command machine.searchDirectories .notFound

/-- Whether a text cannot be handed to a process. -/
def hasNul (text : String) : Bool :=
  text.toList.contains '\x00'

/-- Runs a command with arguments and additional variables. -/
def run (machine : Machine) (command : Path) (invocation : Invocation) :
    Except Fault Response × Machine :=
  let texts := invocation.arguments ++
    invocation.environment.bindings.flatMap fun (key, value) => [key, value]
  if hasNul command || texts.any hasNul then (.error .nulInArgument, machine)
  else match machine.resolve command with
    | .error fault => (.error fault, machine)
    | .ok place =>
      let machine := { machine with runs := machine.runs ++ [invocation] }
      match machine.programs.lookup place with
      | some program =>
        let (response, tree) := program invocation.arguments machine.tree
        (.ok response, { machine with tree })
      | none => (.ok {}, machine)

end Machine

end CloudCluster.Tool
