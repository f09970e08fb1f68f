import CloudCluster.Tool.Launcher
import CloudCluster.Tool.Mock

/-!
What stands between a controller and the cloud.

A gateway carries out an operation for the config in a file, in an
environment. The launcher has an answer when its run has ended; the mock first
sleeps if it is told to, and has decided by then how it will act.
-/

namespace CloudCluster.Tool

open Files

/-- The launcher, by its path if one is given, or a mock. -/
inductive Gateway where
  | launcher (binary : Option Path)
  | mock (state : Mock)
  deriving DecidableEq, Repr

/-- How far a gateway call is: it sleeps before it acts, or it has ended. -/
inductive Progress where
  | asleep (delay : Nat) (behaviour : Behaviour)
  | ended (result : Except Mock.Stop Unit)

namespace Gateway

/-- The mock of a gateway. -/
def mock? : Gateway → Option Mock
  | .mock state => some state
  | .launcher _ => none

/-- What the launcher is asked to do for an operation. -/
def command : Operation → Command
  | .spawn => .up
  | .destroy => .down

/-- Begins a call. -/
def begin (gateway : Gateway) (machine : Machine) (operation : Operation) (path : Path)
    (environment : Environment) : Progress × Gateway × Machine :=
  match gateway with
  | .launcher binary =>
    let (result, machine) :=
      Launcher.run machine binary (command operation) path environment
    (.ended (result.map (fun _ => ()) |>.mapError .error), gateway, machine)
  | .mock state =>
    let recorded := Gateway.mock (state.record operation environment)
    let behaviour := state.behaviour operation
    if state.delay = 0 then
      let (result, tree) := (Mock.act behaviour operation path).run machine.tree
      (.ended result, recorded, { machine with tree })
    else (.asleep state.delay behaviour, recorded, machine)

/-- The address of the head node. -/
def headAddress (gateway : Gateway) (machine : Machine) (path : Path)
    (environment : Environment) : Except ProvisionError String × Machine :=
  match gateway with
  | .launcher binary =>
    let (out, machine) := Launcher.run machine binary .headAddress path environment
    (out.bind Launcher.parseAddress, machine)
  | .mock _ => (.ok Mock.headAddress, machine)

end Gateway

end CloudCluster.Tool
