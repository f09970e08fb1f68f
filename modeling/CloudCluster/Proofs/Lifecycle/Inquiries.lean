import CloudCluster.Lifecycle.Session
import CloudCluster.Proofs.Lifecycle.Exclusion
import CloudCluster.Proofs.Lifecycle.States

/-!
A controller that is asked for connection details.

A `Request` looks at the controller once, when it is made, and waits for the address of
the head node then. Events and other requests may come before the address does. They do
not matter: a request that waits knows all but the address (`run_waiting`), and one that
was made of a cluster that is ready waits (`made_of_ready`), since such a cluster has a
config in every state that can be reached (`Tracks.spawned_of_ready`). In a session the
address comes at once (`Session.connectionDetails_eq`).
-/

namespace CloudCluster.Lifecycle

open Files Tool Controller

/-- A request for connection details: what it has seen while it waits for the address,
and its result then. A result that is a defect ends the task that has asked. -/
inductive Request where
  | waiting (inquiry : Inquiry)
  | returned (result : Except Refusal ConnectionDetails)

namespace Request

/-- A request that is made of a controller. -/
def made (controller : Controller) : Request :=
  match controller.inquire with
  | .ok inquiry => .waiting inquiry
  | .error refusal => .returned (.error refusal)

/-- A request to which the gateway answers, with an address or with a cause. That the
gateway breaks off instead is not modelled. -/
def addressed (address : Except ProvisionError String) : Request → Request
  | waiting inquiry => .returned (Refusal.ofExcept (inquiry.details address))
  | returned result => .returned result

/-- What is answered with a document in memory, once the address is known. -/
def answer (document : ClusterConfig) :
    Except ProvisionError String → Except Refusal ConnectionDetails
  | .ok address => .ok {
      userName := (document.getText? ["auth", "ssh_user"]).getD "stratus"
      keyFile := document.getText? ["auth", "ssh_private_key"]
      address
      port := 22 }
  | .error cause => .error (.error (.cannotConnect cause))

/-- How far a request is that has been told an address, or none yet. -/
def told (inquiry : Inquiry) : Option (Except ProvisionError String) → Request
  | some address => .returned (answer inquiry.config address)
  | none => .waiting inquiry

theorem made_of_unready {controller : Controller} (unready : controller.state ≠ .ready) :
    made controller = .returned (.error (.defect .notReady)) := by
  simp [made, inquire, isReady, unready]

theorem made_of_ready {controller : Controller} {document : ClusterConfig}
    (ready : controller.state = .ready) (config : controller.config = some document) :
    made controller = .waiting ⟨document, controller.path, controller.environment⟩ := by
  simp [made, inquire, isReady, ready, config]

theorem ofExcept_details (inquiry : Inquiry) (address : Except ProvisionError String) :
    Refusal.ofExcept (inquiry.details address) = answer inquiry.config address := by
  cases address <;> rfl

/-- The address is all that a request can fail of once it waits. -/
theorem told_ne_refused {inquiry : Inquiry} {address : Option (Except ProvisionError String)}
    {refusal : Refusal} (other : ∀ cause, refusal ≠ .error (.cannotConnect cause)) :
    told inquiry address ≠ .returned (.error refusal) := by
  rcases address with _ | _ | _ <;> simp [told, answer, (other _).symm]

end Request

/-- What can happen to a controller that is asked: an event, a request, and the
gateway's answer to the request of a number. -/
inductive Incident where
  | event (event : Event)
  | ask
  | addressed (number : Nat) (address : Except ProvisionError String)

namespace Incident

/-- The event that an incident is for the controller. -/
def event? : Incident → Option Event
  | .event happened => some happened
  | _ => none

/-- The address that an incident has for a request. -/
def address? (number : Nat) : Incident → Option (Except ProvisionError String)
  | .addressed other address => if other = number then some address else none
  | _ => none

end Incident

/-- A controller with the requests that were made of it. The number of a request is its
place. -/
structure Inquirers where
  controller : Controller
  requests : List Request := []

namespace Inquirers

/-- A controller that is new, and that nobody has asked yet. -/
def new (path : Path) (environment : Environment) (config : ClusterConfig) : Inquirers where
  controller := .new path environment config

/-- What an incident changes. -/
def step (inquirers : Inquirers) : Incident → Inquirers
  | .event event => { inquirers with controller := (inquirers.controller.step event).1 }
  | .ask => { inquirers with requests := inquirers.requests ++ [.made inquirers.controller] }
  | .addressed number address =>
    { inquirers with requests := inquirers.requests.modify number (·.addressed address) }

/-- What a sequence of incidents changes. -/
def run (inquirers : Inquirers) (incidents : List Incident) : Inquirers :=
  incidents.foldl step inquirers

variable {inquirers : Inquirers} {number : Nat} {inquiry : Inquiry}

/-- The controller does not know who asks. -/
theorem run_controller (inquirers : Inquirers) (incidents : List Incident) :
    (inquirers.run incidents).controller =
      (inquirers.controller.run (incidents.filterMap Incident.event?)).1 := by
  induction incidents generalizing inquirers with
  | nil => rfl
  | cons incident rest ih => cases incident <;> exact ih _

/-! ### One request -/

/-- Only its own address matters to a request. -/
theorem step_request {request : Request} (here : inquirers.requests[number]? = some request)
    (incident : Incident) :
    (inquirers.step incident).requests[number]? =
      some (((incident.address? number).map request.addressed).getD request) := by
  cases incident with
  | event event => exact here
  | ask =>
      obtain ⟨bound, _⟩ := List.getElem?_eq_some_iff.mp here
      exact (List.getElem?_append_left bound).trans here
  | addressed other address =>
      by_cases same : other = number
      · simp [step, Incident.address?, here, same]
      · simp [step, Incident.address?, here, same]

theorem run_returned {result : Except Refusal ConnectionDetails}
    (here : inquirers.requests[number]? = some (.returned result)) (incidents : List Incident) :
    (inquirers.run incidents).requests[number]? = some (.returned result) := by
  induction incidents generalizing inquirers with
  | nil => exact here
  | cons incident rest ih =>
      refine ih ((step_request here incident).trans ?_)
      cases incident.address? number <;> rfl

/-- A request that waits returns with the first address that it is told. -/
theorem run_waiting (here : inquirers.requests[number]? = some (.waiting inquiry))
    (incidents : List Incident) :
    (inquirers.run incidents).requests[number]? =
      some (.told inquiry (incidents.findSome? (Incident.address? number))) := by
  induction incidents generalizing inquirers with
  | nil => exact here
  | cons incident rest ih =>
      have next := step_request here incident
      rw [List.findSome?_cons]
      cases told : incident.address? number with
      | some address =>
          rw [told] at next
          rw [Request.told, ← Request.ofExcept_details]
          exact run_returned next rest
      | none =>
          rw [told] at next
          exact ih next

/-! ### Requests of a controller that is new -/

/-- A request breaks off iff the cluster is not ready when it is made. Otherwise there is
a document in memory then, and the request waits for the address of the head node. The
first that it is told decides its result: a failure is its cause, and an address goes with
the user and the key of that document, whatever has happened to the controller since. To
the controller nothing has happened but the events. -/
theorem details_as_of_request (path : Path) (environment : Environment) (config : ClusterConfig)
    (before after : List Incident) :
    let here := (new path environment config).run before
    let number := here.requests.length
    let final := (here.step .ask).run after
    let start := Controller.new path environment config
    final.controller = (start.run ((before ++ after).filterMap Incident.event?)).1 ∧
    (final.requests[number]? = some (.returned (.error (.defect .notReady))) ↔
      here.controller.state ≠ .ready) ∧
    (here.controller.state = .ready → ∃ document, here.controller.config = some document ∧
      final.requests[number]? =
        some (.told ⟨document, path, environment⟩
          (after.findSome? (Incident.address? number)))) ∧
    ∀ message,
      final.requests[number]? ≠ some (.returned (.error (.error (.internal message)))) := by
  intro here number final start
  have made : (here.step .ask).requests[number]? = some (.made here.controller) :=
    List.getElem?_concat_length
  have reached : here.controller = (start.run (before.filterMap Incident.event?)).1 :=
    run_controller _ before
  have unready (state : here.controller.state ≠ .ready) :
      final.requests[number]? = some (.returned (.error (.defect .notReady))) := by
    rw [Request.made_of_unready state] at made
    exact run_returned made after
  have readily (state : here.controller.state = .ready) :
      ∃ document, here.controller.config = some document ∧
        final.requests[number]? =
          some (.told ⟨document, path, environment⟩
            (after.findSome? (Incident.address? number))) := by
    have tracks := tracks_run (Tracks.new path environment config)
      (before.filterMap Incident.event?)
    rw [← reached] at tracks
    obtain ⟨_, _, document, _, held⟩ := tracks.spawned_of_ready (by simp) state
    obtain ⟨samePath, sameEnvironment⟩ := run_path start (before.filterMap Incident.event?)
    rw [Request.made_of_ready state held, reached, samePath, sameEnvironment] at made
    exact ⟨document, held, run_waiting made after⟩
  refine ⟨?_, ⟨fun broken state => ?_, unready⟩, readily, fun message internal => ?_⟩
  · rw [show final.controller = _ from run_controller _ after, List.filterMap_append, run_append,
      ← reached]
    rfl
  · obtain ⟨document, _, request⟩ := readily state
    exact Request.told_ne_refused (by simp) (Option.some.inj (request.symm.trans broken))
  · by_cases state : here.controller.state = .ready
    · obtain ⟨document, _, request⟩ := readily state
      exact Request.told_ne_refused (by simp) (Option.some.inj (request.symm.trans internal))
    · rw [unready state] at internal
      cases internal

/-- A destroy completes and leaves no config while the address is awaited. The request
still has the user of the document that it was made with; one that is made now breaks off. -/
theorem details_after_destroy :
    let document : ClusterConfig :=
      ⟨[(.string "auth", .mapping [(.string "ssh_user", .string "me")])]⟩
    let before : List Incident := [.event (.call .spawn false), .ask, .event (.begin .spawn),
      .event (.answered .spawn .success), .event (.loaded (.ok document)),
      .event (.recordConfig .spawn), .event (.recordState .spawn), .event (.complete .spawn)]
    let after : List Incident := [.event (.call .destroy false), .event (.begin .destroy),
      .event (.answered .destroy .success), .event (.recordConfig .destroy),
      .event (.recordState .destroy), .event (.complete .destroy), .ask,
      .addressed 0 (.ok "10.0.0.1"), .addressed 1 (.ok "10.0.0.2"),
      .addressed 1 (.error (.interrupted "lost"))]
    let here := (new "c.yml" .empty ⟨[]⟩).run before
    let final := (here.step .ask).run after
    here.controller.state = .ready ∧ final.controller.config = none ∧
      final.requests[1]? = some (.returned (.ok ⟨"me", none, "10.0.0.2", 22⟩)) ∧
      final.requests[2]? = some (.returned (.error (.defect .notReady))) := by
  intro document before after here final
  have ready : here.controller.state = .ready := by
    dsimp only [here, before]
    rfl
  have held : here.controller.config = some document := by
    dsimp only [here, before]
    rfl
  obtain ⟨document', same, request⟩ :=
    (details_as_of_request "c.yml" .empty ⟨[]⟩ before after).2.2.1 ready
  cases held.symm.trans same
  refine ⟨ready, ?_, request, ?_⟩
  all_goals
    dsimp only [final, here, before, after]
    rfl

end Inquirers

/-! ### Requests of a session -/

theorem Controller.of_inquire {controller : Controller} {inquiry : Inquiry}
    (asked : controller.inquire = .ok inquiry) :
    inquiry.path = controller.path ∧ inquiry.environment = controller.environment := by
  unfold inquire at asked
  split at asked
  · split at asked <;> cases asked
    exact ⟨rfl, rfl⟩
  · cases asked

/-- In a session nothing comes between a request and the address. -/
theorem Session.connectionDetails_eq (session : Session) :
    let address := (session.gateway.headAddress session.machine session.current.path
      session.current.environment).1
    ((Inquirers.mk session.current []).run [.ask, .addressed 0 address]).requests =
      [.returned session.connectionDetails.2] := by
  intro address
  unfold connectionDetails
  cases asked : session.current.inquire with
  | error refusal =>
      simp [Inquirers.run, Inquirers.step, Request.made, Request.addressed, asked]
  | ok inquiry =>
      obtain ⟨path, environment⟩ := of_inquire asked
      simp [Inquirers.run, Inquirers.step, Request.made, Request.addressed, asked, address, path,
        environment]

end CloudCluster.Lifecycle
