import RoutingProcessor.Config.Basic
import RoutingProcessor.Decision.Client
import RoutingProcessor.Header.Basic
import RoutingProcessor.Header.Outcome

namespace RoutingProcessor.Decision

open Http

-- Turns the headers of a request into an outcome that carries the decision.
structure Engine where
  preferredHeader : String
  decisionHeader : String
  client : Client
deriving DecidableEq

namespace Engine

-- The service that the request prefers, if it names one.
def preferred? (engine : Engine) (headers : HeaderSet) : Option String :=
  (headers.get? engine.preferredHeader).filter (· ≠ "")

-- Whether the decision server has to be asked.
def asks (engine : Engine) (headers : HeaderSet) : Bool := (engine.preferred? headers).isNone

-- The outcome for a decision. A preferred header in the request is used up, even an
-- empty one.
def outcome (engine : Engine) (headers : HeaderSet) (decision : String) : Outcome :=
  let mutation := HeaderMutation.empty.withSet engine.decisionHeader decision .appendIfExistsOrAdd
  { clearRouteCache := true
    mutation :=
      if headers.contains engine.preferredHeader then mutation.withRemove engine.preferredHeader
      else mutation }

-- The outcome for what the server answered. An empty decision leaves the request as it
-- is.
def ofAnswer (engine : Engine) (headers : HeaderSet) :
    Except Error String → Except Error Outcome
  | .error error => .error error
  | .ok decision =>
    if decision = "" then .ok .unmodified else .ok (engine.outcome headers decision)

-- A preferred service is taken as the decision. Otherwise the server is asked once.
-- Nothing comes out as long as the server keeps the request.
def decide (engine : Engine) (headers : HeaderSet) (exchange : Exchange) :
    Option (Except Error Outcome) :=
  match engine.preferred? headers with
  | some service => some (.ok (engine.outcome headers service))
  | none => (engine.client.fetch exchange).map (engine.ofAnswer headers)

-- How many requests arrive at the server for one decision.
def requests (engine : Engine) (headers : HeaderSet) (exchange : Exchange) : Nat :=
  if engine.asks headers then engine.client.requests exchange else 0

-- What is logged before the server is waited for.
def announce (engine : Engine) (headers : HeaderSet) : List Log.Event :=
  match engine.preferred? headers with
  | some service =>
    [⟨.debug, "routing_decision", "using preferred service",
      [("header", engine.preferredHeader), ("value", service)]⟩]
  | none => engine.client.announce

-- What is logged once the server has answered.
def conclude (engine : Engine) (headers : HeaderSet) (result : Except Error Outcome) :
    List Log.Event :=
  if engine.asks headers then
    .plain .debug "routing_decision" "fetching took" ::
      match result with
      | .ok outcome =>
        if outcome.isUnmodified then
          [.plain .info "routing_decision" "no decision is present"]
        else []
      | .error _ => []
  else []

-- The results for several requests in order, from a server that has had `served`
-- requests.
def decideAll (engine : Engine) (peer : Nat → Exchange) :
    List HeaderSet → (served : Nat) → List (Option (Except Error Outcome)) × Nat
  | [], served => ([], served)
  | headers :: calls, served =>
    let exchange := peer served
    let (rest, total) := engine.decideAll peer calls (served + engine.requests headers exchange)
    (engine.decide headers exchange :: rest, total)

end Engine

end RoutingProcessor.Decision

namespace RoutingProcessor

open Decision

-- The engine that decides as configured.
def DecisionSection.engine (decision : DecisionSection) : Engine where
  preferredHeader := decision.preferredServiceHeader
  decisionHeader := decision.routingDecisionHeader
  client := ⟨decision.routingDecisionServer, decision.timeout⟩

end RoutingProcessor
