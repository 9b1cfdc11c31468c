import RoutingProcessor.Decision.Engine
import RoutingProcessor.Stream.Message

namespace RoutingProcessor.Stream

open Http Decision

-- The response to the headers of a request. A failed decision leaves the request as it
-- is.
def ofDecision (result : Except Error Outcome) : Response :=
  ⟨some .requestHeaders, some (.ofOutcome (match result with
    | .ok outcome => outcome
    | .error _ => .unmodified))⟩

-- The response to one message, or nothing while the decision server keeps a request.
def respond (engine : Engine) (exchange : Exchange) : Message → Option Response
  | .requestHeaders headers =>
    (engine.decide (.ofWire headers) exchange).map ofDecision
  | .inert phase => some ⟨some (.inert phase), none⟩
  | .unknown => some ⟨none, none⟩

-- How many requests arrive at the decision server for one message.
def requests (engine : Engine) (exchange : Exchange) : Message → Nat
  | .requestHeaders headers => engine.requests (.ofWire headers) exchange
  | _ => 0

-- What is logged when a message has been taken.
def announce (engine : Engine) : Message → List Log.Event
  | .requestHeaders headers =>
    .plain .debug "ext_proc" "got RequestHeaders" :: engine.announce (.ofWire headers)
  | .inert phase => [.plain .debug "ext_proc" ("got " ++ phase.name ++ " (not acted on)")]
  | .unknown => [.plain .error "ext_proc" "unknown request type"]

def failureEvents : Except Error Outcome → List Log.Event
  | .ok _ => []
  | .error error =>
    [⟨.error, "ext_proc",
      "failed to fetch routing decision, continuing unmodified: " ++ error.report,
      [("kind", error.kind.name)]⟩]

-- What is logged when the answer to a message is known.
def conclude (engine : Engine) (exchange : Exchange) (message : Message) : List Log.Event :=
  (match message with
    | .requestHeaders headers =>
      match engine.decide (.ofWire headers) exchange with
      | some result => engine.conclude (.ofWire headers) result ++ failureEvents result
      | none => []
    | _ => []) ++
  [.plain .debug "ext_proc" "sending ProcessingResponse"]

end RoutingProcessor.Stream
