import RoutingProcessor.Decision.Error
import RoutingProcessor.Http.Exchange
import RoutingProcessor.Log.Event

namespace RoutingProcessor.Decision

open Text Net Http

-- Whether the body of a response with this status is worth decoding.
def isDecodable (status : Status) : Bool := 200 ≤ status.code && status.code < 499

-- Asks a decision server, once for every decision.
structure Client where
  endpoint : Option String
  timeout : Option Duration
deriving DecidableEq

namespace Client

-- The endpoint and where it leads. An empty one counts as unset.
def target (client : Client) : Except Error (String × Uri) :=
  match client.endpoint with
  | none | some "" => .error .notConfigured
  | some endpoint =>
    match Uri.parse endpoint with
    | .ok uri => .ok (endpoint, uri)
    | .error cause => .error (.invalidEndpoint endpoint cause)

-- Whether a fetch sends a request. Only absolute URIs of the plain web scheme can be
-- connected to.
def sends (client : Client) : Bool :=
  match client.target with
  | .ok (_, uri) => uri.scheme = some "http"
  | .error _ => false

-- What a complete response says. The status is judged before the body is read.
def ofResponse (status : Status) (framing : Framing) (received : Octets) : Except Error String :=
  if isDecodable status then
    match framing.body? received with
    | none => .error .body
    | some body => (Payload.decode body).mapError .decode
  else .error (.unexpectedStatus status)

-- What comes of a request, or nothing while it is under way.
def ofExchange : Exchange → Option (Except Error String)
  | .unreachable | .noResponse => some (.error .transport)
  | .stalled => none
  | .unfinished status =>
    if isDecodable status then none else some (.error (.unexpectedStatus status))
  | .response status framing received => some (ofResponse status framing received)

-- The decision of the server, or nothing as long as the server keeps the request and no
-- timeout ends it.
def fetch (client : Client) (exchange : Exchange) : Option (Except Error String) :=
  match client.target with
  | .error error => some (.error error)
  | .ok _ =>
    if client.sends then
      (ofExchange exchange).or (client.timeout.map fun after => .error (.timeout after))
    else some (.error .transport)

-- What a fetch logs before it waits for the server.
def announce (client : Client) : List Log.Event :=
  match client.target with
  | .ok (endpoint, _) =>
    [⟨.debug, "routing_decision", "calling the routing decision server",
      [("endpoint", endpoint)]⟩]
  | .error _ => []

-- How many requests arrive at the server with one fetch.
def requests (client : Client) (exchange : Exchange) : Nat :=
  if client.sends && exchange.arrives then 1 else 0

-- The results of several fetches in a row, from a server that has had `served` requests.
def fetchAll (client : Client) (peer : Nat → Exchange) :
    (times served : Nat) → List (Option (Except Error String)) × Nat
  | 0, served => ([], served)
  | times + 1, served =>
    let exchange := peer served
    let (rest, total) := client.fetchAll peer times (served + client.requests exchange)
    (client.fetch exchange :: rest, total)

end Client

end RoutingProcessor.Decision
