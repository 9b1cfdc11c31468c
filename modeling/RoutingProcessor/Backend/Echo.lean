import RoutingProcessor.Backend.Table
import RoutingProcessor.Http.Form
import RoutingProcessor.Http.Message
import RoutingProcessor.Json.Print
import RoutingProcessor.Log.Event
import RoutingProcessor.Number.Digits
import RoutingProcessor.Text.Quoted

namespace RoutingProcessor.Backend

open Http Text

-- One part of a header name with its first letter in upper case.
def canonicalPart : List Char → List Char
  | [] => []
  | c :: rest => c.toUpper :: rest.map Char.toLower

-- The spelling of a header name with every part in title case.
def canonicalName (name : String) : String :=
  String.ofList (['-'].intercalate ((name.toList.splitOn '-').map canonicalPart))

def jsonResponse (status : Status) (body : String) : Response :=
  ⟨status, [("content-type", "application/json")], body⟩

def errorResponse (status : Status) (message : String) : Response :=
  jsonResponse status (Json.textObject [("error", message)])

-- The received headers by their canonical names.
def receivedTable (r : Request) : Table :=
  Table.ofList (r.names.map fun name => (canonicalName name, r.joined name))

-- The received headers with the host that the request was for and its method.
def echoTable (r : Request) : Table :=
  let table := receivedTable r
  let host := (r.target.authority.or (table.lookup "Host")).getD ""
  (table.insert "Host" host).insert "Method" r.method

def echoHeaders (r : Request) : Response :=
  jsonResponse .ok (Json.object [("headers", Json.textObject (echoTable r))])

-- A status is a number of three digits.
def status? (value : String) : Option Status :=
  match Number.parseBelow 65536 value with
  | .ok n => Status.ofNat? n
  | .error _ => none

-- The last status that is asked for, if all of them are statuses. Otherwise the first
-- that is none.
def lastStatus : (status : Status) → List String → Except String Status
  | status, [] => .ok status
  | _, value :: rest =>
    match status? value with
    | some status => lastStatus status rest
    | none => .error value

-- What can be sent as a header, with its name in lower case.
def asHeader? (pair : String × String) : Option (String × String) :=
  if isHeaderName pair.1 && isHeaderValue pair.2 then some (lower pair.1, pair.2) else none

def skipped (pair : String × String) : Option Log.Event :=
  if (asHeader? pair).isSome then none
  else some ⟨.warn, "mock_backend", "skipping header that cannot be sent", [("key", pair.1)]⟩

-- Sends the status and the headers that the query asks for, and says in the body what
-- headers were asked for.
def sendHeaders (query : String) : Response × List Log.Event :=
  let pairs := Form.pairs query
  match lastStatus .ok ((pairs.filter (·.1 = "status")).map (·.2)) with
  | .error value => (errorResponse .badRequest ("invalid status code " ++ Quoted.quote value), [])
  | .ok status =>
    let table := Table.ofList (pairs.filter (·.1 ≠ "status"))
    let response := jsonResponse status (Json.textObject table)
    ({ response with headers := response.headers ++ table.filterMap asHeader? },
      table.filterMap skipped)

-- The answer to a request, and what is logged with it.
def respond (r : Request) : Response × List Log.Event :=
  if r.target.path = "/headers" then (echoHeaders r, [])
  else if r.target.path = "/response-headers" then sendHeaders (r.target.query.getD "")
  else (errorResponse .notFound "not found", [])

end RoutingProcessor.Backend
