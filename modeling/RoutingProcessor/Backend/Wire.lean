import RoutingProcessor.Backend.Echo

namespace RoutingProcessor.Backend

open Http Text

-- What cannot be sent as the only response to a request.
def unsupported : Response :=
  ⟨⟨500, by decide⟩, [("content-length", "0")], ""⟩

-- The headers that say how long the body is and whether the connection goes on.
def framed (closes : Bool) (response : Response) : List (String × String) :=
  let headers :=
    if closes then (response.headers.filter (·.1 ≠ "connection")) ++ [("connection", "close")]
    else response.headers
  if response.status.isBodiless || headers.any (·.1 = "content-length") then headers
  else headers ++ [("content-length", toString (octets response.body).length)]

-- The response on its way: without a body where HTTP has none. An interim status ends
-- the connection with a failure.
def onWire (r : Request) (response : Response) : Response :=
  if response.status.isInterim then unsupported
  else
    { response with
      headers := framed r.closes response
      body := if r.method = "HEAD" || response.status.isBodiless then "" else response.body }

-- Whether nothing is answered behind this response.
def isLast (r : Request) (response : Response) : Bool :=
  r.closes || response.status.code < 200 ||
    response.headers.any fun h => h.1 = "connection" && sameLetters h.2 "close"

-- A header value without the spaces and tabs around it.
def bareValue (value : Octets) : Octets :=
  let isBlank (octet : UInt8) : Bool := octet = 0x20 || octet = 0x09
  ((value.dropWhile isBlank).reverse.dropWhile isBlank).reverse

-- The request as it arrives.
def received (r : Request) : Request :=
  { r with headers := r.headers.map fun h => (h.1, bareValue h.2) }

-- The answers to the requests of one connection, and what is logged with them.
def serve : List Request → List Response × List Log.Event
  | [] => ([], [])
  | r :: rest =>
    let r := received r
    let (response, events) := respond r
    if isLast r response then ([onWire r response], events)
    else
      let (responses, more) := serve rest
      (onWire r response :: responses, events ++ more)

end RoutingProcessor.Backend
