import RoutingProcessor.Header.Basic
import RoutingProcessor.Header.Response

namespace RoutingProcessor.Stream

-- The phases of a request and its response in which nothing is decided.
inductive InertPhase where
  | requestBody
  | requestTrailers
  | responseHeaders
  | responseBody
  | responseTrailers
deriving DecidableEq

-- The phases that the proxy reports.
inductive Phase where
  | requestHeaders
  | inert (phase : InertPhase)
deriving DecidableEq

-- A message of the proxy. Only the headers of a request are looked at.
inductive Message where
  | requestHeaders (headers : List WireHeader)
  | inert (phase : InertPhase)
  | unknown
deriving DecidableEq

def Message.phase? : Message → Option Phase
  | requestHeaders _ => some .requestHeaders
  | inert phase => some (.inert phase)
  | unknown => none

-- An answer to a message. Trailers are never mutated.
structure Response where
  phase : Option Phase
  common : Option CommonResponse
deriving DecidableEq

def InertPhase.name : InertPhase → String
  | requestBody => "RequestBody"
  | requestTrailers => "RequestTrailers"
  | responseHeaders => "ResponseHeaders"
  | responseBody => "ResponseBody"
  | responseTrailers => "ResponseTrailers"

end RoutingProcessor.Stream
