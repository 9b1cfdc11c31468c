import RoutingProcessor.Http.HeaderName
import RoutingProcessor.Http.Status
import RoutingProcessor.Net.Uri

namespace RoutingProcessor.Http

open Text

-- A request as it arrives. Header names compare in lower case.
structure Request where
  method : String
  target : Net.Uri
  headers : List (String × Octets)
deriving DecidableEq

namespace Request

-- The names of the headers, each once.
def names (r : Request) : List String := (r.headers.map fun h => lower h.1).eraseDups

-- The values of one header in the order of arrival.
def values (r : Request) (name : String) : List Octets :=
  (r.headers.filter fun h => lower h.1 = name).map (·.2)

-- Values of one header read as one list.
def joined (r : Request) (name : String) : String :=
  String.intercalate "," ((r.values name).map Utf8.decodeLossy)

-- Whether nothing follows on the same connection.
def closes (r : Request) : Bool :=
  (r.values "connection").any fun value => sameLetters (Utf8.decodeLossy value) "close"

end Request

structure Response where
  status : Status
  headers : List (String × String)
  body : String
deriving DecidableEq

end RoutingProcessor.Http
