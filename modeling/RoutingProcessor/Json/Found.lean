import RoutingProcessor.Json.Number
import RoutingProcessor.Text.Quoted

namespace RoutingProcessor.Json

-- What stands in a document in the place of something else.
inductive Found where
  | null
  | bool (b : Bool)
  | number (n : Number)
  | text (s : String)
  | list
  | map
deriving DecidableEq

def Found.describe : Found → String
  | null => "null"
  | bool b => "boolean \x60" ++ toString b ++ "\x60"
  | number (.whole n) => "integer \x60" ++ toString n ++ "\x60"
  | number x => "floating point \x60" ++ x.print ++ "\x60"
  | text s => "string " ++ Text.Quoted.quote s
  | list => "sequence"
  | map => "map"

end RoutingProcessor.Json
