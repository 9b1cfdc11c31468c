import RoutingProcessor.Json.Found

namespace RoutingProcessor.Json

-- A document. The members of an object keep their order.
inductive Value where
  | null
  | bool (b : Bool)
  | number (n : Number)
  | text (s : String)
  | list (items : List Value)
  | object (members : List (String × Value))
deriving Inhabited

def Value.found : Value → Found
  | null => .null
  | bool b => .bool b
  | number n => .number n
  | text s => .text s
  | list _ => .list
  | object _ => .map

end RoutingProcessor.Json
