import RoutingProcessor.Net.Percent

namespace RoutingProcessor.Http.Form

open Text Net

-- The pieces of a list between separators.
def pieces (separator : UInt8) : Octets → List Octets
  | [] => [[]]
  | b :: rest =>
    if b = separator then [] :: pieces separator rest
    else
      match pieces separator rest with
      | piece :: more => (b :: piece) :: more
      | [] => [[b]]

-- A plus stands for a space, and what is no text is read as far as it goes.
def text (piece : Octets) : String :=
  Utf8.decodeLossy (Percent.decode (piece.map fun b => if b = 0x2B then 0x20 else b))

-- A name and a value around the first equals sign. Without one the value is empty.
def pair (piece : Octets) : String × String :=
  (text (piece.takeWhile (· != 0x3D)), text ((piece.dropWhile (· != 0x3D)).drop 1))

-- The pairs of a query in order. Pieces with nothing in them are passed over.
def pairs (query : String) : List (String × String) :=
  ((pieces 0x26 (octets query)).filter fun piece => !piece.isEmpty).map pair

end RoutingProcessor.Http.Form
