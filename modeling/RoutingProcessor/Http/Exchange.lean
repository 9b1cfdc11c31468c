import RoutingProcessor.Http.Status
import RoutingProcessor.Json.Octet

namespace RoutingProcessor.Http

open Text

-- How the end of a body is known.
inductive Framing where
  | empty
  | length (n : Nat)
  | chunked
  | untilClose
deriving DecidableEq

-- Where the reader of a body in chunks stands. A size is what its digits have given so far.
inductive ChunkPlace where
  | start
  | size (n : Nat)
  | blank (n : Nat)
  | extension (n : Nat)
  | sizeEnd (n : Nat)
  | data (left : Nat)
  | dataReturn
  | dataEnd
  -- Behind the last chunk: the start of a trailer line or of the end.
  | last
  | trailer
  | trailerEnd
  | lastEnd
  | ended

namespace ChunkPlace

-- Behind the digits of a size. Blanks may follow, but no more digits.
def afterSize? (n : Nat) (b : UInt8) : Option ChunkPlace :=
  if b = 0x20 || b = 0x09 then some (blank n)
  else if b = 0x3B then some (extension n)
  else if b = 0x0D then some (sizeEnd n)
  else none

-- Goes over an octet. Sizes have 64 bits.
def next? (b : UInt8) : ChunkPlace → Option ChunkPlace
  | start => (Json.hexValue? b).map size
  | size n =>
    match Json.hexValue? b with
    | some digit => if 16 * n + digit < UInt64.size then some (size (16 * n + digit)) else none
    | none => afterSize? n b
  | blank n => afterSize? n b
  | extension n =>
    if b = 0x0D then some (sizeEnd n) else if b = 0x0A then none else some (extension n)
  | sizeEnd n => if b = 0x0A then some (if n = 0 then last else data n) else none
  | data left => some (if left ≤ 1 then dataReturn else data (left - 1))
  | dataReturn => if b = 0x0D then some dataEnd else none
  | dataEnd => if b = 0x0A then some start else none
  | last => some (if b = 0x0D then lastEnd else trailer)
  | trailer => some (if b = 0x0D then trailerEnd else trailer)
  | trailerEnd => if b = 0x0A then some last else none
  | lastEnd => if b = 0x0A then some ended else none
  | ended => none

-- What the chunks from here on hold. Nothing stands for a body that is cut off or broken.
def read? : ChunkPlace → Octets → Option Octets
  | ended, _ => some []
  | _, [] => none
  | place, b :: rest => do
    let body ← read? (← place.next? b) rest
    return if place matches data _ then b :: body else body

end ChunkPlace

namespace Framing

-- The body in what arrived before the connection ended, if it is whole.
def body? : Framing → Octets → Option Octets
  | empty, _ => some []
  | length n, received => if n ≤ received.length then some (received.take n) else none
  | chunked, received => ChunkPlace.start.read? received
  | untilClose, received => some received

end Framing

-- What comes of a request, seen from the one who sends it.
inductive Exchange where
  -- No connection, so the request never arrives.
  | unreachable
  -- The connection ends or breaks before a final response.
  | noResponse
  -- Neither an answer nor an end.
  | stalled
  -- A final head, and then a body that neither ends nor breaks.
  | unfinished (status : Status)
  | response (status : Status) (framing : Framing) (received : Octets)
deriving DecidableEq

def Exchange.arrives : Exchange → Bool
  | unreachable => false
  | _ => true

-- Whether the exchange is over at some time.
def Exchange.ends : Exchange → Bool
  | stalled | unfinished _ => false
  | _ => true

-- The n-th request gets the n-th exchange, later ones the last.
def scripted (exchanges : List Exchange) (n : Nat) : Exchange :=
  (exchanges[n]?).getD (exchanges.getLastD .unreachable)

end RoutingProcessor.Http
