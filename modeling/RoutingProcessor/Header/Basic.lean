import RoutingProcessor.Text.Ascii
import RoutingProcessor.Text.Utf8

namespace RoutingProcessor

open Text

-- A header as the proxy sends it. It fills `raw` and leaves `value` empty unless told
-- otherwise.
structure WireHeader where
  key : String
  value : String
  raw : Octets
deriving DecidableEq

-- A received header. Keys compare up to the case of ASCII letters.
structure Header where
  key : String
  value : String
deriving DecidableEq

-- The raw value wins when there is one.
def Header.ofWire (header : WireHeader) : Header :=
  ⟨header.key, if header.raw.isEmpty then header.value else Utf8.decodeLossy header.raw⟩

-- The headers of one message in the order they were received, duplicates included.
structure HeaderSet where
  toList : List Header
deriving DecidableEq

namespace HeaderSet

def empty : HeaderSet := ⟨[]⟩

def ofWire (headers : List WireHeader) : HeaderSet := ⟨headers.map Header.ofWire⟩

def size (headers : HeaderSet) : Nat := headers.toList.length

def isEmpty (headers : HeaderSet) : Bool := headers.toList.isEmpty

-- The value of the first header with this name.
def get? (headers : HeaderSet) (name : String) : Option String :=
  (headers.toList.find? fun h => sameLetters h.key name).map (·.value)

-- A header with an empty value counts.
def contains (headers : HeaderSet) (name : String) : Bool := (headers.get? name).isSome

end HeaderSet

end RoutingProcessor
