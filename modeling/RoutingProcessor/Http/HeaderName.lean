import RoutingProcessor.Text.Ascii
import RoutingProcessor.Text.Utf8

namespace RoutingProcessor.Http

open Text

-- The characters of a header name.
def isTokenChar (c : Char) : Bool :=
  isLetter c || isDigit c || "!#$%&'*+-.^_".toList.contains c || c = '\x60' || c = '|' || c = '~'

-- A name that can stand in a message, in either case.
def isHeaderName (name : String) : Bool :=
  !name.isEmpty && name.toList.all isTokenChar && name.length < 65536

-- Proxies hand names over in lower case, so only such a name can ever match.
def isLowerHeaderName (name : String) : Bool := isHeaderName name && name = lower name

-- The octets of a header value: visible ones, the space, the tab, and everything
-- beyond ASCII.
def isValueOctet (b : UInt8) : Bool := (0x20 ≤ b && b != 0x7F) || b = 0x09

def isHeaderValue (value : String) : Bool := (octets value).all isValueOctet

end RoutingProcessor.Http
