import RoutingProcessor.Text.Utf8

namespace RoutingProcessor.Json

open Text

-- The octets that may stand between the parts of a document.
def isSpace (b : UInt8) : Bool := b = 0x20 || b = 0x0A || b = 0x09 || b = 0x0D

def isDigit (b : UInt8) : Bool := 0x30 ≤ b && b ≤ 0x39

def digitValue (b : UInt8) : Nat := b.toNat - 0x30

def hexValue? (b : UInt8) : Option Nat :=
  if 0x30 ≤ b && b ≤ 0x39 then some (b.toNat - 0x30)
  else if 0x61 ≤ b && b ≤ 0x66 then some (b.toNat - 0x61 + 10)
  else if 0x41 ≤ b && b ≤ 0x46 then some (b.toNat - 0x41 + 10)
  else none

def hexNumber? (bs : Octets) : Option Nat :=
  bs.foldlM (fun n b => (hexValue? b).map (n * 16 + ·)) 0

end RoutingProcessor.Json
