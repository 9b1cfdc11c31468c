import RoutingProcessor.Text.Ascii
import RoutingProcessor.Text.Utf8

namespace RoutingProcessor.Net.Percent

open Text

def hexDigit? (b : UInt8) : Option UInt8 :=
  if 0x30 ≤ b && b ≤ 0x39 then some (b - 0x30)
  else if 0x61 ≤ b && b ≤ 0x66 then some (b - 0x61 + 10)
  else if 0x41 ≤ b && b ≤ 0x46 then some (b - 0x41 + 10)
  else none

-- Two hexadecimal digits behind a percent sign stand for one octet. Any other percent
-- sign stands for itself.
def decode : Octets → Octets
  | 0x25 :: high :: low :: rest =>
    match hexDigit? high, hexDigit? low with
    | some high, some low => (high * 16 + low) :: decode rest
    | _, _ => 0x25 :: decode (high :: low :: rest)
  | b :: rest => b :: decode rest
  | [] => []

end RoutingProcessor.Net.Percent
