import RoutingProcessor.Net.Punycode
import RoutingProcessor.Text.Property

namespace RoutingProcessor.Net.Domain

open Text

-- Characters that a domain name may not hold, apart from controls and the space.
def isForbidden (c : Char) : Bool :=
  c.toNat ≤ 0x20 || c.toNat = 0x7F || "%#/:<>?@[\\]^|".toList.contains c

-- Characters that leave no trace in a domain name.
def isIgnored (c : Char) : Bool :=
  [0xAD, 0x200B, 0x2060, 0xFEFF].contains c.toNat || (0xFE00 ≤ c.toNat && c.toNat ≤ 0xFE0F)

-- The wide forms of ASCII characters and the other full stops become the plain ones.
def fold (c : Char) : Char :=
  if c.toNat = 0x3002 || c.toNat = 0xFF61 then '.'
  else if 0xFF01 ≤ c.toNat && c.toNat ≤ 0xFF5E then (Char.ofNat (c.toNat - 0xFEE0)).toLower
  else c.toLower

-- Whether a character beyond ASCII may stand in a domain name.
def isForeign (c : Char) : Bool :=
  128 ≤ c.toNat && !isUnprintable c && !isBlank c && c ≠ '\uFFFD'

-- A label may not begin with a character that belongs to the one before it, and an
-- encoded label must stand for something that needs encoding.
def isLabel (label : List Char) : Bool :=
  (match label with
    | c :: _ => !isGraphemeExtend c
    | [] => true) &&
  match label with
  | 'x' :: 'n' :: '-' :: '-' :: encoded =>
    match if encoded.all fun c => c.toNat < 128 then Punycode.decode? encoded else none with
    | some text =>
      text.any (fun c => 128 ≤ c.toNat) && text.all fun c => c.toNat < 128 || isForeign c
    | none => false
  | _ => true

-- The form of a domain name that is looked up, letters in lower case.
def normalize? (cs : List Char) : Option (List Char) :=
  let cs := (cs.filter (!isIgnored ·)).map fold
  if cs.all (fun c => if c.toNat < 128 then !isForbidden c else isForeign c) &&
    (cs.splitOn '.').all isLabel
  then some cs else none

end RoutingProcessor.Net.Domain
