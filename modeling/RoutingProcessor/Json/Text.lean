import RoutingProcessor.Json.Octet

namespace RoutingProcessor.Json

open Text

-- How far a text has been read since its opening quote. Hexadecimal digits are
-- collected four at a time and judged together.
inductive TextPhase where
  | plain
  | escape
  | hex (taken : Octets)
  | lowSlash (high : Nat)
  | lowMark (high : Nat)
  | lowHex (high : Nat) (taken : Octets)
deriving DecidableEq

namespace TextPhase

-- What an octet does to a text: it goes on with some octets of the value, ends at the
-- closing quote, or is broken.
inductive Step where
  | goes (phase : TextPhase) (value : Octets)
  | ends
  | fails

-- The character that stands behind a backslash in the short escapes.
def shortEscape? (b : UInt8) : Option UInt8 :=
  if b = 0x22 || b = 0x5C || b = 0x2F then some b
  else if b = 0x62 then some 0x08
  else if b = 0x66 then some 0x0C
  else if b = 0x6E then some 0x0A
  else if b = 0x72 then some 0x0D
  else if b = 0x74 then some 0x09
  else none

def isHighSurrogate (n : Nat) : Bool := 0xD800 ≤ n && n < 0xDC00

def isLowSurrogate (n : Nat) : Bool := 0xDC00 ≤ n && n < 0xE000

-- Four digits have been read. A low surrogate may not come first, and a high one wants
-- its partner.
def ofUnit (n : Nat) : Step :=
  if isLowSurrogate n then .fails
  else if isHighSurrogate n then .goes (lowSlash n) []
  else .goes plain (String.utf8EncodeChar (Char.ofNat n))

def ofPair (high low : Nat) : Step :=
  if isLowSurrogate low then
    .goes plain
      (String.utf8EncodeChar (Char.ofNat ((high - 0xD800) * 0x400 + (low - 0xDC00) + 0x10000)))
  else .fails

-- Reads the value of a text.
def next : TextPhase → UInt8 → Step
  | plain, b =>
    if b = 0x22 then .ends
    else if b = 0x5C then .goes escape []
    else if b < 0x20 then .fails
    else .goes plain [b]
  | escape, b =>
    if b = 0x75 then .goes (hex []) []
    else
      match shortEscape? b with
      | some c => .goes plain [c]
      | none => .fails
  | hex taken, b =>
    if taken.length < 3 then .goes (hex (taken ++ [b])) []
    else
      match hexNumber? (taken ++ [b]) with
      | some n => ofUnit n
      | none => .fails
  | lowSlash high, b => if b = 0x5C then .goes (lowMark high) [] else .fails
  | lowMark high, b => if b = 0x75 then .goes (lowHex high []) [] else .fails
  | lowHex high taken, b =>
    if taken.length < 3 then .goes (lowHex high (taken ++ [b])) []
    else
      match hexNumber? (taken ++ [b]) with
      | some n => ofPair high n
      | none => .fails

-- Passes over a text without its value. Surrogates need no partner.
def pass (phase : TextPhase) (b : UInt8) : Step :=
  match phase, phase.next b with
  | hex taken, step =>
    if taken.length < 3 then step
    else if (hexNumber? (taken ++ [b])).isSome then .goes plain []
    else .fails
  | _, step => step

end TextPhase

end RoutingProcessor.Json
