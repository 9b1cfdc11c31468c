import RoutingProcessor.Text.Ascii

namespace RoutingProcessor.Number

open Text

-- Why a text is not a number of the wanted width.
inductive DigitsError where
  | empty
  | invalidDigit
  | overflow
deriving DecidableEq

def DigitsError.message : DigitsError → String
  | empty => "cannot parse integer from empty string"
  | invalidDigit => "invalid digit found in string"
  | overflow => "number too large to fit in target type"

-- Reads decimal digits onto `value`. The first character that is no digit, or takes
-- the number to `bound` or beyond, decides.
def appendDigits (bound : Nat) (value : Nat) : List Char → Except DigitsError Nat
  | [] => .ok value
  | c :: rest =>
    if isDigit c then
      let next := value * 10 + (c.toNat - '0'.toNat)
      if next < bound then appendDigits bound next rest else .error .overflow
    else .error .invalidDigit

-- A decimal number below `bound`, with a plus sign and leading zeros allowed.
def parseBelow (bound : Nat) (text : String) : Except DigitsError Nat :=
  match text.toList with
  | [] => .error .empty
  | ['+'] => .error .invalidDigit
  | '+' :: digits => appendDigits bound 0 digits
  | digits => appendDigits bound 0 digits

-- The value of a list of decimal digits.
def ofDigits (digits : List Char) : Nat :=
  digits.foldl (fun value c => value * 10 + (c.toNat - '0'.toNat)) 0

end RoutingProcessor.Number
