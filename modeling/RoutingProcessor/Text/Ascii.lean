namespace RoutingProcessor.Text

-- The text with its ASCII letters in lower case. Other characters stay.
def lower (text : String) : String := String.ofList (text.toList.map Char.toLower)

-- Equality up to the case of ASCII letters.
def sameLetters (a b : String) : Bool := lower a == lower b

def isDigit (c : Char) : Bool := '0' ≤ c && c ≤ '9'

def isLetter (c : Char) : Bool := ('a' ≤ c && c ≤ 'z') || ('A' ≤ c && c ≤ 'Z')

-- The value of a hexadecimal digit in either case.
def hexDigit? (c : Char) : Option Nat :=
  if '0' ≤ c && c ≤ '9' then some (c.toNat - '0'.toNat)
  else if 'a' ≤ c && c ≤ 'f' then some (c.toNat - 'a'.toNat + 10)
  else if 'A' ≤ c && c ≤ 'F' then some (c.toNat - 'A'.toNat + 10)
  else none

-- The lower-case hexadecimal digits of a number, without leading zeros.
def hexDigits (n : Nat) : List Char := Nat.toDigits 16 n

-- The decimal digits of a number, with zeros in front up to `width`.
def padded (width n : Nat) : List Char :=
  let digits := Nat.toDigits 10 n
  List.replicate (width - digits.length) '0' ++ digits

end RoutingProcessor.Text
