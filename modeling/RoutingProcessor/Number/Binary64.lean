import RoutingProcessor.Text.Ascii

namespace RoutingProcessor.Number

-- A floating point number of 64 bits. A finite one is `mantissa * 2 ^ exponent` with
-- at most 53 bits of mantissa.
inductive Binary64 where
  | finite (negative : Bool) (mantissa : Nat) (exponent : Int)
  | infinite (negative : Bool)
  | nan
deriving DecidableEq

-- The nearest whole number to `n / d`, a half going to the even neighbour.
def roundHalfEven (n d : Nat) : Nat :=
  let whole := n / d
  let twice := 2 * (n % d)
  if twice > d || (twice = d && whole % 2 = 1) then whole + 1 else whole

-- A power with an exponent of either sign, as a numerator and a denominator.
def powerRatio (base : Nat) (exponent : Int) : Nat × Nat :=
  (base.pow exponent.toNat, base.pow (-exponent).toNat)

namespace Binary64

-- The least exponent of a finite number.
def leastExponent : Int := -1074

def greatestExponent : Int := 971

-- The exponent that gives `n / d` 53 bits, or the least one.
def exponentFor (n d : Nat) : Int :=
  let guess : Int := (Nat.log2 n : Int) - (Nat.log2 d : Int)
  let (up, down) := powerRatio 2 guess
  let top := if n * down < d * up then guess - 1 else guess
  max (top - 52) leastExponent

-- The nearest number to `n / d`, a half going to the even mantissa.
def ofRatio (negative : Bool) (n d : Nat) : Binary64 :=
  if n = 0 then finite negative 0 leastExponent
  else
    let exponent := exponentFor n d
    let (up, down) := powerRatio 2 exponent
    let mantissa := roundHalfEven (n * down) (d * up)
    let (mantissa, exponent) :=
      if mantissa = Nat.pow 2 53 then (Nat.pow 2 52, exponent + 1) else (mantissa, exponent)
    if exponent > greatestExponent then infinite negative else finite negative mantissa exponent

-- The nearest number to `digits * 10 ^ exponent`. Beyond four hundred places the
-- answer no longer depends on how far.
def ofDecimal (negative : Bool) (digits : Nat) (exponent : Int) : Binary64 :=
  let places : Int := (Nat.toDigits 10 digits).length + exponent
  if digits = 0 || places < -400 then finite negative 0 leastExponent
  else if places > 400 then infinite negative
  else
    let (up, down) := powerRatio 10 exponent
    ofRatio negative (digits * up) down

-- A number times a power of ten that was rounded first. The power is at most 308 in
-- size.
def timesTen (x : Binary64) (exponent : Int) : Binary64 :=
  match x, ofDecimal false 1 exponent.natAbs with
  | finite negative m e, finite _ m' e' =>
    let (up, down) := powerRatio 2 (if exponent < 0 then e - e' else e + e')
    if exponent < 0 then ofRatio negative (m * up) (m' * down)
    else ofRatio negative (m * m' * up) down
  | x, _ => x

-- `digits * 10 ^ exponent` computed in steps that round each time: first the digits,
-- then the power, in two parts if one would be too small for a number.
def scaled (negative : Bool) (digits : Nat) (exponent : Int) : Binary64 :=
  let x := ofRatio negative digits 1
  if exponent < -308 then timesTen (timesTen x (-308)) (max (exponent + 308) (-308))
  else timesTen x exponent

-- Four times the mantissas between which everything rounds to `mantissa`, counted in
-- quarters of a unit in the last place. Below a power of two the gap is narrower.
def neighbourhood (mantissa : Nat) (exponent : Int) : Nat × Nat :=
  if mantissa = Nat.pow 2 52 && leastExponent < exponent then (4 * mantissa - 1, 4 * mantissa + 2)
  else (4 * mantissa - 2, 4 * mantissa + 2)

-- The multiple of `10 ^ place` that reads back as the number, if there is one. Of two
-- the nearer is taken.
def onGrid (mantissa : Nat) (exponent : Int) (place : Int) : Option Nat :=
  let (up, down) := powerRatio 2 (exponent - 2)
  let (tenUp, tenDown) := powerRatio 10 place
  let unit := tenUp * down
  let scale := up * tenDown
  let (low, high) := neighbourhood mantissa exponent
  let reads (c : Nat) : Bool :=
    if mantissa % 2 = 0 then low * scale ≤ c * unit && c * unit ≤ high * scale
    else low * scale < c * unit && c * unit < high * scale
  let value := 4 * mantissa * scale
  let below := value / unit
  let above := below + 1
  match below ≠ 0 && reads below, reads above with
  | true, true =>
    let down := value - below * unit
    let up := above * unit - value
    some (if down < up || (down = up && below % 2 = 0) then below else above)
  | true, false => some below
  | false, true => some above
  | false, false => none

-- The fewest decimal digits that read back as the number, and the place of the last
-- of them.
def shortest (mantissa : Nat) (exponent : Int) : Nat × Int :=
  let places := (List.range 640).map fun (i : Nat) => (309 : Int) - i
  (places.findSome? fun place => (onGrid mantissa exponent place).map (·, place)).getD (0, 0)

-- Digits without an exponent and with at least one on either side of the point.
def positional (digits : List Char) (place : Int) : List Char :=
  if 0 ≤ place then digits ++ List.replicate place.toNat '0' ++ ['.', '0']
  else
    let behind := (-place).toNat
    if behind < digits.length then
      digits.take (digits.length - behind) ++ '.' :: digits.drop (digits.length - behind)
    else '0' :: '.' :: List.replicate (behind - digits.length) '0' ++ digits

-- One digit in front of the point and an exponent.
def scientific (digits : List Char) (place : Int) : List Char :=
  let exponent := (toString (place + digits.length - 1)).toList
  match digits with
  | first :: [] => first :: 'e' :: exponent
  | first :: rest => first :: '.' :: rest ++ 'e' :: exponent
  | [] => []

def withSign (negative : Bool) (cs : List Char) : String :=
  String.ofList (if negative then '-' :: cs else cs)

-- The shortest digits, with an exponent where the point lies more than sixteen
-- places to the right or more than four to the left of the first digit.
def print : Binary64 → String
  | finite negative 0 _ => withSign negative "0.0".toList
  | finite negative mantissa exponent =>
    let (digits, place) := shortest mantissa exponent
    let digits := Nat.toDigits 10 digits
    let point := place + digits.length
    withSign negative <|
      if -5 < point && point ≤ 16 then positional digits place else scientific digits place
  | infinite negative => withSign negative "inf".toList
  | nan => "NaN"

-- The shortest digits without any exponent.
def printPositional : Binary64 → String
  | finite negative 0 _ => withSign negative "0.0".toList
  | finite negative mantissa exponent =>
    let (digits, place) := shortest mantissa exponent
    withSign negative (positional (Nat.toDigits 10 digits) place)
  | infinite negative => withSign negative "inf".toList
  | nan => "NaN"

end Binary64

end RoutingProcessor.Number
