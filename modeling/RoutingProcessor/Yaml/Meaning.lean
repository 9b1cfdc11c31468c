import RoutingProcessor.Number.Binary64
import RoutingProcessor.Number.Digits
import RoutingProcessor.Text.Ascii
import RoutingProcessor.Text.Quoted

namespace RoutingProcessor.Yaml

open Text Number

-- What a scalar without quotes says.
inductive Meaning where
  | null
  | bool (b : Bool)
  | integer (n : Int)
  | floating (x : Binary64)
  | text
deriving DecidableEq

namespace Meaning

def isNull (text : String) : Bool := ["null", "Null", "NULL", "~"].contains text

def bool? (text : String) : Option Bool :=
  if ["true", "True", "TRUE"].contains text then some true
  else if ["false", "False", "FALSE"].contains text then some false
  else none

-- A sign, which may be missing, and what follows it.
def sign (text : List Char) : Option Char × List Char :=
  match text with
  | '+' :: rest => (some '+', rest)
  | '-' :: rest => (some '-', rest)
  | rest => (none, rest)

-- Digits behind a leading zero make a text, not a number.
def isZeroPadded (text : List Char) : Bool :=
  match (sign text).2 with
  | '0' :: c :: rest => (c :: rest).all isDigit
  | _ => false

-- The value of one digit or more.
def digits? (base : Nat) (text : List Char) : Option Nat := do
  let digits ← text.mapM fun c => (hexDigit? c).filter (· < base)
  if digits.isEmpty then none else some (digits.foldl (fun n d => n * base + d) 0)

def bases : List (Char × Nat) := [('x', 16), ('o', 8), ('b', 2)]

-- A number without its sign: decimal, or with a base in front.
def magnitude? (text : List Char) : Option Nat :=
  match text with
  | '0' :: c :: rest =>
    match bases.lookup c with
    | some base => digits? base rest
    | none => digits? 10 text
  | _ => digits? 10 text

-- A number of at most 64 bits with no minus sign.
def unsigned? (text : List Char) : Option Nat :=
  match sign text with
  | (some '-', _) => none
  | (_, rest) => if isZeroPadded text then none else (magnitude? rest).filter (· < UInt64.size)

-- A number of either sign. Only words of up to 128 bits are numbers.
def integer? (text : List Char) : Option Int :=
  if isZeroPadded text then none
  else
    match sign text with
    | (some '-', rest) => ((magnitude? rest).filter (· ≤ Nat.pow 2 127)).map fun n => -(n : Int)
    | (_, rest) => ((magnitude? rest).filter (· < Nat.pow 2 128)).map fun n => (n : Int)

-- The digits in front of the point, those behind it and the exponent, if the text is
-- a number in decimal or scientific notation.
def decimal? (text : List Char) : Option (List Char × List Char × Int) := do
  let whole := text.takeWhile isDigit
  let rest := text.dropWhile isDigit
  let (fraction, rest) := match rest with
    | '.' :: rest => (rest.takeWhile isDigit, rest.dropWhile isDigit)
    | rest => ([], rest)
  if whole.isEmpty && fraction.isEmpty then none
  match rest with
  | [] => return (whole, fraction, 0)
  | c :: rest =>
    if c ≠ 'e' && c ≠ 'E' then none
    let (sign, rest) := sign rest
    let n ← digits? 10 rest
    return (whole, fraction, if sign = some '-' then -(n : Int) else n)

def infinities : List String := [".inf", ".Inf", ".INF"]
def notNumbers : List String := [".nan", ".NaN", ".NAN"]

-- A finite number in decimal notation, or the words for those that are not finite.
def floating? (text : List Char) : Option Binary64 :=
  let (mark, rest) := sign text
  if infinities.contains (String.ofList rest) then some (.infinite (mark = some '-'))
  else if notNumbers.contains (String.ofList text) then some .nan
  else do
    let (whole, fraction, exponent) ← decimal? rest
    let x := Binary64.ofDecimal (mark = some '-') (ofDigits (whole ++ fraction))
      (exponent - fraction.length)
    match x with
    | .finite .. => some x
    | _ => none

def ofPlain (text : String) : Meaning :=
  let cs := text.toList
  if text.isEmpty || isNull text then null
  else
    match bool? text, integer? cs, if isZeroPadded cs then none else floating? cs with
    | some b, _, _ => bool b
    | none, some n, _ => integer n
    | none, none, some x => floating x
    | none, none, none => Meaning.text

-- Words of more than 64 bits are named as such.
def width (n : Int) : String :=
  if n < -(Nat.pow 2 63 : Nat) then " as i128" else if n < UInt64.size then "" else " as u128"

-- What stands in a document where something else is wanted.
def describe (given : String) : Meaning → String
  | null => "unit value"
  | bool b => "boolean \x60" ++ toString b ++ "\x60"
  | integer n => "integer \x60" ++ toString n ++ "\x60" ++ width n
  | floating x => "floating point \x60" ++ x.printPositional ++ "\x60"
  | text => "string " ++ Quoted.quote given

end Meaning

end RoutingProcessor.Yaml
