import RoutingProcessor.Number.Binary64

namespace RoutingProcessor.Json

open Number

-- A number is whole if it is written without point and exponent and fits 64 bits.
-- Zero with a minus sign is not.
inductive Number where
  | whole (n : Int)
  | floating (x : Binary64)
deriving DecidableEq

namespace Number

def word : Nat := UInt64.size

-- The digits in front that fit a word, and how many are left over.
def leading (significand : Nat) : List Nat → Nat × Nat
  | [] => (significand, 0)
  | d :: rest =>
    if significand * 10 + d < word then leading (significand * 10 + d) rest
    else (significand, rest.length + 1)

-- The number written with these digits in front of the point. Digits that no longer
-- fit a word only move the point.
def ofWhole (negative : Bool) (digits : List Nat) : Number :=
  match leading 0 digits with
  | (n, 0) =>
    if !negative then .whole n
    else if n = 0 || Nat.pow 2 63 < n then .floating (.ofRatio true n 1)
    else .whole (-n)
  | (n, more) => .floating (.scaled negative n more)

-- The number written with digits behind the point or with an exponent. Nothing
-- stands for a number that is too large.
def ofDecimal? (negative : Bool) (digits fraction : List Nat) (exponent : Int) : Option Number :=
  let (n, more) := leading 0 digits
  let (n, unread) := if more = 0 then leading n fraction else (n, fraction.length)
  let place : Int := more - (fraction.length - unread : Nat) + exponent
  if n = 0 || place < -616 then some (.floating (.finite negative 0 Binary64.leastExponent))
  else if place > 308 then none
  else
    match Binary64.scaled negative n place with
    | .infinite _ => none
    | x => some (.floating x)

def print : Number → String
  | whole n => toString n
  | floating x => x.print

end Number

end RoutingProcessor.Json
