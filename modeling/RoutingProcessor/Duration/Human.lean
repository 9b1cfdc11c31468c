import RoutingProcessor.Duration.Basic
import RoutingProcessor.Number.Digits
import RoutingProcessor.Text.Property

namespace RoutingProcessor.Duration

open Text

-- The units of the written form. A month is a twelfth of a year of 365.25 days.
inductive Unit where
  | nanosecond | microsecond | millisecond | second | minute | hour | day | week | month | year
deriving DecidableEq

namespace Unit

def names : List (String × Unit) := [
  ("nanos", nanosecond), ("nsec", nanosecond), ("ns", nanosecond),
  ("usec", microsecond), ("us", microsecond), ("µs", microsecond),
  ("millis", millisecond), ("msec", millisecond), ("ms", millisecond),
  ("seconds", second), ("second", second), ("secs", second), ("sec", second), ("s", second),
  ("minutes", minute), ("minute", minute), ("min", minute), ("mins", minute), ("m", minute),
  ("hours", hour), ("hour", hour), ("hrs", hour), ("hr", hour), ("h", hour),
  ("days", day), ("day", day), ("d", day),
  ("weeks", week), ("week", week), ("wks", week), ("wk", week), ("w", week),
  ("months", month), ("month", month), ("M", month),
  ("years", year), ("year", year), ("yrs", year), ("yr", year), ("y", year)]

-- The length of a unit: a count, and whether it counts seconds or nanoseconds.
def size : Unit → Nat × Bool
  | nanosecond => (1, false)
  | microsecond => (1000, false)
  | millisecond => (1000000, false)
  | second => (1, true)
  | minute => (60, true)
  | hour => (3600, true)
  | day => (86400, true)
  | week => (604800, true)
  | month => (2630016, true)
  | year => (31557600, true)

-- The grain of a fraction of the unit: seconds from the hour up, nanoseconds below.
-- A nanosecond has none.
def fractionSize : Unit → Option (Nat × Bool)
  | nanosecond => none
  | microsecond => some (1000, false)
  | millisecond => some (1000000, false)
  | second => some (1000000000, false)
  | minute => some (60000000000, false)
  | unit => some unit.size

end Unit

-- One amount of a written duration: a whole number, the digits behind the point if
-- there is one, and the unit.
structure Amount where
  whole : List Char
  fraction : Option (List Char)
  unit : List Char

def isUnitLetter (c : Char) : Bool := isLetter c || c == 'µ'

def isNumeral (c : Char) : Bool := isDigit c || isBlank c

-- The digits behind a point. Blanks may stand anywhere in a number.
def fraction? : List Char → Option (List Char) × List Char
  | '.' :: rest => (some ((rest.takeWhile isNumeral).filter isDigit), rest.dropWhile isNumeral)
  | rest => (none, rest)

theorem length_fraction?_le (cs : List Char) : (fraction? cs).2.length ≤ cs.length := by
  unfold fraction?
  split
  · next rest => exact Nat.le_succ_of_le (List.dropWhile_suffix isNumeral).length_le
  · exact Nat.le_refl _

-- The amount at the front of a text that starts with a digit, and the text behind it
-- without the blanks in front.
def amount (cs : List Char) : Amount × List Char :=
  let (fraction, rest) := fraction? (cs.dropWhile isNumeral)
  (⟨(cs.takeWhile isNumeral).filter isDigit, fraction, rest.takeWhile isUnitLetter⟩,
    (rest.dropWhile isUnitLetter).dropWhile isBlank)

theorem length_amount_lt {c : Char} (rest : List Char) (h : isDigit c) :
    (amount (c :: rest)).2.length < (c :: rest).length := by
  have hc : isNumeral c = true := by simp [isNumeral, h]
  have h1 : ((c :: rest).dropWhile isNumeral).length ≤ rest.length := by
    rw [List.dropWhile_cons, if_pos hc]
    exact (List.dropWhile_suffix isNumeral).length_le
  have h2 := length_fraction?_le ((c :: rest).dropWhile isNumeral)
  have h3 : ∀ l : List Char, ((l.dropWhile isUnitLetter).dropWhile isBlank).length ≤ l.length :=
    fun l => Nat.le_trans (List.dropWhile_suffix isBlank).length_le
      (List.dropWhile_suffix isUnitLetter).length_le
  exact Nat.lt_succ_of_le (Nat.le_trans (h3 _) (Nat.le_trans h2 h1))

-- Cuts a text into amounts. Every one starts with a digit.
def amounts? : List Char → Option (List Amount)
  | [] => some []
  | c :: rest =>
    if _h : isDigit c then
      (amounts? (amount (c :: rest)).2).map ((amount (c :: rest)).1 :: ·)
    else none
termination_by cs => cs.length
decreasing_by exact length_amount_lt rest ‹_›

-- Quantities are computed in words of 64 bits.
def word? (n : Nat) : Option Nat := if n < UInt64.size then some n else none

-- The nanoseconds that `n / d` of a size makes, cut to its grain.
def scaled? (n d : Nat) (size : Nat × Bool) : Option Nat := do
  let product ← word? (n * size.1)
  return product / d * if size.2 then 1000000000 else 1

-- Adds nanoseconds while the whole seconds fit a word.
def plus? (total nanos : Nat) : Option Nat := do
  let _ ← word? ((total + nanos) / 1000000000)
  return total + nanos

-- Adds one amount to a total.
def Amount.addTo? (total : Nat) (amount : Amount) : Option Nat := do
  let unit ← Unit.names.lookup (String.ofList amount.unit)
  let whole ← word? (Number.ofDigits amount.whole)
  let total ← plus? total (← scaled? whole 1 unit.size)
  match amount.fraction with
  | none => return total
  | some [] => none
  | some digits =>
    let size ← unit.fractionSize
    let denominator ← word? (Nat.pow 10 digits.length)
    plus? total (← scaled? (Number.ofDigits digits) denominator size)

-- Reads amounts such as `1h 30m` or `1.5s`. A lone `0` needs no unit.
def parse? (text : String) : Option Duration :=
  if text = "0" then some zero
  else
    match text.toList.dropWhile isBlank with
    | [] => none
    | cs => do
      let amounts ← amounts? cs
      return ⟨← amounts.foldlM Amount.addTo? 0⟩

-- A count with its unit, if it is not zero.
def item (n : Nat) (name : String) : List String :=
  if n = 0 then [] else [toString n ++ name]

-- The longer unit names take a plural.
def plural (n : Nat) (name : String) : List String :=
  item n (if n = 1 then name else name ++ "s")

-- The written form, from years down to nanoseconds.
def print (d : Duration) : String :=
  let secs := d.secs
  let ofYear := secs % 31557600
  let ofMonth := ofYear % 2630016
  let ofDay := ofMonth % 86400
  let nanos := d.subsecNanos
  let items :=
    plural (secs / 31557600) "year" ++ plural (ofYear / 2630016) "month" ++
    plural (ofMonth / 86400) "day" ++ item (ofDay / 3600) "h" ++ item (ofDay % 3600 / 60) "m" ++
    item (ofDay % 60) "s" ++ item (nanos / 1000000) "ms" ++ item (nanos / 1000 % 1000) "us" ++
    item (nanos % 1000) "ns"
  if items.isEmpty then "0s" else String.intercalate " " items

end RoutingProcessor.Duration
