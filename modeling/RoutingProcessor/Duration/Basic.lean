import RoutingProcessor.Text.Ascii

namespace RoutingProcessor

-- A length of time in whole nanoseconds.
structure Duration where
  nanos : Nat
deriving DecidableEq

namespace Duration

def zero : Duration := ⟨0⟩

def ofMillis (n : Nat) : Duration := ⟨n * 1000000⟩

def ofSecs (n : Nat) : Duration := ⟨n * 1000000000⟩

def ofParts (secs nanos : Nat) : Duration := ⟨secs * 1000000000 + nanos⟩

def secs (d : Duration) : Nat := d.nanos / 1000000000

-- The nanoseconds beyond the whole seconds.
def subsecNanos (d : Duration) : Nat := d.nanos % 1000000000

-- `whole` and a fraction of `places` decimal places, without trailing zeros.
def decimal (whole fraction places : Nat) : List Char :=
  let digits := (Text.padded places fraction).reverse.dropWhile (· = '0')
  (toString whole).toList ++ if digits.isEmpty then [] else '.' :: digits.reverse

-- The duration in its largest unit among s, ms, µs and ns that gives at least one.
def compact (d : Duration) : String :=
  let n := d.nanos
  String.ofList <|
    if n ≥ 1000000000 then decimal (n / 1000000000) (n % 1000000000) 9 ++ ['s']
    else if n ≥ 1000000 then decimal (n / 1000000) (n % 1000000) 6 ++ ['m', 's']
    else if n ≥ 1000 then decimal (n / 1000) (n % 1000) 3 ++ ['µ', 's']
    else decimal n 0 0 ++ ['n', 's']

end Duration

end RoutingProcessor
