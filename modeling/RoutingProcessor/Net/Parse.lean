import RoutingProcessor.Net.Address

namespace RoutingProcessor.Net

open Text

-- A reader takes a value off the front of a text and gives what is left.
abbrev Reader (α : Type) := List Char → Option (α × List Char)

def digit? (base : Nat) (c : Char) : Option Nat := (hexDigit? c).filter (· < base)

-- Every digit at the front counts: one digit more than `most` is a failure, not the
-- end of the number.
def digits (base most : Nat) : Reader (List Nat) := fun cs =>
  let taken := (cs.takeWhile fun c => (digit? base c).isSome).filterMap (digit? base)
  if taken.isEmpty || most < taken.length then none
  else some (taken, cs.dropWhile fun c => (digit? base c).isSome)

def value (base : Nat) (digits : List Nat) : Nat := digits.foldl (fun n d => n * base + d) 0

-- A decimal number below `bound` with any number of digits.
def decimalBelow (bound : Nat) : Reader Nat := fun cs => do
  let (taken, rest) ← digits 10 cs.length cs
  let n := value 10 taken
  if n < bound then some (n, rest) else none

-- Up to three digits without a zero in front of another.
def octet : Reader UInt8 := fun cs => do
  let (taken, rest) ← digits 10 3 cs
  let n := value 10 taken
  if n < 256 && (taken.length = 1 || taken.head? != some 0) then some (n.toUInt8, rest) else none

def given (c : Char) : Reader Unit
  | d :: rest => if d = c then some ((), rest) else none
  | [] => none

def ipv4 : Reader Ipv4 := fun cs => do
  let (a, cs) ← octet cs
  let ((), cs) ← given '.' cs
  let (b, cs) ← octet cs
  let ((), cs) ← given '.' cs
  let (c, cs) ← octet cs
  let ((), cs) ← given '.' cs
  let (d, cs) ← octet cs
  return (⟨a, b, c, d⟩, cs)

-- The two groups of an embedded IPv4 host.
def Ipv4.groups (ip : Ipv4) : List UInt16 :=
  [ip.a.toUInt16 <<< 8 ||| ip.b.toUInt16, ip.c.toUInt16 <<< 8 ||| ip.d.toUInt16]

def group : Reader UInt16 := fun cs => do
  let (taken, rest) ← digits 16 4 cs
  return ((value 16 taken).toUInt16, rest)

-- Up to `room` groups with colons between them, the last two possibly written as an
-- IPv4 host. Says whether they were.
def groups (isFirst : Bool) : (room : Nat) → List Char → (List UInt16 × Bool) × List Char
  | 0, cs => (([], false), cs)
  | room + 1, cs =>
    let start := if isFirst then some cs else (given ':' cs).map (·.2)
    match start with
    | none => (([], false), cs)
    | some inner =>
      match if room = 0 then none else ipv4 inner with
      | some (ip, rest) => ((ip.groups, true), rest)
      | none =>
        match group inner with
        | none => (([], false), cs)
        | some (g, rest) =>
          let ((more, embedded), rest) := groups false room rest
          ((g :: more, embedded), rest)

-- Eight groups, or fewer with two colons for at least one group of zeros.
def ipv6 : Reader Ipv6 := fun cs => do
  let ((front, embedded), rest) := groups true 8 cs
  if h : front.length = 8 then return (⟨front, h⟩, rest)
  else if embedded then none
  else
    let ((), rest) ← given ':' rest
    let ((), rest) ← given ':' rest
    let ((back, _), rest) := groups true (7 - front.length) rest
    let all := front ++ List.replicate (8 - front.length - back.length) 0 ++ back
    if h : all.length = 8 then return (⟨all, h⟩, rest) else none

def port : Reader UInt16 := fun cs => do
  let ((), cs) ← given ':' cs
  let (n, cs) ← decimalBelow 65536 cs
  return (n.toUInt16, cs)

def socketV4 : Reader SocketAddress := fun cs => do
  let (ip, cs) ← ipv4 cs
  let (port, cs) ← port cs
  return (.v4 ip port, cs)

def scope : Reader UInt32 := fun cs => do
  let ((), cs) ← given '%' cs
  let (n, cs) ← decimalBelow UInt32.size cs
  return (n.toUInt32, cs)

def socketV6 : Reader SocketAddress := fun cs => do
  let ((), cs) ← given '[' cs
  let (ip, cs) ← ipv6 cs
  let (scope, cs) := (scope cs).getD (0, cs)
  let ((), cs) ← given ']' cs
  let (port, cs) ← port cs
  return (.v6 ip port scope, cs)

-- A reader that must take the whole text.
def Reader.whole {α : Type} (reader : Reader α) (cs : List Char) : Option α :=
  match reader cs with
  | some (a, []) => some a
  | _ => none

namespace SocketAddress

def parse? (text : String) : Option SocketAddress :=
  (Reader.whole socketV4 text.toList).or (Reader.whole socketV6 text.toList)

def invalidMessage : String := "invalid socket address syntax"

end SocketAddress

end RoutingProcessor.Net
