import RoutingProcessor.Net.Domain
import RoutingProcessor.Net.Parse
import RoutingProcessor.Net.Percent
import RoutingProcessor.Number.Digits

namespace RoutingProcessor.Net

open Text

namespace Url

-- The host of a URL. The value of a numeric IPv4 host is kept as one number.
inductive Host where
  | domain (name : String)
  | ipv4 (value : Nat)
  | ipv6
deriving DecidableEq

inductive Error where
  | relative
  | emptyHost
  | invalidDomain
  | invalidPort
  | invalidIpv4
  | invalidIpv6
  | invalidCharacter
deriving DecidableEq

def Error.message : Error → String
  | relative => "relative URL without a base"
  | emptyHost => "empty host"
  | invalidDomain => "invalid international domain name"
  | invalidPort => "invalid port number"
  | invalidIpv4 => "invalid IPv4 address"
  | invalidIpv6 => "invalid IPv6 address"
  | invalidCharacter => "invalid domain character"

-- What a part of a numeric host is worth: nothing if it is no number.
def part? (cs : List Char) : Option Nat :=
  let read (base : Nat) (digits : List Char) : Option Nat :=
    if digits.all fun c => (digit? base c).isSome then some (value base (digits.filterMap (digit? base)))
    else none
  match cs with
  | [] => none
  | '0' :: 'x' :: digits | '0' :: 'X' :: digits => read 16 digits
  | '0' :: c :: digits => read 8 (c :: digits)
  | digits => read 10 digits

-- The parts of a host between its dots. A dot at the end does not count.
def parts (cs : List Char) : List (List Char) :=
  let pieces := cs.splitOn '.'
  if pieces.getLast? = some [] then pieces.dropLast else pieces

-- Whether the last part makes a host numeric.
def endsInNumber (cs : List Char) : Bool :=
  match (parts cs).getLast? with
  | some last => !last.isEmpty && (last.all isDigit || (part? last).isSome)
  | none => false

-- Up to four numbers. All but the last are octets, and the last fills what is left of
-- 32 bits.
def ipv4? (cs : List Char) : Option Nat := do
  let numbers ← (parts cs).mapM part?
  let last ← numbers.getLast?
  let front := numbers.dropLast
  if numbers.length ≤ 4 && front.all (· ≤ 255) && last < Nat.pow 256 (4 - front.length) then
    some ((List.range front.length).foldl
      (fun sum i => sum + front.getD i 0 * Nat.pow 256 (3 - i)) last)
  else none

-- The host between the slashes of a URL with a well-known scheme.
def parseHost (cs : List Char) : Except Error Host :=
  match cs with
  | '[' :: inner =>
    if inner.getLast? = some ']' then
      match Reader.whole ipv6 inner.dropLast with
      | some _ => .ok .ipv6
      | none => .error .invalidIpv6
    else .error .invalidIpv6
  | cs =>
    match Utf8.decode? (Percent.decode (octets (String.ofList cs))) with
    | none => .error .invalidDomain
    | some decoded =>
      match Domain.normalize? decoded.toList with
      | none => .error .invalidDomain
      | some [] => .error .emptyHost
      | some name =>
        if endsInNumber name then
          match ipv4? name with
          | some value => .ok (.ipv4 value)
          | none => .error .invalidIpv4
        else .ok (.domain (String.ofList name))

-- The host of a URL with a scheme of its own.
def freeHost (cs : List Char) : Except Error Host :=
  match cs with
  | '[' :: _ => parseHost cs
  | cs =>
    if cs.any fun c => "\x00\t\n\r #/:<>?@[\\]^|".toList.contains c then .error .invalidCharacter
    else .ok (.domain (String.ofList cs))

-- The schemes that a web address may have. Their hosts are always names or addresses.
def special : List String := ["http", "https", "ws", "wss", "ftp"]

def isSlash (c : Char) : Bool := c = '/' || c = '\\'

def endsAuthority (isSpecial : Bool) (c : Char) : Bool :=
  c = '/' || c = '?' || c = '#' || (isSpecial && c = '\\')

-- The user information in front of the last at sign, if there is one, and the rest of
-- the text.
def splitUser (isSpecial : Bool) (cs : List Char) : Option (List Char) × List Char :=
  let authority := cs.takeWhile fun c => !endsAuthority isSpecial c
  let rest := cs.dropWhile fun c => !endsAuthority isSpecial c
  let back := authority.reverse
  match back.dropWhile (· ≠ '@') with
  | [] => (none, cs)
  | _ :: user => (some user.reverse, (back.takeWhile (· ≠ '@')).reverse ++ rest)

-- Cuts a host off: it ends at a colon outside of brackets, or where the authority ends.
def splitHost (isSpecial : Bool) : (inBrackets : Bool) → List Char → List Char × List Char
  | _, [] => ([], [])
  | inBrackets, c :: rest =>
    if (c = ':' && !inBrackets) || endsAuthority isSpecial c then ([], c :: rest)
    else
      let inBrackets := if c = '[' then true else if c = ']' then false else inBrackets
      let (front, back) := splitHost isSpecial inBrackets rest
      (c :: front, back)

-- The port behind a colon may be missing, but holds digits only.
def checkPort (cs : List Char) : Except Error Unit :=
  let digits := cs.takeWhile isDigit
  if 65535 < Number.ofDigits digits then .error .invalidPort
  else
    match cs.dropWhile isDigit with
    | [] => .ok ()
    | c :: _ => if endsAuthority true c then .ok () else .error .invalidPort

-- The authority behind two slashes.
def authority (isSpecial : Bool) (cs : List Char) : Except Error Host := do
  let (user, rest) := splitUser isSpecial cs
  if user = some [] && (match rest with | c :: _ => endsAuthority isSpecial c | [] => false) then
    throw .emptyHost
  let (name, rest) := splitHost isSpecial false rest
  if isSpecial && name.isEmpty then throw .emptyHost
  let host ← if isSpecial then parseHost name else freeHost name
  let hasUser := match user with
    | none | some [] | some [':'] => false
    | _ => true
  match rest with
  | ':' :: port =>
    if name.isEmpty then throw .emptyHost
    checkPort port
  | _ => pure ()
  if name.isEmpty && hasUser then throw .emptyHost
  return host

-- The host of a file URL. Drive letters and the own machine count as none.
def fileHost (cs : List Char) : Except Error (Option Host) :=
  match cs with
  | a :: b :: rest =>
    if isSlash a && isSlash b then
      let name := rest.takeWhile fun c => !endsAuthority true c
      let isDrive := match name with
        | [letter, mark] => isLetter letter && (mark = ':' || mark = '|')
        | _ => false
      if name.isEmpty || isDrive then .ok none
      else do
        let found ← parseHost name
        return if found = .domain "localhost" then none else some found
    else .ok none
  | _ => .ok none

end Url

-- The scheme and the host of a URL.
structure Url where
  scheme : String
  host : Option Url.Host
deriving DecidableEq

namespace Url

-- Blanks and controls around the text, and tabs and line ends inside of it, are not
-- looked at.
def cleaned (text : String) : List Char :=
  let isOuter (c : Char) : Bool := c.toNat ≤ 0x20
  let inner := ((text.toList.dropWhile isOuter).reverse.dropWhile isOuter).reverse
  inner.filter fun c => c ≠ '\t' && c ≠ '\n' && c ≠ '\r'

def isSchemeChar (c : Char) : Bool := isLetter c || isDigit c || c = '+' || c = '-' || c = '.'

-- The scheme in lower case and what follows its colon.
def splitScheme? (cs : List Char) : Option (String × List Char) :=
  match cs with
  | first :: _ =>
    match cs.dropWhile isSchemeChar with
    | ':' :: rest =>
      if isLetter first then some (lower (String.ofList (cs.takeWhile isSchemeChar)), rest) else none
    | _ => none
  | [] => none

-- Reads an absolute URL. Well-known schemes do not care for the number and the kind
-- of the slashes.
def parse (text : String) : Except Error Url :=
  match splitScheme? (cleaned text) with
  | none => .error .relative
  | some (scheme, rest) => do
    if scheme = "file" then return ⟨scheme, ← fileHost rest⟩
    else if special.contains scheme then
      return ⟨scheme, some (← authority true (rest.dropWhile isSlash))⟩
    else
      match rest with
      | '/' :: '/' :: rest =>
        let host ← authority false rest
        return ⟨scheme, if host = .domain "" then none else some host⟩
      | _ => return ⟨scheme, none⟩

end Url

end RoutingProcessor.Net
