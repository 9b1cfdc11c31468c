import RoutingProcessor.Text.Ascii
import RoutingProcessor.Text.Utf8

namespace RoutingProcessor.Net

open Text

-- The target of a request. One without a scheme is a bare authority or a bare path.
structure Uri where
  scheme : Option String
  authority : Option String
  path : String
  query : Option String
deriving DecidableEq

namespace Uri

inductive Error where
  | empty
  | tooLong
  | schemeTooLong
  | invalidAuthority
  | invalidCharacter
  | invalidFormat
deriving DecidableEq

def Error.message : Error → String
  | empty => "empty string"
  | tooLong => "uri too long"
  | schemeTooLong => "scheme too long"
  | invalidAuthority => "invalid authority"
  | invalidCharacter => "invalid uri character"
  | invalidFormat => "invalid format"

-- Tildes are let through.
def isSchemeChar (c : Char) : Bool := isLetter c || isDigit c || "+-.~".toList.contains c

-- Unreserved characters and sub-delimiters.
def isPlainChar (c : Char) : Bool :=
  isLetter c || isDigit c || "-._~!$&'()*+,;=".toList.contains c

def endsAuthority (c : Char) : Bool := c == '/' || c == '?' || c == '#'

-- Some characters that ought to be percent-encoded are let through.
def isPathChar (c : Char) : Bool :=
  c == '!' || ('$' ≤ c && c ≤ ';') || c == '=' || ('@' ≤ c && c ≤ '_') || ('a' ≤ c && c ≤ 'z') ||
  c == '|' || c == '~' || '\x7F' ≤ c || c == '"' || c == '\x7b' || c == '\x7d'

def isQueryChar (c : Char) : Bool :=
  c == '!' || ('$' ≤ c && c ≤ ';') || c == '=' || '?' ≤ c

-- The scheme in front of `://` and the rest, if the text has one. The two web schemes
-- are known in either case, and by four characters no scheme can be told.
def splitScheme (cs : List Char) : Except Error (Option (String × List Char)) :=
  if lower (String.ofList (cs.take 7)) = "http://" then .ok (some ("http", cs.drop 7))
  else if lower (String.ofList (cs.take 8)) = "https://" then .ok (some ("https", cs.drop 8))
  else if cs.length ≤ 3 then .ok none
  else
    match cs.dropWhile isSchemeChar with
    | ':' :: '/' :: '/' :: rest =>
      let name := cs.takeWhile isSchemeChar
      if name.length > 64 then .error .schemeTooLong
      else .ok (some (String.ofList name, rest))
    | _ => .ok none

-- What has been seen of an authority. Colons and percent signs count since the last
-- `@` or closing bracket only.
structure AuthorityScan where
  colons : Nat
  percent : Bool
  opened : Bool
  closed : Bool
  atSign : Bool

def AuthorityScan.start : AuthorityScan := ⟨0, false, false, false, false⟩

def AuthorityScan.next (scan : AuthorityScan) (c : Char) : Except Error AuthorityScan :=
  let scan := { scan with atSign := false }
  match c with
  | ':' =>
    if scan.colons ≥ 8 then .error .invalidAuthority else .ok { scan with colons := scan.colons + 1 }
  | '[' =>
    if scan.percent || scan.opened then .error .invalidAuthority
    else .ok { scan with opened := true }
  | ']' =>
    if !scan.opened || scan.closed then .error .invalidAuthority
    else .ok { scan with closed := true, colons := 0, percent := false }
  | '@' => .ok { scan with colons := 0, percent := false, atSign := true }
  | '%' => .ok { scan with percent := true }
  | c => if isPlainChar c then .ok scan else .error .invalidCharacter

-- Brackets come in pairs, one colon may set off a port, and percent signs belong to
-- the user information or to brackets.
def AuthorityScan.isWhole (scan : AuthorityScan) : Bool :=
  scan.opened == scan.closed && scan.colons ≤ 1 && !scan.atSign && !scan.percent

-- The authority at the front and the rest. An empty text has none.
def splitAuthority (cs : List Char) : Except Error (List Char × List Char) := do
  if cs.isEmpty then throw .empty
  let authority := cs.takeWhile fun c => !endsAuthority c
  let scan ← authority.foldlM AuthorityScan.next .start
  if scan.isWhole then return (authority, cs.dropWhile fun c => !endsAuthority c)
  else throw .invalidAuthority

-- The path and the query. A fragment is dropped unread.
def splitPath (cs : List Char) : Except Error (String × Option String) :=
  let path := cs.takeWhile isPathChar
  match cs.dropWhile isPathChar with
  | [] => .ok (String.ofList path, none)
  | '#' :: _ => .ok (String.ofList path, none)
  | '?' :: rest =>
    match rest.dropWhile isQueryChar with
    | [] | '#' :: _ => .ok (String.ofList path, some (String.ofList (rest.takeWhile isQueryChar)))
    | _ => .error .invalidCharacter
  | _ => .error .invalidCharacter

-- A bare authority has no path at all.
def ofAuthority (authority : List Char) : Uri := ⟨none, some (String.ofList authority), "", none⟩

-- An absolute URI. Its empty path reads as the root.
def parseAbsolute (scheme : String) (cs : List Char) : Except Error Uri := do
  let (authority, rest) ← splitAuthority cs
  if authority.isEmpty then throw .invalidFormat
  let (path, query) ← splitPath rest
  return ⟨some scheme, some (String.ofList authority), if path.isEmpty then "/" else path, query⟩

-- Reads an absolute URI, a path with a slash in front, an asterisk or an authority.
def parse (text : String) : Except Error Uri := do
  if (octets text).length > 65534 then throw .tooLong
  match text.toList with
  | [] => throw .empty
  | ['/'] => return ⟨none, none, "/", none⟩
  | ['*'] => return ⟨none, none, "*", none⟩
  | [c] =>
    let (authority, rest) ← splitAuthority [c]
    if rest.isEmpty then return ofAuthority authority else throw .invalidCharacter
  | '/' :: cs =>
    let (path, query) ← splitPath ('/' :: cs)
    return ⟨none, none, path, query⟩
  | cs =>
    match ← splitScheme cs with
    | some (scheme, rest) => parseAbsolute scheme rest
    | none =>
      let (authority, rest) ← splitAuthority cs
      if rest.isEmpty then return ofAuthority authority else throw .invalidFormat

end Uri

end RoutingProcessor.Net
