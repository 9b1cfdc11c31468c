import RoutingProcessor.Yaml.Block
import RoutingProcessor.Yaml.Directive
import RoutingProcessor.Yaml.Plain
import RoutingProcessor.Yaml.Quoted

namespace RoutingProcessor.Yaml

-- A piece that turns out to be a key if a colon follows it.
structure MaybeKey where
  -- How many tokens stand before it.
  before : Nat
  line : Nat
  column : Nat
  -- At the column of a block mapping nothing but a key may stand.
  required : Bool

-- What has been read of a text, and what decides how the rest is read.
structure Layout where
  cursor : Cursor
  tokens : Array Token
  -- The columns of the open block collections, innermost first.
  indents : List Nat
  -- Whether a key may start here.
  keyAllowed : Bool
  maybeKey : Option MaybeKey
  -- The same for what surrounds each open flow collection, innermost first.
  outerKeys : List (Option MaybeKey)

namespace Layout

def start (text : List Char) : Layout := ⟨.start text, #[], [], true, none, []⟩

def inFlow (s : Layout) : Bool := !s.outerKeys.isEmpty

def push (s : Layout) (token : Token) : Layout := { s with tokens := s.tokens.push token }

-- A key ends on its line and within 1024 characters.
def expire (s : Layout) : Option MaybeKey → Option (Option MaybeKey)
  | none => some none
  | some key =>
    if key.line < s.cursor.line || key.column + 1024 < s.cursor.column then
      if key.required then none else some none
    else some (some key)

-- Gives up the keys that can no longer be completed.
def expireKeys (s : Layout) : Option Layout := do
  let maybeKey ← s.expire s.maybeKey
  let outerKeys ← s.outerKeys.mapM s.expire
  return { s with maybeKey, outerKeys }

def dropKey (s : Layout) : Option Layout :=
  if s.maybeKey.any (·.required) then none else some { s with maybeKey := none }

-- Notes that a key may start here.
def noteKey (s : Layout) : Option Layout := do
  if s.keyAllowed then
    let s ← s.dropKey
    return { s with maybeKey := some ⟨s.tokens.size, s.cursor.line, s.cursor.column,
      !s.inFlow && s.indents.head? == some s.cursor.column⟩ }
  else return s

-- Closes the block collections that stand deeper than a column, or all of them.
def closeTo (s : Layout) (column : Option Nat) : Layout :=
  if s.inFlow then s
  else
    let closed := s.indents.takeWhile fun indent => column.all (· < indent)
    { s with
      indents := s.indents.drop closed.length
      tokens := s.tokens ++ Array.replicate closed.length .blockEnd }

-- Opens a block collection in front of the token `before` if it stands deeper than
-- those that are open.
def openAt (s : Layout) (column before : Nat) (token : Token) : Layout :=
  if s.inFlow || s.indents.head?.any (column ≤ ·) then s
  else
    { s with
      indents := column :: s.indents
      tokens := s.tokens.insertIdxIfInBounds before token }

-- Ends what is open before a mark between documents or the end of the text.
def closeDocument (s : Layout) : Option Layout := do
  let s ← (s.closeTo none).dropKey
  return { s with keyAllowed := false }

-- The end of the text ends its last line.
def endStream (s : Layout) : Option Layout := do
  let s ← s.closeDocument
  return { s.push .streamEnd with cursor := s.cursor.skipBreak }

-- Goes over a token of `width` characters.
def mark (s : Layout) (token : Token) (width : Nat) : Layout :=
  { s.push token with cursor := s.cursor.skip width }

def documentMark (s : Layout) (token : Token) : Option Layout := do
  return (← s.closeDocument).mark token 3

def directive (s : Layout) : Option Layout := do
  let s ← s.closeDocument
  let (token, cursor) ← Directive.read s.cursor
  return { s.push token with cursor }

def openFlow (s : Layout) (token : Token) : Option Layout := do
  let s ← s.noteKey
  return { s.mark token 1 with
    keyAllowed := true, maybeKey := none, outerKeys := s.maybeKey :: s.outerKeys }

-- A closing mark where nothing is open is left for the grammar to refuse.
def closeFlow (s : Layout) (token : Token) : Option Layout := do
  let s ← s.dropKey
  return { s.mark token 1 with
    keyAllowed := false
    maybeKey := s.outerKeys.headD none
    outerKeys := s.outerKeys.drop 1 }

def flowEntry (s : Layout) : Option Layout := do
  let s ← s.dropKey
  return { s.mark .flowEntry 1 with keyAllowed := true }

-- Opens a block collection for an entry that starts with a mark of its own.
def openHere (s : Layout) (token : Token) : Option Layout :=
  if s.inFlow then some s
  else if !s.keyAllowed then none
  else some (s.openAt s.cursor.column s.tokens.size token)

def blockEntry (s : Layout) : Option Layout := do
  let s ← (← s.openHere .blockSequence).dropKey
  return { s.mark .blockEntry 1 with keyAllowed := true }

def explicitKey (s : Layout) : Option Layout := do
  let s ← (← s.openHere .blockMapping).dropKey
  return { s.mark .key 1 with keyAllowed := !s.inFlow }

-- A colon makes the piece before it a key. Without such a piece the key is empty or
-- was marked.
def value (s : Layout) : Option Layout :=
  match s.maybeKey with
  | some key =>
    let s := { s with
      tokens := s.tokens.insertIdxIfInBounds key.before .key, maybeKey := none, keyAllowed := false }
    some ((s.openAt key.column key.before .blockMapping).mark .value 1)
  | none => do
    let s ← s.openHere .blockMapping
    return { s.mark .value 1 with keyAllowed := !s.inFlow }

def mayFollowName (c : Char) : Bool := "?:,]\x7d%@\x60".contains c

-- A name behind a one-character mark. What may follow it is limited.
def named (s : Layout) (token : String → Token) : Option Layout := do
  let s ← s.noteKey
  let name := (s.cursor.rest.drop 1).takeWhile isNameChar
  let rest := s.cursor.rest.drop (1 + name.length)
  if name.isEmpty || !(endsWord rest || rest.head?.any mayFollowName) then none
  else return { s.mark (token (String.ofList name)) (1 + name.length) with keyAllowed := false }

def tag (s : Layout) : Option Layout := do
  let s ← s.noteKey
  let (name, cursor) ← Tag.read s.inFlow s.cursor
  return { s.push (.tag name) with cursor, keyAllowed := false }

def quoted (s : Layout) (style : Style)
    (read : Gap → List Char → Nat → Nat → Option (List Char × Cursor)) : Option Layout := do
  let s ← s.noteKey
  let start := s.cursor.skip 1
  let (text, cursor) ← read .empty start.rest start.line start.column
  return { s.push (.scalar (String.ofList text) style) with cursor, keyAllowed := false }

def plain (s : Layout) : Option Layout := do
  let s ← s.noteKey
  let c := s.cursor
  let (text, cursor, endsLine) ←
    Plain.read s.inFlow (s.indents.head?.elim 0 (· + 1)) .empty c.rest c.line c.column
  return { s.push (.scalar (String.ofList text) .plain) with cursor, keyAllowed := endsLine }

def block (s : Layout) (style : Style) : Option Layout := do
  let s ← s.dropKey
  let (text, cursor) ← Block.read (style == .folded) s.indents.head? (s.cursor.skip 1)
  return { s.push (.scalar (String.ofList text) style) with cursor, keyAllowed := true }

-- The characters that a scalar without quotes does not start with.
def isIndicator (c : Char) : Bool := "\t-?:,[]\x7b\x7d#&*!|>'\"%@\x60".contains c

-- The token that starts with `c`.
def token (s : Layout) (c : Char) (rest : List Char) : Option Layout :=
  let atStart := s.cursor.column = 0
  if atStart && c = '%' then s.directive
  else if atStart && isDocumentMark (c :: rest) then
    s.documentMark (if c = '-' then .documentStart else .documentEnd)
  else if c = '[' then s.openFlow .flowSequence
  else if c = '\x7b' then s.openFlow .flowMapping
  else if c = ']' then s.closeFlow .flowSequenceEnd
  else if c = '\x7d' then s.closeFlow .flowMappingEnd
  else if c = ',' then s.flowEntry
  else if c = '-' && endsWord rest then s.blockEntry
  else if c = '?' && (s.inFlow || endsWord rest) then s.explicitKey
  else if c = ':' && (s.inFlow || endsWord rest) then s.value
  else if c = '*' then s.named .reference
  else if c = '&' then s.named .anchor
  else if c = '!' then s.tag
  else if c = '|' && !s.inFlow then s.block .literal
  else if c = '>' && !s.inFlow then s.block .folded
  else if c = '\'' then s.quoted .singleQuoted Quoted.single
  else if c = '"' then s.quoted .doubleQuoted Quoted.double
  else if !isIndicator c || c = '-' || (!s.inFlow && (c = '?' || c = ':')) then s.plain
  else none

-- Goes over white space and comments. Behind a break a key may start, outside flow
-- collections. A tab may not stand where a key may start.
def skipSpace (s : Layout) : (text : List Char) → (line column : Nat) → (comment : Bool) → Layout
  | [], line, column, _ => { s with cursor := ⟨[], line, column⟩ }
  | c :: rest, line, column, comment =>
    if isBreak c then
      skipSpace { s with keyAllowed := s.keyAllowed || !s.inFlow } rest (line + 1) 0 false
    else if comment || c = '#' then skipSpace s rest line (column + 1) true
    else if c = ' ' || (c = '\t' && (s.inFlow || !s.keyAllowed)) then
      skipSpace s rest line (column + 1) false
    else { s with cursor := ⟨c :: rest, line, column⟩ }

-- A mark of the byte order may stand in front of everything.
def skipOrderMark (c : Cursor) : Cursor :=
  if c.line = 0 && c.column = 0 && c.rest.head? = some '\uFEFF' then c.skip 1 else c

-- Reads one more token.
def step (s : Layout) : Option Layout := do
  let c := skipOrderMark s.cursor
  let s ← (s.skipSpace c.rest c.line c.column false).expireKeys
  let s := s.closeTo s.cursor.column
  let s ← match s.cursor.rest with
    | [] => s.endStream
    | c :: rest => s.token c rest
  s.expireKeys

-- The tokens whose meaning is settled: those before a possible key, whatever follows.
def settled (s : Layout) : Array Token :=
  s.tokens.take ((s.maybeKey :: s.outerKeys).foldl
    (fun n key => key.elim n fun key => min n key.before) s.tokens.size)

-- Every token takes at least one character, so the length of the text bounds their
-- number.
def run : (most : Nat) → Layout → List Token
  | 0, s => (s.settled.push .broken).toList
  | most + 1, s =>
    match s.step with
    | none => (s.settled.push .broken).toList
    | some s => if s.tokens.back? = some .streamEnd then s.tokens.toList else run most s

end Layout

-- The tokens of a text. Nothing of a text that is not in UTF-8 or holds characters
-- that are not allowed can be read.
def tokens (octets : Text.Octets) : List Token :=
  match Text.Utf8.decode? octets with
  | none => [.broken]
  | some text =>
    if text.toList.all isAllowed then Layout.run (text.length + 1) (.start text.toList)
    else [.broken]

end RoutingProcessor.Yaml
