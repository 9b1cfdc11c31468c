import RoutingProcessor.Text.Utf8

namespace RoutingProcessor.Yaml

-- Every way to end a line is one break. Only the two separators of Unicode keep
-- their own character.
def withPlainBreaks : List Char → List Char
  | '\r' :: '\n' :: rest => '\n' :: withPlainBreaks rest
  | '\r' :: rest => '\n' :: withPlainBreaks rest
  | '\u0085' :: rest => '\n' :: withPlainBreaks rest
  | c :: rest => c :: withPlainBreaks rest
  | [] => []

def isBreak (c : Char) : Bool := c == '\n' || c == '\u2028' || c == '\u2029'

def isBlank (c : Char) : Bool := c == ' ' || c == '\t'

-- Whether a word ends here: at a blank, a break or the end of the text.
def endsWord : List Char → Bool
  | [] => true
  | c :: _ => isBlank c || isBreak c

-- The letters of names: of anchors, handles and directives.
def isNameChar (c : Char) : Bool :=
  ('0' ≤ c && c ≤ '9') || ('A' ≤ c && c ≤ 'Z') || ('a' ≤ c && c ≤ 'z') || c == '_' || c == '-'

-- Control characters other than tab and the line breaks must be escaped.
def isAllowed (c : Char) : Bool :=
  c == '\t' || c == '\n' || c == '\r' || (' ' ≤ c && c ≤ '~') || c == '\u0085' ||
    ('\u00A0' ≤ c && c ≤ '\uD7FF') || ('\uE000' ≤ c && c ≤ '\uFFFD') || 0x10000 ≤ c.toNat

-- A place in a text. Lines and columns are counted from zero.
structure Cursor where
  rest : List Char
  line : Nat
  column : Nat

namespace Cursor

def start (text : List Char) : Cursor := ⟨withPlainBreaks text, 0, 0⟩

-- Goes over characters of the same line.
def skip (n : Nat) (c : Cursor) : Cursor := ⟨c.rest.drop n, c.line, c.column + n⟩

def skipWhile (p : Char → Bool) (c : Cursor) : Cursor := c.skip (c.rest.takeWhile p).length

-- Goes over the break at the end of a line.
def skipBreak (c : Cursor) : Cursor := ⟨c.rest.drop 1, c.line + 1, 0⟩

def skipLine (c : Cursor) : Cursor := c.skipWhile fun d => !isBreak d

-- Goes over blanks, and over a comment if one starts there.
def skipComment (c : Cursor) : Cursor :=
  let c := c.skipWhile isBlank
  if c.rest.head? = some '#' then c.skipLine else c

-- The start of the next line, if nothing but blanks and a comment stands before it.
def nextLine? (c : Cursor) : Option Cursor :=
  let c := c.skipComment
  match c.rest with
  | [] => some c
  | d :: _ => if isBreak d then some c.skipBreak else none

end Cursor

-- Whether one of the two marks between documents stands here. They count only at the
-- start of a line.
def isDocumentMark : List Char → Bool
  | '-' :: '-' :: '-' :: rest => endsWord rest
  | '.' :: '.' :: '.' :: rest => endsWord rest
  | _ => false

end RoutingProcessor.Yaml
