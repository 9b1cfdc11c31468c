import RoutingProcessor.Yaml.Cursor
import RoutingProcessor.Yaml.Meaning

namespace RoutingProcessor.Yaml.Print

-- The characters that may be written as they are.
def isPrintable (c : Char) : Bool :=
  c == '\n' || (' ' ≤ c && c ≤ '~') || ('\u00A0' ≤ c && c ≤ '\uFFFD' && c != '\uFEFF')

-- Where a word ends in the eyes of a reader.
def isGap (c : Char) : Bool :=
  isBlank c || isBreak c || c == '\r' || c == '\u0085' || c == '\x00'

def pairs (cs : List Char) : List (Char × Char) := cs.zip (cs.drop 1)

def isUnprintable (cs : List Char) : Bool := cs.any fun c => !isPrintable c

def hasSpaceBeforeBreak (cs : List Char) : Bool :=
  (pairs cs).any fun (a, b) => a == ' ' && isBreak b

def hasSpaceAfterBreak (cs : List Char) : Bool :=
  (pairs cs).any fun (a, b) => isBreak a && b == ' '

-- Whether a text starts with what would be read as something else.
def startsAsMark (cs : List Char) : Bool :=
  match cs with
  | '-' :: '-' :: '-' :: _ | '.' :: '.' :: '.' :: _ => true
  | c :: rest =>
    "#,[]\x7b\x7d&*!|>'\"%@\x60".contains c || ("?:-".contains c && rest.head?.all isGap)
  | [] => false

-- Whether a text holds the mark of a key or of a comment.
def holdsMark (cs : List Char) : Bool :=
  cs.getLast? == some ':' ||
    (pairs cs).any fun (a, b) => (a == ':' && isGap b) || (isGap a && b == '#')

-- Whether a text keeps its meaning without quotes, as far as its characters go.
def allowsPlain (cs : List Char) : Bool :=
  !isUnprintable cs && !cs.any isBreak && cs.head? != some ' ' && cs.getLast? != some ' ' &&
    !startsAsMark cs && !holdsMark cs

def allowsSingle (cs : List Char) : Bool :=
  !isUnprintable cs && !hasSpaceBeforeBreak cs && !hasSpaceAfterBreak cs

def allowsBlock (cs : List Char) : Bool :=
  !isUnprintable cs && !hasSpaceBeforeBreak cs && cs.getLast? != some ' '

-- A text that would be read as something else without quotes.
def needsQuotes (text : String) : Bool :=
  Meaning.ofPlain text != .text || Meaning.isZeroPadded text.toList

def spaces (n : Nat) : List Char := List.replicate n ' '

-- The lines of a text, each but the first indented where it starts.
def indented (indent : Nat) : (afterBreak : Bool) → List Char → List Char
  | _, [] => []
  | afterBreak, c :: rest =>
    if isBreak c then c :: indented indent true rest
    else (if afterBreak then spaces indent else []) ++ c :: indented indent false rest

-- Between single quotes a quote is written twice.
def single (indent : Nat) (cs : List Char) : List Char :=
  let inner := cs.flatMap fun c => if c = '\'' then ['\'', '\''] else [c]
  let closing := if cs.getLast?.any isBreak then spaces indent else []
  '\'' :: indented indent false inner ++ closing ++ ['\'']

def escapes : List (Char × Char) := [
  ('\x00', '0'), ('\x07', 'a'), ('\x08', 'b'), ('\t', 't'), ('\n', 'n'), ('\x0B', 'v'),
  ('\x0C', 'f'), ('\r', 'r'), ('\x1B', 'e'), ('"', '"'), ('\\', '\\'), ('\u0085', 'N'),
  ('\u2028', 'L'), ('\u2029', 'P')]

-- Upper-case hexadecimal digits with zeros in front.
def hex (width n : Nat) : List Char :=
  let digits := (Text.hexDigits n).map Char.toUpper
  List.replicate (width - digits.length) '0' ++ digits

def escaped (c : Char) : List Char :=
  match escapes.lookup c with
  | some letter => ['\\', letter]
  | none =>
    let code := c.toNat
    if isPrintable c then [c]
    else if code ≤ 0xFF then '\\' :: 'x' :: hex 2 code
    else if code ≤ 0xFFFF then '\\' :: 'u' :: hex 4 code
    else '\\' :: 'U' :: hex 8 code

def double (cs : List Char) : List Char := '"' :: cs.flatMap escaped ++ ['"']

-- The signs behind the mark of a block scalar: the indentation if the text itself
-- starts with white space, and what becomes of the breaks at its end.
def blockSigns (cs : List Char) : List Char :=
  (if cs.head?.any fun c => c == ' ' || isBreak c then ['2'] else []) ++
    match cs.reverse with
    | a :: rest => if !isBreak a then ['-'] else if rest.head?.all isBreak then ['+'] else []
    | [] => ['-']

def literal (indent : Nat) (cs : List Char) : List Char :=
  '|' :: blockSigns cs ++ '\n' :: indented indent true cs

-- A text as a value whose further lines stand at a column, and the break behind it.
def text (indent : Nat) (text : String) : List Char :=
  let cs := text.toList
  let body :=
    if cs.contains '\n' then if allowsBlock cs then literal indent cs else double cs
    else if !needsQuotes text && allowsPlain cs then cs
    else if allowsSingle cs then single indent cs
    else double cs
  body ++ if body.getLast?.any isBreak then [] else ['\n']

end RoutingProcessor.Yaml.Print
