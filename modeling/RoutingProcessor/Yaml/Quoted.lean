import RoutingProcessor.Text.Ascii
import RoutingProcessor.Yaml.Gap

namespace RoutingProcessor.Yaml.Quoted

-- The text up to the closing quote, and the place behind it. A quote inside is
-- written twice.
def single (gap : Gap) : (text : List Char) → (line column : Nat) → Option (List Char × Cursor)
  | [], _, _ => none
  | c :: rest, line, column =>
    if isBlank c then single (gap.addBlank c) rest line (column + 1)
    else if isBreak c then single (gap.addBreak c) rest (line + 1) 0
    else if column = 0 && isDocumentMark (c :: rest) then none
    else if c = '\'' then
      match rest with
      | '\'' :: rest =>
        (single .empty rest line (column + 2)).map fun (text, c) => (gap.folded ++ '\'' :: text, c)
      | rest => some (gap.folded, ⟨rest, line, column + 1⟩)
    else (single .empty rest line (column + 1)).map fun (text, d) => (gap.folded ++ c :: text, d)

-- The characters with an escape of one letter.
def escapes : List (Char × Char) := [
  ('0', '\x00'), ('a', '\x07'), ('b', '\x08'), ('t', '\t'), ('\t', '\t'), ('n', '\n'),
  ('v', '\x0B'), ('f', '\x0C'), ('r', '\r'), ('e', '\x1B'), (' ', ' '), ('"', '"'), ('/', '/'),
  ('\\', '\\'), ('N', '\u0085'), ('_', '\u00A0'), ('L', '\u2028'), ('P', '\u2029')]

-- How many hexadecimal digits follow the letter of an escape.
def escapeWidths : List (Char × Nat) := [('x', 2), ('u', 4), ('U', 8)]

-- The character with this code point in hexadecimal. Surrogates are no characters.
def charOfHex? (digits : List Char) : Option Char := do
  let digits ← digits.mapM Text.hexDigit?
  let code := digits.foldl (fun n d => n * 16 + d) 0
  if 0x10FFFF < code || (0xD800 ≤ code && code ≤ 0xDFFF) then none else some (Char.ofNat code)

-- What an escape stands for, and how many characters it takes behind its letter.
def escape? (letter : Char) (rest : List Char) : Option (Char × Nat) :=
  match escapes.lookup letter, escapeWidths.lookup letter with
  | some c, _ => some (c, 0)
  | none, some width =>
    if (rest.take width).length = width then (charOfHex? (rest.take width)).map (·, width) else none
  | none, none => none

-- As `single`, with escapes instead of doubled quotes.
def double (gap : Gap) : (text : List Char) → (line column : Nat) → Option (List Char × Cursor)
  | [], _, _ => none
  | c :: rest, line, column =>
    if isBlank c then double (gap.addBlank c) rest line (column + 1)
    else if isBreak c then double (gap.addBreak c) rest (line + 1) 0
    else if column = 0 && isDocumentMark (c :: rest) then none
    else if c = '"' then some (gap.folded, ⟨rest, line, column + 1⟩)
    else if c = '\\' then
      match rest with
      | [] => none
      | d :: rest =>
        if isBreak d then
          (double (.breaks none []) rest (line + 1) 0).map fun (text, c) => (gap.folded ++ text, c)
        else
          match escape? d rest with
          | none => none
          | some (e, width) =>
            (double .empty (rest.drop width) line (column + 2 + width)).map fun (text, c) =>
              (gap.folded ++ e :: text, c)
    else (double .empty rest line (column + 1)).map fun (text, d) => (gap.folded ++ c :: text, d)
termination_by text => text.length
decreasing_by all_goals simp only [List.length_cons, List.length_drop]; omega

end RoutingProcessor.Yaml.Quoted
