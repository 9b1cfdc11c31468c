import RoutingProcessor.Yaml.Gap

namespace RoutingProcessor.Yaml.Plain

-- The characters that give a flow collection its shape.
def isFlowMark (c : Char) : Bool := c == ',' || c == '[' || c == ']' || c == '\x7b' || c == '\x7d'

-- Whether a colon with such a rest ends a word that may serve as a key.
def endsKey (c : Char) (rest : List Char) : Bool := c == ':' && endsWord rest

-- In a flow collection a colon must not touch what gives the collection its shape.
def clashes (c : Char) (rest : List Char) : Bool :=
  c == ':' && rest.head?.any fun d => isFlowMark d || d == '?'

-- Whether the words before the gap are all there is. Lines that go on a scalar are
-- indented deeper than what it belongs to.
def stopsAfter (gap : Gap) (inFlow : Bool) (indent : Nat) (text : List Char) (column : Nat) : Bool :=
  gap != .empty && ((!inFlow && column < indent) || text.head? == some '#' ||
    (column == 0 && isDocumentMark text))

-- The text of a scalar without quotes, the place behind it and the white space that
-- follows it, and whether a line ended in that white space.
def read (inFlow : Bool) (indent : Nat) (gap : Gap) :
    (text : List Char) → (line column : Nat) → Option (List Char × Cursor × Bool)
  | [], line, column => some ([], ⟨[], line, column⟩, gap.hasBreak)
  | c :: rest, line, column =>
    if isBlank c then
      if gap.hasBreak && column < indent && c == '\t' then none
      else read inFlow indent (gap.addBlank c) rest line (column + 1)
    else if isBreak c then read inFlow indent (gap.addBreak c) rest (line + 1) 0
    else if stopsAfter gap inFlow indent (c :: rest) column then
      some ([], ⟨c :: rest, line, column⟩, gap.hasBreak)
    else if inFlow && clashes c rest then none
    else if endsKey c rest || (inFlow && isFlowMark c) then
      some ([], ⟨c :: rest, line, column⟩, gap.hasBreak)
    else
      (read inFlow indent .empty rest line (column + 1)).map fun (text, d) =>
        (gap.folded ++ c :: text, d)

end RoutingProcessor.Yaml.Plain
