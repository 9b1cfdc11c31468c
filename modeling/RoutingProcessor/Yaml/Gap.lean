import RoutingProcessor.Yaml.Cursor

namespace RoutingProcessor.Yaml

-- The white space between two words of a scalar: blanks on one line, or breaks with
-- the blanks around them gone. An escaped break gives no first break.
inductive Gap where
  | blanks (cs : List Char)
  | breaks (first : Option Char) (more : List Char)
deriving DecidableEq

namespace Gap

def empty : Gap := blanks []

def addBlank : Gap → Char → Gap
  | blanks cs, c => blanks (cs ++ [c])
  | breaks first more, _ => breaks first more

def addBreak : Gap → Char → Gap
  | blanks _, c => breaks (some c) []
  | breaks first more, c => breaks first (more ++ [c])

def hasBreak : Gap → Bool
  | blanks _ => false
  | breaks _ _ => true

-- What stands for the gap: a single break becomes a space, of several the first is
-- left out.
def folded : Gap → List Char
  | blanks cs => cs
  | breaks (some '\n') [] => [' ']
  | breaks (some '\n') more => more
  | breaks first more => first.toList ++ more

end Gap

end RoutingProcessor.Yaml
