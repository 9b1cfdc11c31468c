namespace RoutingProcessor.Text

-- A value with its parts, for a form that takes several lines.
inductive Outline where
  | atom (text : String)
  | tuple (name : String) (items : List Outline)
  | record (name : String) (fields : List (String × Outline))

namespace Outline

-- Puts text in front of the first line and behind the last.
def enclose (front back : String) : List String → List String
  | [] => [front ++ back]
  | [line] => [front ++ line ++ back]
  | line :: lines => (front ++ line) :: (lines.dropLast ++ [lines.getLastD "" ++ back])

-- One part: indented, and with a comma behind it.
def part (label : String) (lines : List String) : List String :=
  (enclose label "," lines).map ("    " ++ ·)

mutual

def lines : Outline → List String
  | atom text => [text]
  | tuple name items =>
    if items.isEmpty then [name] else (name ++ "(") :: itemLines items ++ [")"]
  | record name fields =>
    if fields.isEmpty then [name]
    else (name ++ " \x7b") :: fieldLines fields ++ ["\x7d"]

def itemLines : List Outline → List String
  | [] => []
  | item :: items => part "" item.lines ++ itemLines items

def fieldLines : List (String × Outline) → List String
  | [] => []
  | (name, value) :: fields => part (name ++ ": ") value.lines ++ fieldLines fields

end

def print (outline : Outline) : String := String.intercalate "\n" outline.lines

end Outline

end RoutingProcessor.Text
