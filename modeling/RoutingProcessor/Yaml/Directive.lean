import RoutingProcessor.Number.Digits
import RoutingProcessor.Yaml.Tag

namespace RoutingProcessor.Yaml.Directive

open Text

-- A number of at most nine digits.
def number? (text : List Char) : Option (Nat × List Char) :=
  let digits := text.takeWhile isDigit
  if digits.isEmpty || 9 < digits.length then none
  else some (Number.ofDigits digits, text.dropWhile isDigit)

def version? (text : List Char) : Option (Token × List Char) := do
  let (major, rest) ← number? text
  match rest with
  | '.' :: rest =>
    let (minor, rest) ← number? rest
    return (.version major minor, rest)
  | _ => none

-- A handle and what it stands for.
def handle? (text : List Char) : Option (Token × List Char) := do
  let (name, rest) ← Tag.handle? text
  if name ≠ ['!'] && !Tag.isFullHandle name then none
  else
    match rest with
    | [] => none
    | c :: _ =>
      if !isBlank c then none
      else
        let (start, rest) ← Tag.uri true (rest.dropWhile isBlank)
        if start.isEmpty || !endsWord rest then none
        else return (.handle (String.ofList name) (String.ofList start), rest)

-- The directive that starts here and the line behind it. Only the version and the
-- handles of tags are known.
def read (c : Cursor) : Option (Token × Cursor) := do
  let text := c.rest.drop 1
  let name := text.takeWhile isNameChar
  let rest := text.dropWhile isNameChar
  if !endsWord rest then none
  else
    let value := rest.dropWhile isBlank
    let (token, rest) ←
      if name = "YAML".toList then version? value
      else if name = "TAG".toList then handle? value
      else none
    let next ← (c.skip (c.rest.length - rest.length)).nextLine?
    return (token, next)

end RoutingProcessor.Yaml.Directive
