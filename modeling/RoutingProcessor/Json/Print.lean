import RoutingProcessor.Text.Ascii

namespace RoutingProcessor.Json

open Text

-- Control characters must be escaped, the common ones by a letter.
def escape (c : Char) : List Char :=
  if c = '"' then ['\\', '"']
  else if c = '\\' then ['\\', '\\']
  else if c = '\x08' then ['\\', 'b']
  else if c = '\x0C' then ['\\', 'f']
  else if c = '\n' then ['\\', 'n']
  else if c = '\r' then ['\\', 'r']
  else if c = '\t' then ['\\', 't']
  else if c < ' ' then
    let digits := hexDigits c.toNat
    ['\\', 'u'] ++ List.replicate (4 - digits.length) '0' ++ digits
  else [c]

def quote (text : String) : String := String.ofList ('"' :: text.toList.flatMap escape ++ ['"'])

-- An object whose values are written already, without white space.
def object (members : List (String × String)) : String :=
  "\x7b" ++ String.intercalate "," (members.map fun (key, value) => quote key ++ ":" ++ value) ++
    "\x7d"

-- An object of texts.
def textObject (members : List (String × String)) : String :=
  object (members.map fun (key, value) => (key, quote value))

end RoutingProcessor.Json
