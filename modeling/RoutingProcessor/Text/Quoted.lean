import RoutingProcessor.Text.Ascii
import RoutingProcessor.Text.Property

namespace RoutingProcessor.Text.Quoted

-- One character inside quotes. What cannot be seen, or would merge with the
-- character before it, is written as its code point.
def escape (c : Char) : List Char :=
  if c = '"' then ['\\', '"']
  else if c = '\\' then ['\\', '\\']
  else if c = '\n' then ['\\', 'n']
  else if c = '\r' then ['\\', 'r']
  else if c = '\t' then ['\\', 't']
  else if c = '\x00' then ['\\', '0']
  else if ' ' ≤ c && c ≤ '~' then [c]
  else if isUnprintable c || isGraphemeExtend c then
    ['\\', 'u', '\x7b'] ++ hexDigits c.toNat ++ ['\x7d']
  else [c]

-- The text between double quotes.
def quote (text : String) : String :=
  String.ofList ('"' :: text.toList.flatMap escape ++ ['"'])

end RoutingProcessor.Text.Quoted
