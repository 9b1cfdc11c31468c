import RoutingProcessor.Text.Ascii
import RoutingProcessor.Yaml.Cursor
import RoutingProcessor.Yaml.Token

namespace RoutingProcessor.Yaml.Tag

open Text

-- The characters of a tag. A tag in angle brackets may hold flow marks too.
def isTagChar (verbatim : Bool) (c : Char) : Bool :=
  isNameChar c || ";/?:@&=+$.!~*'()".contains c || (verbatim && ",[]".contains c)

-- The octets that follow each other as escapes, two hexadecimal digits behind a
-- percent sign each.
def escapedOctet? : List Char → Option (UInt8 × List Char)
  | '%' :: a :: b :: rest => do
    let a ← hexDigit? a
    let b ← hexDigit? b
    return ((a * 16 + b).toUInt8, rest)
  | _ => none

-- Octets of one character in UTF-8, written as escapes.
def escapedChar? (text : List Char) : Option (Char × List Char) := do
  let (lead, rest) ← escapedOctet? text
  let more ← (Utf8.Lead.of? lead).map (·.more)
  let (octets, rest) ← (List.range more).foldlM (fun (octets, rest) _ => do
    let (octet, rest) ← escapedOctet? rest
    return (octets ++ [octet], rest)) ([lead], rest)
  match Utf8.pieces octets with
  | [some c] => some (c, rest)
  | _ => none

-- The rest of a tag, with its escapes read.
def uri (verbatim : Bool) : (text : List Char) → Option (List Char × List Char)
  | [] => some ([], [])
  | c :: rest =>
    if c = '%' then
      match escapedChar? (c :: rest) with
      | none => none
      | some (d, next) =>
        if _h : next.length < rest.length then
          (uri verbatim next).map fun (text, rest) => (d :: text, rest)
        else none
    else if isTagChar verbatim c then (uri verbatim rest).map fun (text, rest) => (c :: text, rest)
    else some ([], c :: rest)
termination_by text => text.length
decreasing_by all_goals simp only [List.length_cons]; omega

-- A handle: an exclamation mark, name letters, and maybe another mark.
def handle? : List Char → Option (List Char × List Char)
  | '!' :: rest =>
    let name := rest.takeWhile isNameChar
    match rest.dropWhile isNameChar with
    | '!' :: rest => some ('!' :: name ++ ['!'], rest)
    | rest => some ('!' :: name, rest)
  | _ => none

def isFullHandle (handle : List Char) : Bool := 1 < handle.length && handle.getLast? == some '!'

-- The tag that starts here. What looks like an unfinished handle is the start of the
-- suffix of the primary handle.
def name? (text : List Char) : Option (TagName × List Char) :=
  match text with
  | '!' :: '<' :: rest => do
    let (suffix, rest) ← uri true rest
    match rest with
    | '>' :: rest => if suffix.isEmpty then none else some (⟨"", String.ofList suffix⟩, rest)
    | _ => none
  | _ => do
    let (handle, rest) ← handle? text
    let (suffix, rest) ← uri false rest
    if isFullHandle handle then
      if suffix.isEmpty then none
      else return (⟨String.ofList handle, String.ofList suffix⟩, rest)
    else
      let suffix := handle.drop 1 ++ suffix
      if suffix.isEmpty then return (⟨"", "!"⟩, rest)
      else return (⟨"!", String.ofList suffix⟩, rest)

-- A tag, with the word that it is ending behind it. In a flow collection a comma may
-- follow as well.
def read (inFlow : Bool) (c : Cursor) : Option (TagName × Cursor) := do
  let (name, rest) ← name? c.rest
  if endsWord rest || (inFlow && rest.head? = some ',') then
    return (name, c.skip (c.rest.length - rest.length))
  else none

end RoutingProcessor.Yaml.Tag
