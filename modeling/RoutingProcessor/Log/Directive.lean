import RoutingProcessor.Log.Event
import RoutingProcessor.Number.Digits
import RoutingProcessor.Text.Property

namespace RoutingProcessor.Log

open Text

-- The least important level that is written, or nothing at all.
inductive Threshold where
  | off
  | upTo (level : Level)
deriving DecidableEq

namespace Threshold

def verbosity : Threshold → Nat
  | off => 0
  | upTo level => level.verbosity

def all : List (Threshold × String) := [
  (off, "off"), (upTo .error, "error"), (upTo .warn, "warn"), (upTo .info, "info"),
  (upTo .debug, "debug"), (upTo .trace, "trace")]

def name (threshold : Threshold) : String := (all.lookup threshold).getD ""

-- A level by its name in any case, or by its number.
def parse? (text : String) : Option Threshold :=
  match Number.parseBelow 6 text with
  | .ok n => (all[n]?).map (·.1)
  | .error _ =>
    if text = "" then some (upTo .error)
    else (all.find? fun entry => sameLetters entry.2 text).map (·.1)

def max (a b : Threshold) : Threshold := if a.verbosity < b.verbosity then b else a

end Threshold

-- A field that a span must have, possibly with a value.
structure FieldMatch where
  name : String
  value : Option String
deriving DecidableEq

namespace FieldMatch

def parse (cs : List Char) : FieldMatch :=
  match cs.splitOn '=' with
  | name :: value :: _ => ⟨String.ofList name, some (String.ofList value)⟩
  | _ => ⟨String.ofList cs, none⟩

def print (field : FieldMatch) : String :=
  field.name ++ match field.value with
    | some value => "=" ++ value
    | none => ""

end FieldMatch

-- What is written of a part of the program, possibly only inside of certain spans.
structure Directive where
  target : Option String
  span : Option String
  fields : List FieldMatch
  level : Threshold
deriving DecidableEq

namespace Directive

def ofLevel (level : Threshold) : Directive := ⟨none, none, [], level⟩

-- Where the reader of a directive stands, with the position at which a part began.
inductive State where
  | start
  | levelOrTarget (start : Nat)
  | span (start : Nat)
  | field (start : Nat)
  | fields
  | target
  | level (start : Nat)

-- Letters and digits, with every visible character outside of ASCII among them.
def isWordChar (c : Char) : Bool :=
  if c.toNat < 128 then isLetter c || isDigit c
  else !isUnprintable c && !isBlank c && !isGraphemeExtend c

-- Takes the character at position `i`. Parts are cut out of the text as it was given.
def next? (text : List Char) (directive : Directive) (state : State) (i : Nat) (c : Char) :
    Option (Directive × State) :=
  let part (start : Nat) := (text.drop start).take (i - start)
  match state with
  | .start =>
    if c = '[' then some (directive, .span (i + 1))
    else if c = '-' || c = ':' || c = '_' || isWordChar c then some (directive, .levelOrTarget i)
    else none
  | .levelOrTarget start =>
    let found := { directive with target := some (String.ofList (part start)) }
    if c = '=' then some (found, .level (i + 1))
    else if c = '[' then some (found, .span (i + 1))
    else some (directive, state)
  | .span start =>
    if c = ']' then some ({ directive with span := some (String.ofList (part start)) }, .target)
    else if c = '\x7b' then
      let span := if (part start).isEmpty then none else some (String.ofList (part start))
      some ({ directive with span }, .field (i + 1))
    else some (directive, state)
  | .field start =>
    if c = '\x7d' then
      if (part start).isEmpty then none
      else some ({ directive with fields := directive.fields ++ [.parse (part start)] }, .fields)
    else some (directive, state)
  | .fields => if c = ']' then some (directive, .target) else none
  | .target => if c = '=' then some (directive, .level (i + 1)) else none
  | .level _ => some (directive, state)

-- What the end of the text makes of a state.
def finish? (text : List Char) (directive : Directive) : State → Option Directive
  | .levelOrTarget start =>
    let rest := String.ofList (text.drop start)
    match if rest = "" then none else Threshold.parse? rest with
    | some level => some { directive with level }
    | none => some { directive with target := if rest = "" then none else some rest }
  | .level start =>
    let rest := String.ofList (text.drop start)
    if rest = "" then some directive
    else (Threshold.parse? rest).map fun level => { directive with level }
  | .target => some directive
  | _ => none

def readFrom? (text : List Char) (directive : Directive) (state : State) (i : Nat) :
    List Char → Option Directive
  | [] => directive.finish? text state
  | c :: rest => do
    let (directive, state) ← directive.next? text state i c
    directive.readFrom? text state (i + 1) rest

-- Reads `target[span{field}]=level`, of which every part may be missing. A target
-- alone lets everything through. Blanks around the text are not walked over, but count
-- where a part reaches them.
def parse? (text : String) : Option Directive :=
  readFrom? text.toList ⟨none, none, [], .upTo .trace⟩ .start 0 (trimmed text.toList)

-- Whether a directive looks at spans.
def isDynamic (directive : Directive) : Bool := directive.span.isSome || !directive.fields.isEmpty

-- Whether the part of a directive that does not depend on spans stands on its own.
def isStatic (directive : Directive) : Bool :=
  directive.span.isNone && directive.fields.all fun field => field.value.isNone

def print (directive : Directive) : String :=
  let target := directive.target.getD ""
  let fields :=
    if directive.fields.isEmpty then ""
    else "\x7b" ++ String.intercalate "," (directive.fields.map FieldMatch.print) ++ "\x7d"
  let spans := if directive.isDynamic then "[" ++ directive.span.getD "" ++ fields ++ "]" else ""
  let front := target ++ spans
  if directive.target.isSome || directive.isDynamic then front ++ "=" ++ directive.level.name
  else directive.level.name

-- The order of directives: longer targets first, then those with a span, then those
-- with more fields, then by the names backwards.
def key (directive : Directive) : List Nat :=
  (match directive.target with
    | some target => target.utf8ByteSize + 1
    | none => 0) :: [if directive.span.isSome then 1 else 0, directive.fields.length]

def precedes (a b : Directive) : Bool :=
  if a.key ≠ b.key then b.key < a.key
  else
    let names (d : Directive) : List String :=
      d.target.toList ++ d.span.toList ++ d.fields.map FieldMatch.print
    names b < names a

def sameSubject (a b : Directive) : Bool :=
  a.target = b.target && a.span = b.span && a.fields = b.fields

end Directive

end RoutingProcessor.Log
