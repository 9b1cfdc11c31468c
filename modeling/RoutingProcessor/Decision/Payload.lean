import RoutingProcessor.Json.Found
import RoutingProcessor.Json.Skip

namespace RoutingProcessor.Decision

open Text Json

namespace Payload

-- What a place in the document is for.
inductive Wanted where
  | payload
  | text
deriving DecidableEq

def Wanted.describe : Wanted → String
  | payload => "struct RoutingDecision"
  | text => "a string"

-- Why a well-formed document is no decision.
inductive Mismatch where
  | missing
  | repeated
  | emptyList
  | wrongType (found : Found) (wanted : Wanted)
deriving DecidableEq

def Mismatch.message : Mismatch → String
  | missing => "missing field `decision`"
  | repeated => "duplicate field `decision`"
  | emptyList => "invalid length 0, expected struct RoutingDecision with 1 element"
  | wrongType found wanted => "invalid type: " ++ found.describe ++ ", expected " ++ wanted.describe

-- Why a body is no decision: it ends too early, is broken, or says something else.
inductive Error where
  | ended
  | malformed
  | mismatch (reason : Mismatch)
deriving DecidableEq

-- What a text is read for. A key knows the decision found so far.
inductive Role where
  | key (found : Option String)
  | decision
  | element
  | stray (wanted : Wanted)
deriving DecidableEq

-- Where the reader of a body stands. Members carry the decision found so far.
inductive State where
  | start
  | list
  | listEnd (decision : String)
  | members (found : Option String) (isFirst : Bool)
  | nextKey (found : Option String)
  | colon (found : Option String) (isDecision : Bool)
  | decisionValue
  | text (role : Role) (value : Octets) (phase : TextPhase)
  | skip (found : Option String) (inner : Skip)
  | strayWord (found : Found) (wanted : Wanted) (rest : Octets)
  | strayNumber (wanted : Wanted) (numeral : NumeralText) (phase : Numeral)
  | whole (decision : String)
  | failed (error : Error)

namespace State

def broken : State := .failed .malformed

def mismatched (reason : Mismatch) : State := .failed (.mismatch reason)

-- A value that cannot be what is wanted. It is named after it has been read.
def stray (wanted : Wanted) (b : UInt8) : State :=
  if b = 0x22 then .text (.stray wanted) [] .plain
  else if b = 0x5B then mismatched (.wrongType .list wanted)
  else if b = 0x7B then mismatched (.wrongType .map wanted)
  else if b = 0x74 then .strayWord (.bool true) wanted [0x72, 0x75, 0x65]
  else if b = 0x66 then .strayWord (.bool false) wanted [0x61, 0x6C, 0x73, 0x65]
  else if b = 0x6E then .strayWord .null wanted [0x75, 0x6C, 0x6C]
  else
    match Numeral.begin? b with
    | some phase => .strayNumber wanted (NumeralText.empty.add b phase) phase
    | none => broken

def strayValue (wanted : Wanted) (numeral : NumeralText) : State :=
  match numeral.value? with
  | some n => mismatched (.wrongType (.number n) wanted)
  | none => broken

-- A text has been closed.
def closeText (role : Role) (value : Octets) : State :=
  match Utf8.decode? value with
  | none => broken
  | some s =>
    match role with
    | .decision => .members (some s) false
    | .element => .listEnd s
    | .stray wanted => mismatched (.wrongType (.text s) wanted)
    | .key found =>
      if s ≠ "decision" then .colon found false
      else if found.isSome then mismatched .repeated
      else .colon found true

-- An octet where a member or the end of the object may stand.
def nextMembers (found : Option String) (isFirst : Bool) (b : UInt8) : State :=
  if isSpace b then .members found isFirst
  else if b = 0x7D then
    match found with
    | some decision => .whole decision
    | none => mismatched .missing
  else if isFirst then if b = 0x22 then .text (.key found) [] .plain else broken
  else if b = 0x2C then .nextKey found
  else broken

def nextSkip (found : Option String) (inner : Skip) (b : UInt8) : State :=
  if inner.isWhole then nextMembers found false b
  else
    match inner.next? b with
    | some inner => .skip found inner
    | none => broken

def next : State → UInt8 → State
  | start, b =>
    if isSpace b then .start
    else if b = 0x5B then .list
    else if b = 0x7B then .members none true
    else stray .payload b
  | list, b =>
    if isSpace b then .list
    else if b = 0x5D then mismatched .emptyList
    else if b = 0x22 then .text .element [] .plain
    else stray .text b
  | listEnd decision, b =>
    if isSpace b then .listEnd decision else if b = 0x5D then .whole decision else broken
  | members found isFirst, b => nextMembers found isFirst b
  | nextKey found, b =>
    if isSpace b then .nextKey found
    else if b = 0x22 then .text (.key found) [] .plain
    else broken
  | colon found isDecision, b =>
    if isSpace b then .colon found isDecision
    else if b = 0x3A then if isDecision then .decisionValue else .skip found .start
    else broken
  | decisionValue, b =>
    if isSpace b then .decisionValue
    else if b = 0x22 then .text .decision [] .plain
    else stray .text b
  | text role value phase, b =>
    match phase.next b with
    | .goes phase more => .text role (value ++ more) phase
    | .ends => closeText role value
    | .fails => broken
  | skip found inner, b => nextSkip found (inner.settle b) b
  | strayWord found wanted rest, b =>
    match rest with
    | [] => mismatched (.wrongType found wanted)
    | c :: rest =>
      if b ≠ c then broken
      else if rest.isEmpty then mismatched (.wrongType found wanted)
      else .strayWord found wanted rest
  | strayNumber wanted numeral phase, b =>
    match phase.next b with
    | .goes phase => .strayNumber wanted (numeral.add b phase) phase
    | .ends => strayValue wanted numeral
    | .fails => broken
  | whole decision, b => if isSpace b then .whole decision else broken
  | failed error, _ => .failed error

-- What the end of the body makes of a state. A number that ends a stray value is
-- complete, and a skipped one that is cut off counts as broken.
def finish : State → Except Error String
  | whole decision => .ok decision
  | failed error => .error error
  | skip _ inner => .error (if inner.cutsNumber then .malformed else .ended)
  | strayNumber wanted numeral phase =>
    if phase.isWhole then
      match strayValue wanted numeral with
      | failed error => .error error
      | _ => .error .ended
    else .error .ended
  | _ => .error .ended

end State

-- Reads the decision out of a body. Members with other names are passed over.
def decode (body : Octets) : Except Error String := (body.foldl State.next .start).finish

end Payload

end RoutingProcessor.Decision
