import RoutingProcessor.Json.Numeral
import RoutingProcessor.Json.Text

namespace RoutingProcessor.Json

open Text

inductive Frame where
  | list
  | map
deriving DecidableEq

def Frame.closing : Frame → UInt8
  | list => 0x5D
  | map => 0x7D

-- What is due inside a value of which nothing is kept.
inductive SkipPhase where
  | value
  | opened
  | after
  | key
  | colon
  | word (rest : Octets)
  | number (phase : Numeral)
  | text (isKey : Bool) (phase : TextPhase)
deriving DecidableEq

-- The open brackets, innermost first, and what is due. A value is whole when no
-- bracket is open and nothing is due but what may follow.
structure Skip where
  frames : List Frame
  phase : SkipPhase
deriving DecidableEq

namespace Skip

def start : Skip := ⟨[], .value⟩

-- A number ends at the first octet that cannot belong to it.
def settle (skip : Skip) (b : UInt8) : Skip :=
  match skip.phase with
  | .number phase =>
    match phase.next b with
    | .ends => { skip with phase := .after }
    | _ => skip
  | _ => skip

def isWhole (skip : Skip) : Bool := skip.frames.isEmpty && skip.phase == .after

-- The first octet of a value.
def begin? (skip : Skip) (b : UInt8) : Option Skip :=
  if b = 0x22 then some { skip with phase := .text false .plain }
  else if b = 0x5B then some ⟨.list :: skip.frames, .opened⟩
  else if b = 0x7B then some ⟨.map :: skip.frames, .opened⟩
  else if b = 0x74 then some { skip with phase := .word [0x72, 0x75, 0x65] }
  else if b = 0x66 then some { skip with phase := .word [0x61, 0x6C, 0x73, 0x65] }
  else if b = 0x6E then some { skip with phase := .word [0x75, 0x6C, 0x6C] }
  else (Numeral.begin? b).map fun phase => { skip with phase := .number phase }

def beginKey? (skip : Skip) (b : UInt8) : Option Skip :=
  if b = 0x22 then some { skip with phase := .text true .plain } else none

-- A member of the innermost bracket is due.
def member? (skip : Skip) (b : UInt8) : Option Skip :=
  match skip.frames with
  | .map :: _ => skip.beginKey? b
  | _ => skip.begin? b

def close? (skip : Skip) (b : UInt8) : Option Skip :=
  match skip.frames with
  | frame :: outer => if b = frame.closing then some ⟨outer, .after⟩ else none
  | [] => none

-- A value inside a bracket is followed by a comma or the closing bracket.
def afterValue? (skip : Skip) (b : UInt8) : Option Skip :=
  match skip.frames with
  | frame :: _ =>
    if b = 0x2C then
      some { skip with phase := match frame with | .list => .value | .map => .key }
    else skip.close? b
  | [] => none

-- Takes one octet of a value that is not whole yet. The input breaks where nothing
-- comes out.
def next? (skip : Skip) (b : UInt8) : Option Skip :=
  match skip.phase with
  | .value => if isSpace b then some skip else skip.begin? b
  | .opened => if isSpace b then some skip else (skip.close? b).or (skip.member? b)
  | .after => if isSpace b then some skip else skip.afterValue? b
  | .key => if isSpace b then some skip else skip.beginKey? b
  | .colon =>
    if isSpace b then some skip else if b = 0x3A then some { skip with phase := .value } else none
  | .word [] => none
  | .word (c :: rest) =>
    if b = c then some { skip with phase := if rest.isEmpty then .after else .word rest } else none
  | .number phase =>
    match phase.next b with
    | .goes phase => some { skip with phase := .number phase }
    | _ => none
  | .text isKey phase =>
    match phase.pass b with
    | .goes phase _ => some { skip with phase := .text isKey phase }
    | .ends => some { skip with phase := if isKey then .colon else .after }
    | .fails => none

-- Whether an end of the input here is a number that has been cut off. All else is
-- unfinished and not wrong.
def cutsNumber (skip : Skip) : Bool :=
  match skip.phase with
  | .number phase => !phase.isWhole
  | _ => false

end Skip

end RoutingProcessor.Json
