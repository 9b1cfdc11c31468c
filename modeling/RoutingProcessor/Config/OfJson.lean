import RoutingProcessor.Config.Complaint
import RoutingProcessor.Config.Schema
import RoutingProcessor.Json.Value

namespace RoutingProcessor.Config.OfJson

open Json Net

def wrongType {α : Type} (value : Value) (wanted : String) : Except Complaint α :=
  .error (.wrongType value.found.describe wanted)

def text : Value → Except Complaint String
  | .text s => .ok s
  | value => wrongType value "a string"

def word : Value → Except Complaint UInt32
  | .number (.whole n) =>
    if 0 ≤ n && n < UInt32.size then .ok n.toNat.toUInt32
    else .error (.wrongValue (Found.number (.whole n)).describe "u32")
  | value => wrongType value "u32"

def duration : Value → Except Complaint Duration
  | .text s =>
    match Duration.parse? s with
    | some d => .ok d
    | none => .error (.wrongValue (Found.text s).describe "a duration")
  | value => wrongType value "a duration"

def address : Value → Except Complaint SocketAddress
  | .text s =>
    match SocketAddress.parse? s with
    | some a => .ok a
    | none => .error .invalidAddress
  | value => wrongType value "socket address"

def variant {α : Type} (words : List (String × α)) (name : String) : Except Complaint α :=
  match words.lookup name with
  | some a => .ok a
  | none => .error (.unknownVariant name (words.map (·.1)))

-- A choice is a word, or an object with the word as its only key and null as its value.
def choice {α : Type} (words : List (String × α)) : Value → Except Complaint α
  | .text name => variant words name
  | .object [(name, value)] => do
    let a ← variant words name
    match value with
    | .null => return a
    | value => wrongType value "unit"
  | .object _ => .error (.wrongValue Found.map.describe "map with a single key")
  | value => wrongType value "string or map"

def optional {α : Type} (read : Value → Except Complaint α) : Value → Except Complaint (Option α)
  | .null => .ok none
  | value => (read value).map some

-- Members in the order of the document. Those with other keys are passed over.
def members {σ : Type} (fields : List (Field Value Complaint σ)) :
    List (String × Value) → σ → Except Complaint σ
  | [], s => .ok s
  | (key, value) :: rest, s =>
    match fields.find? fun field => field.key = key with
    | some field => do members fields rest ((← field.read value) s)
    | none => members fields rest s

-- A list gives the members in the order of the section, and may stop early.
def items {σ : Type} (length : Nat) :
    List (Field Value Complaint σ) → List Value → σ → Except Complaint σ
  | _, [], s => .ok s
  | [], _ :: _, _ => .error (.wrongLength length "fewer elements in array")
  | field :: fields, value :: rest, s => do items length fields rest ((← field.read value) s)

def readSection {σ : Type} (name : String) (fields : List (Field Value Complaint σ)) (s : σ) :
    Value → Except Complaint σ
  | .object given => members fields given s
  | .list given => items given.length fields given s
  | value => wrongType value ("struct " ++ name)

end OfJson

open OfJson in
def jsonForm : Form Json.Value Complaint where
  text := text
  word := word
  duration := duration
  address := address
  network := choice networks
  format := choice formats
  optional := optional
  record := readSection

-- Reads a configuration from a document.
def ofJson (value : Json.Value) : Except Complaint Config := jsonForm.config value

end RoutingProcessor.Config
