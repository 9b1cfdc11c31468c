import RoutingProcessor.Config.Complaint
import RoutingProcessor.Config.Schema
import RoutingProcessor.Yaml.Document
import RoutingProcessor.Yaml.Meaning

namespace RoutingProcessor.Config

open Yaml Net

-- Why a document is no configuration: it cannot be read at all, or something in it is
-- wrong. A complaint names the place it belongs to once the place is known.
inductive Trouble where
  | unreadable
  | unplaced (complaint : Complaint)
  | placed (path : List String) (complaint : Complaint)
deriving DecidableEq

-- What the reader of documents words in its own way: why octets cannot be read, and the line
-- and column where a complaint about them belongs.
structure Wording where
  unreadable : Text.Octets → String
  position : Text.Octets → String

namespace Trouble

-- Names the place of a complaint that has none.
def locate (path : List String) : Trouble → Trouble
  | unplaced complaint => placed path complaint
  | trouble => trouble

-- The keys that lead to the place, the complaint, and where it belongs in the document.
def message (wording : Wording) (content : Text.Octets) : Trouble → String
  | unreadable => wording.unreadable content
  | unplaced complaint => complaint.message
  | placed [] complaint => complaint.message ++ wording.position content
  | placed path complaint =>
    String.intercalate "." path ++ ": " ++ complaint.message ++ wording.position content

end Trouble

-- A node in its document, and the keys that lead to it.
structure Place where
  node : Node
  anchors : Node.Anchors
  path : List String

namespace OfYaml

def standard (name : String) : String := "tag:yaml.org,2002:" ++ name

def quoted (text : String) : String := Meaning.describe text .text

-- What is wrong with a scalar where something else is wanted. A standard tag says what
-- the scalar should be; only a plain one has a meaning of its own.
def scalarComplaint (text : String) (style : Style) (tag : Option String) (wanted : String) :
    Complaint :=
  let found (meaning : Meaning) : Complaint := .wrongType (meaning.describe text) wanted
  let checked (meaning : Option Meaning) (kind : String) : Complaint :=
    (meaning.map found).getD (.wrongValue (quoted text) kind)
  let untagged := if style = .plain then Meaning.ofPlain text else .text
  match tag with
  | none => found untagged
  | some tag =>
    if tag = standard "bool" then checked ((Meaning.bool? text).map .bool) "a boolean"
    else if tag = standard "int" then
      checked ((Meaning.integer? text.toList).map .integer) "an integer"
    else if tag = standard "float" then
      checked ((Meaning.floating? text.toList).map .floating) "a float"
    else if tag = standard "null" then
      checked (if Meaning.isNull text then some .null else none) "null"
    else found (if tag.startsWith "!" then untagged else .text)

-- What is wrong with a node where something else is wanted.
def wrongType (wanted : String) : Node → Trouble
  | .scalar text style tag => .unplaced (scalarComplaint text style tag wanted)
  | .sequence .. => .unplaced (.wrongType "sequence" wanted)
  | .mapping .. => .unplaced (.wrongType "map" wanted)
  | _ => .unreadable

-- Any scalar gives its text, however it was written.
def scalarText (wanted : String) : Node → Except Trouble String
  | .scalar text .. => .ok text
  | node => .error (wrongType wanted node)

-- Reads the node of a place and names the place in complaints.
def placed {α : Type} (read : Node → Except Trouble α) (place : Place) : Except Trouble α :=
  (read (place.node.resolve place.anchors)).mapError (·.locate place.path)

def word (node : Node) : Except Trouble UInt32 :=
  match node with
  | .scalar text style tag =>
    let isNumber := style = .plain || (style = .literal && tag = some (standard "int"))
    match if isNumber then Meaning.unsigned? text.toList else none with
    | none => .error (wrongType "u32" node)
    | some n =>
      if n < UInt32.size then .ok n.toUInt32
      else .error (.unplaced (.wrongValue (Meaning.describe text (.integer n)) "u32"))
  | _ => .error (wrongType "u32" node)

def duration (node : Node) : Except Trouble Duration := do
  let text ← scalarText "a duration" node
  match Duration.parse? text with
  | some d => return d
  | none => throw (.unplaced (.wrongValue (quoted text) "a duration"))

def address (node : Node) : Except Trouble SocketAddress := do
  match SocketAddress.parse? (← scalarText "socket address" node) with
  | some a => return a
  | none => throw (.unplaced .invalidAddress)

def variant {α : Type} (words : List (String × α)) (name : String) : Except Trouble α :=
  match words.lookup name with
  | some a => .ok a
  | none => .error (.unplaced (.unknownVariant name (words.map (·.1))))

-- The word that a tag of the document's own gives.
def tagWord? : Option String → Option String
  | none => none
  | some tag =>
    match tag.toList with
    | ['!'] => some "!"
    | '!' :: word => some (String.ofList word)
    | _ => none

-- Behind a tag that chooses, nothing may be said.
def nothing : Node → Except Trouble Unit
  | .scalar text style _ =>
    if style = .plain && (text.isEmpty || Meaning.isNull text) then .ok ()
    else .error (.unplaced (.wrongValue (quoted text) "null"))
  | node => .error (wrongType "unit" node)

-- A choice is a word, or a tag and nothing behind it. An unknown tag is a complaint
-- about the section.
def choice {α : Type} (words : List (String × α)) (place : Place) : Except Trouble α :=
  let node := place.node.resolve place.anchors
  let tag := match node with
    | .scalar _ _ tag | .sequence tag _ | .mapping tag _ => tagWord? tag
    | _ => none
  match tag with
  | some word => do
    let a ← variant words word
    placed nothing place
    return a
  | none =>
    placed (fun node => do variant words (← scalarText "a YAML tag starting with '!'" node)) place

-- A plain scalar that says null, or nothing, stands for no value.
def isAbsent (text : String) (style : Style) (tag : Option String) : Except Trouble Bool :=
  if style ≠ .plain then .ok false
  else if tag = some (standard "null") then
    if Meaning.isNull text then .ok true
    else .error (.unplaced (.wrongValue (quoted text) "null"))
  else .ok (text.isEmpty || (tag.isNone && Meaning.isNull text))

def optional {α : Type} (read : Place → Except Trouble α) (place : Place) :
    Except Trouble (Option α) := do
  match place.node.resolve place.anchors with
  | .scalar text style tag =>
    if ← isAbsent text style tag then return none else return some (← read place)
  | _ => return some (← read place)

-- The keys that lead to a member. A key given by an alias stays unnamed.
def memberPath (path : List String) : Node → List String
  | .reference _ => path ++ ["?"]
  | .scalar text .. | .anchored _ (.scalar text ..) => path ++ [text]
  | _ => path ++ ["?"]

-- Members in the order of the document. A key that was given before is refused before
-- its value is looked at. Members with other keys are passed over.
def members {σ : Type} (fields : List (Field Place Trouble σ)) (place : Place) (seen : List String) :
    List (Node × Node) → σ → Except Trouble σ
  | [], s => .ok s
  | (key, value) :: rest, s =>
    match scalarText "field identifier" (key.resolve place.anchors) with
    | .error trouble => .error trouble
    | .ok name =>
      match fields.find? fun field => field.key = name with
      | none =>
        if value.isWhole then members fields place seen rest s else .error .unreadable
      | some field =>
        if seen.contains name then .error (.unplaced (.duplicateField name))
        else
          match field.read ⟨value, place.anchors, memberPath place.path key⟩ with
          | .error trouble => .error trouble
          | .ok put => members fields place (name :: seen) rest (put s)

-- A section is a mapping. A section of which nothing is written has no members.
def readSection {σ : Type} (name : String) (fields : List (Field Place Trouble σ)) (s : σ)
    (place : Place) : Except Trouble σ :=
  placed (fun
    | .mapping _ entries => members fields place [] entries s
    | .scalar "" .plain _ => .ok s
    | node => .error (wrongType ("struct " ++ name) node)) place

end OfYaml

open OfYaml in
def yamlForm : Form Place Trouble where
  text := placed (scalarText "a string")
  word := placed word
  duration := placed duration
  address := placed address
  network := choice networks
  format := choice formats
  optional := optional
  record := readSection

-- Reads a configuration from a tree.
def ofNode (root : Node) : Except Trouble Config := yamlForm.config ⟨root, root.anchors, []⟩

-- Reads a configuration from the text of a document. What is wrong in what was read
-- comes before what cannot be read.
def ofYaml (octets : Text.Octets) : Except Trouble Config := do
  let document := Document.ofOctets octets
  let config ← ofNode (document.root.getD (.blank none))
  if document.isWhole then return config else throw .unreadable

end RoutingProcessor.Config
