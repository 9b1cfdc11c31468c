import RoutingProcessor.Yaml.Layout
import RoutingProcessor.Yaml.Node

namespace RoutingProcessor.Yaml

-- What is left of the tokens of a document, and what its nodes refer to.
structure Source where
  tokens : List Token
  -- What tag handles stand for.
  handles : List (String × String)
  -- The numbers of the anchors so far.
  anchors : List (String × Nat)

namespace Source

def next (s : Source) : Token := s.tokens.headD .broken

def rest (s : Source) : Source := { s with tokens := s.tokens.drop 1 }

-- Nothing can be read behind a broken place.
def broken (s : Source) : Source := { s with tokens := [.broken] }

def fail (s : Source) : Node × Source := (.broken, s.broken)

-- A new anchor is numbered by how many names there are, and takes its name over.
def anchor (s : Source) (name : String) : Nat × Source :=
  (s.anchors.length,
    { s with anchors := (name, s.anchors.length) :: s.anchors.filter fun a => a.1 ≠ name })

end Source

-- The anchor and the tag in front of a node, in either order.
structure Properties where
  anchor : Option String
  tag : Option TagName

namespace Properties

def read (s : Source) : Properties × Source :=
  match s.tokens with
  | .anchor a :: .tag t :: rest => (⟨some a, some t⟩, { s with tokens := rest })
  | .tag t :: .anchor a :: rest => (⟨some a, some t⟩, { s with tokens := rest })
  | .anchor a :: rest => (⟨some a, none⟩, { s with tokens := rest })
  | .tag t :: rest => (⟨none, some t⟩, { s with tokens := rest })
  | _ => (⟨none, none⟩, s)

def isEmpty (p : Properties) : Bool := p.anchor.isNone && p.tag.isNone

-- The tag in full. Nothing stands for one whose handle is not known.
def fullTag? (p : Properties) (s : Source) : Option (Option String) :=
  match p.tag with
  | none => some none
  | some ⟨"", suffix⟩ => some (some suffix)
  | some ⟨handle, suffix⟩ => (s.handles.lookup handle).map fun start => some (start ++ suffix)

end Properties

-- Where a node stands: block collections count only outside flow collections, and a
-- sequence in a block mapping need not be indented.
inductive Context where
  | block
  | blockMember
  | flow
deriving DecidableEq

-- The tokens that end a value without one being given.
def endsEntry (token : Token) : Bool := token == .blockEntry || token == .blockEnd

def endsMember (token : Token) : Bool := token == .key || token == .value || token == .blockEnd

def endsLooseEntry (token : Token) : Bool := endsMember token || token == .blockEntry

def endsFlowItem (token : Token) : Bool := token == .flowEntry || token == .flowSequenceEnd

def endsFlowMember (token : Token) : Bool := token == .flowEntry || token == .flowMappingEnd

-- A tag of one exclamation mark says no more of a scalar than its text.
def scalarTag (tag : Option String) : Option String := if tag = some "!" then none else tag

mutual

-- The node that starts here. A node takes at least one token or is left out, so the
-- number of tokens bounds the depth.
def node (depth : Nat) (context : Context) (s : Source) : Node × Source :=
  match depth, s.next with
  | 0, _ => s.fail
  | _ + 1, .reference name =>
    match s.anchors.lookup name with
    | some number => (.reference number, s.rest)
    | none => s.fail
  | depth + 1, _ =>
    let (properties, s) := Properties.read s
    match properties.fullTag? s with
    | none => s.fail
    | some tag =>
      match properties.anchor with
      | none => content depth context properties tag s
      | some name =>
        let (number, s) := s.anchor name
        let (inner, s) := content depth context properties tag s
        (.anchored number inner, s)

-- A node without its anchor and tag.
def content (depth : Nat) (context : Context) (properties : Properties) (tag : Option String)
    (s : Source) : Node × Source :=
  match depth, s.next with
  | 0, _ => s.fail
  | depth + 1, .blockEntry =>
    if context = .blockMember then
      let (items, s) := looseItems depth s
      (.sequence tag items, s)
    else if properties.isEmpty then s.fail else (.blank tag, s)
  | _ + 1, .scalar text style => (.scalar text style (scalarTag tag), s.rest)
  | depth + 1, .flowSequence =>
    let (items, s) := flowItems depth true s.rest
    (.sequence tag items, s)
  | depth + 1, .flowMapping =>
    let (entries, s) := flowMembers depth true s.rest
    (.mapping tag entries, s)
  | depth + 1, .blockSequence =>
    if context = .flow then if properties.isEmpty then s.fail else (.blank tag, s)
    else
      let (items, s) := blockItems depth s.rest
      (.sequence tag items, s)
  | depth + 1, .blockMapping =>
    if context = .flow then if properties.isEmpty then s.fail else (.blank tag, s)
    else
      let (entries, s) := blockMembers depth s.rest
      (.mapping tag entries, s)
  | _ + 1, .broken => s.fail
  | _ + 1, _ => if properties.isEmpty then s.fail else (.blank tag, s)

-- A node, or nothing before a token that ends it.
def nodeUnless (depth : Nat) (ends : Token → Bool) (context : Context) (s : Source) :
    Node × Source :=
  match depth with
  | 0 => s.fail
  | depth + 1 => if ends s.next then (.blank none, s) else node depth context s

-- The items of an indented block sequence.
def blockItems (depth : Nat) (s : Source) : List Node × Source :=
  match depth, s.next with
  | depth + 1, .blockEntry =>
    let (item, s) := nodeUnless depth endsEntry .block s.rest
    let (items, s) := blockItems depth s
    (item :: items, s)
  | _, .blockEnd => ([], s.rest)
  | _, _ => ([.broken], s.broken)

-- The items of a block sequence that is not indented. It ends where they do.
def looseItems (depth : Nat) (s : Source) : List Node × Source :=
  match depth, s.next with
  | depth + 1, .blockEntry =>
    let (item, s) := nodeUnless depth endsLooseEntry .block s.rest
    let (items, s) := looseItems depth s
    (item :: items, s)
  | 0, .blockEntry | _, .broken => ([.broken], s.broken)
  | _, _ => ([], s)

-- What a mark of a value gives, or nothing without such a mark.
def valueOf (depth : Nat) (ends : Token → Bool) (context : Context) (s : Source) : Node × Source :=
  match depth, s.next with
  | 0, _ | _, .broken => s.fail
  | depth + 1, .value => nodeUnless depth ends context s.rest
  | _ + 1, _ => (.blank none, s)

def blockMembers (depth : Nat) (s : Source) : List (Node × Node) × Source :=
  match depth, s.next with
  | depth + 1, .key =>
    let (key, s) := nodeUnless depth endsMember .blockMember s.rest
    let (value, s) := valueOf depth endsMember .blockMember s
    let (entries, s) := blockMembers depth s
    ((key, value) :: entries, s)
  | _, .blockEnd => ([], s.rest)
  | _, _ => ([(.broken, .broken)], s.broken)

-- An item with a mark of a key is a mapping of one member. An empty key of such a
-- member takes the token behind it along.
def pair (depth : Nat) (s : Source) : Node × Source :=
  match depth, s.next with
  | 0, _ | _, .broken => s.fail
  | depth + 1, token =>
    let (key, s) :=
      if token == .value || endsFlowItem token then (Node.blank none, s.rest)
      else node depth .flow s
    let (value, s) := valueOf depth endsFlowItem .flow s
    (.mapping none [(key, value)], s)

def flowItems (depth : Nat) (isFirst : Bool) (s : Source) : List Node × Source :=
  match depth, s.next with
  | 0, _ => ([.broken], s.broken)
  | _ + 1, .flowSequenceEnd => ([], s.rest)
  | depth + 1, token =>
    if !isFirst && token != .flowEntry then ([.broken], s.broken)
    else
      let s := if isFirst then s else s.rest
      match s.next with
      | .flowSequenceEnd => ([], s.rest)
      | .key =>
        let (item, s) := pair depth s.rest
        let (items, s) := flowItems depth false s
        (item :: items, s)
      | _ =>
        let (item, s) := node depth .flow s
        let (items, s) := flowItems depth false s
        (item :: items, s)

def flowMembers (depth : Nat) (isFirst : Bool) (s : Source) : List (Node × Node) × Source :=
  match depth, s.next with
  | 0, _ => ([(.broken, .broken)], s.broken)
  | _ + 1, .flowMappingEnd => ([], s.rest)
  | depth + 1, token =>
    if !isFirst && token != .flowEntry then ([(.broken, .broken)], s.broken)
    else
      let s := if isFirst then s else s.rest
      match s.next with
      | .flowMappingEnd => ([], s.rest)
      | .key =>
        let (key, s) := nodeUnless depth (fun t => t == .value || endsFlowMember t) .flow s.rest
        let (value, s) := valueOf depth endsFlowMember .flow s
        let (entries, s) := flowMembers depth false s
        ((key, value) :: entries, s)
      | _ =>
        let (key, s) := node depth .flow s
        let value := if s.next == .broken then .broken else .blank none
        let (entries, s) := flowMembers depth false s
        ((key, value) :: entries, s)

end

-- A document: its root, if there is any, and whether nothing else follows.
structure Document where
  root : Option Node
  isWhole : Bool

namespace Document

-- What handles stand for where nothing else is said.
def standardHandles : List (String × String) := [("!", "!"), ("!!", "tag:yaml.org,2002:")]

-- The directives in front of a document give the meaning of its handles. A version
-- other than 1.1 and 1.2, and anything given twice, are refused.
def directives (isVersioned : Bool) (handles : List (String × String)) :
    List Token → Option (List (String × String) × List Token)
  | .version major minor :: rest =>
    if isVersioned || major ≠ 1 || !(minor = 1 || minor = 2) then none
    else directives true handles rest
  | .handle name start :: rest =>
    if (handles.lookup name).isSome then none
    else directives isVersioned ((name, start) :: handles) rest
  | rest => some (handles ++ standardHandles, rest)

-- Whether nothing but marks of the end is left.
def isEnd (tokens : List Token) : Bool :=
  (tokens.dropWhile (· == .documentEnd)).head? == some .streamEnd

-- A root that breaks off.
def unreadable : Document := ⟨some .broken, false⟩

def ofTokens (tokens : List Token) : Document :=
  if tokens.head? = some .streamEnd then ⟨none, true⟩
  else
    match directives false [] tokens with
    | none => unreadable
    | some (handles, rest) =>
      let depth := 4 * tokens.length + 4
      let finish : Node × Source → Document := fun (root, s) => ⟨some root, isEnd s.tokens⟩
      match rest with
      | .documentStart :: rest =>
        finish <| nodeUnless depth
          (fun t => t == .documentStart || t == .documentEnd || t == .streamEnd ||
            t matches .version .. || t matches .handle ..)
          .block ⟨rest, handles, []⟩
      | rest =>
        if rest.length < tokens.length then unreadable
        else finish (node depth .block ⟨rest, handles, []⟩)

-- Reads the one document of a text.
def ofOctets (octets : Text.Octets) : Document := ofTokens (tokens octets)

end Document

end RoutingProcessor.Yaml
