namespace RoutingProcessor.Yaml

-- How a scalar was written.
inductive Style where
  | plain
  | singleQuoted
  | doubleQuoted
  | literal
  | folded
deriving DecidableEq

-- A tag by the handle that stands for its beginning. Without a handle the tag is
-- given in full.
structure TagName where
  handle : String
  suffix : String
deriving DecidableEq

-- The pieces of a document. The ends of block collections and the keys without a mark
-- of their own are made explicit. A broken piece stands where reading fails.
inductive Token where
  | streamEnd
  | version (major minor : Nat)
  | handle (name start : String)
  | documentStart
  | documentEnd
  | blockSequence
  | blockMapping
  | blockEnd
  | flowSequence
  | flowSequenceEnd
  | flowMapping
  | flowMappingEnd
  | blockEntry
  | flowEntry
  | key
  | value
  | reference (name : String)
  | anchor (name : String)
  | tag (name : TagName)
  | scalar (text : String) (style : Style)
  | broken
deriving DecidableEq

end RoutingProcessor.Yaml
