import RoutingProcessor.Json.Print

namespace RoutingProcessor.Log

-- From the least to the most important.
inductive Level where
  | trace
  | debug
  | info
  | warn
  | error
deriving DecidableEq

namespace Level

def name : Level → String
  | trace => "TRACE"
  | debug => "DEBUG"
  | info => "INFO"
  | warn => "WARN"
  | error => "ERROR"

-- The place of a level in the order, most important first.
def verbosity : Level → Nat
  | error => 1
  | warn => 2
  | info => 3
  | debug => 4
  | trace => 5

end Level

-- One line of the log: a message of a part of the program, with named values.
structure Event where
  level : Level
  target : String
  message : String
  fields : List (String × String)
deriving DecidableEq

def Event.plain (level : Level) (target message : String) : Event := ⟨level, target, message, []⟩

-- An event as a line of text.
def Event.text (e : Event) : String :=
  e.level.name ++ " " ++ e.target ++ ": " ++
    String.intercalate " " (e.message :: e.fields.map fun f => f.1 ++ "=" ++ f.2)

-- An event as a JSON object on one line.
def Event.json (e : Event) : String :=
  Json.textObject ([("level", e.level.name), ("target", e.target), ("message", e.message)] ++ e.fields)

end RoutingProcessor.Log
