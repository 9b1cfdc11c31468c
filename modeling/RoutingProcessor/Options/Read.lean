import RoutingProcessor.Options.Basic

namespace RoutingProcessor.Options

-- A setting whose name has been read. Its value is judged only when the next known
-- name, or the end, comes.
inductive Pending where
  | nothing
  | awaiting (key : Key)
  | holding (key : Key) (value : String)

-- The options so far and the settings that were given.
structure Reading where
  options : Options
  given : List Key
  pending : Pending

namespace Reading

def start : Reading := ⟨.none, [], .nothing⟩

-- Takes up a value. No setting may be given twice.
def assign (reading : Reading) (key : Key) (value : String) : Except Error Reading := do
  if reading.given.contains key then throw .argumentConflict
  return { reading with
    options := ← reading.options.set key value
    given := key :: reading.given
    pending := .nothing }

def resolve (reading : Reading) : Except Error Reading :=
  match reading.pending with
  | .nothing => .ok reading
  | .awaiting _ => .error .invalidValue
  | .holding key value => reading.assign key value

-- A known setting with the value attached to its name, if there is one.
def setting (reading : Reading) (key : Key) (attached : Option String) : Except Error Reading := do
  let reading ← reading.resolve
  match attached with
  | some value => reading.assign key value
  | .none =>
    if key.takesValue then return { reading with pending := .awaiting key }
    else reading.assign key "true"

-- An argument that starts with two dashes.
def long (reading : Reading) (argument : List Char) : Except Error Reading := do
  let name := String.ofList (argument.takeWhile (· ≠ '='))
  let attached := match argument.dropWhile (· ≠ '=') with
    | _ :: value => some (String.ofList value)
    | [] => .none
  match Key.ofName? name with
  | some key =>
    if attached.isSome && !key.takesValue then throw .tooManyValues
    reading.setting key attached
  | .none =>
    if name = "help" || name = "version" then
      if attached.isSome then throw .tooManyValues
      let _ ← reading.resolve
      throw (if name = "help" then .displayHelp else .displayVersion)
    else throw .unknownArgument

-- An argument that starts with one dash and names a setting by one letter.
def short (reading : Reading) : List Char → Except Error Reading
  | ['c'] => reading.setting .config .none
  | 'c' :: '=' :: value => reading.setting .config (some (String.ofList value))
  | 'c' :: value => reading.setting .config (some (String.ofList value))
  | 'h' :: _ => do
    let _ ← reading.resolve
    throw .displayHelp
  | 'V' :: _ => do
    let _ ← reading.resolve
    throw .displayVersion
  | _ => .error .unknownArgument

-- An argument that names no setting. A lone dash counts as a value.
def plain (reading : Reading) (argument : String) : Except Error Reading :=
  match reading.pending with
  | .awaiting key => .ok { reading with pending := .holding key argument }
  | _ => .error .unknownArgument

def arguments (reading : Reading) : List String → Except Error Reading
  | [] => reading.resolve
  | argument :: rest => do
    match argument.toList with
    | ['-', '-'] => if rest.isEmpty then reading.resolve else throw .unknownArgument
    | '-' :: '-' :: name => (← reading.long name).arguments rest
    | '-' :: letter :: value => (← reading.short (letter :: value)).arguments rest
    | _ => (← reading.plain argument).arguments rest

-- Takes up what the environment gives for settings that the command line leaves open.
def environment (reading : Reading) (settings : List (String × String)) :
    List Key → Except Error Reading
  | [] => .ok reading
  | key :: keys => do
    match if reading.given.contains key then .none else settings.lookup key.environmentName with
    | some value => (← reading.assign key value).environment settings keys
    | .none => reading.environment settings keys

end Reading

-- Reads the arguments behind the program's name, then the environment.
def read (arguments : List String) (settings : List (String × String)) : Except Error Options := do
  let reading ← Reading.start.arguments arguments
  return (← reading.environment settings Key.all).options

end RoutingProcessor.Options
