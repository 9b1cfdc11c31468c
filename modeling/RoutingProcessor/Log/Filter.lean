import RoutingProcessor.Log.Directive

namespace RoutingProcessor.Log

-- Which events are written. The most specific directives come first, those that look
-- at spans after the others. `max` is the most verbose level that was ever asked for.
structure Filter where
  directives : List Directive
  dynamics : List Directive
  max : Threshold
deriving DecidableEq

namespace Filter

def empty : Filter := ⟨[], [], .off⟩

-- Puts a directive in its place. A later one replaces an earlier one on the same
-- subject.
def insert (directive : Directive) : List Directive → List Directive
  | [] => [directive]
  | d :: rest =>
    if directive.sameSubject d then directive :: rest
    else if directive.precedes d then directive :: d :: rest
    else d :: insert directive rest

def add (filter : Filter) (directive : Directive) : Filter :=
  { directives :=
      if directive.isStatic then insert directive filter.directives else filter.directives
    dynamics := if directive.isDynamic then insert directive filter.dynamics else filter.dynamics
    max :=
      if directive.fields.any fun field => field.value.isSome then .upTo .trace
      else filter.max.max directive.level }

-- Reads directives with commas between them. Unreadable ones are ignored, and the
-- default stands for none at all.
def parse (text : String) (default : Level) : Filter :=
  let pieces := (text.toList.splitOn ',').filter (!·.isEmpty)
  match pieces.filterMap fun piece => Directive.parse? (String.ofList piece) with
  | [] => empty.add (.ofLevel (.upTo default))
  | directives => directives.foldl add empty

def print (filter : Filter) : String :=
  String.intercalate "," ((filter.directives ++ filter.dynamics).map Directive.print)

-- Whether an event is written: the first directive whose target it starts with decides.
def allows (filter : Filter) (level : Level) (target : String) : Bool :=
  let applies (directive : Directive) : Bool :=
    directive.fields.isEmpty && match directive.target with
      | some front => front.toList.isPrefixOf target.toList
      | none => true
  match filter.directives.find? applies with
  | some directive => level.verbosity ≤ directive.level.verbosity
  | none => false

end Filter

end RoutingProcessor.Log
