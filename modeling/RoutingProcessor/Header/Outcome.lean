namespace RoutingProcessor

-- What to do when a header to set exists already.
inductive AppendPolicy where
  | appendIfExistsOrAdd
  | addIfAbsent
  | overwriteIfExistsOrAdd
  | overwriteIfExists
deriving DecidableEq

structure SetHeader where
  key : String
  value : String
  append : AppendPolicy
deriving DecidableEq

-- Headers to set and header names to remove, each in the order they were added.
structure HeaderMutation where
  set : List SetHeader
  remove : List String
deriving DecidableEq

namespace HeaderMutation

def empty : HeaderMutation := ⟨[], []⟩

def isEmpty (mutation : HeaderMutation) : Bool := mutation.set.isEmpty && mutation.remove.isEmpty

def withSet (mutation : HeaderMutation) (key value : String) (append : AppendPolicy) :
    HeaderMutation :=
  { mutation with set := mutation.set ++ [⟨key, value, append⟩] }

def withRemove (mutation : HeaderMutation) (key : String) : HeaderMutation :=
  { mutation with remove := mutation.remove ++ [key] }

end HeaderMutation

-- What the request-headers phase tells the proxy to do.
structure Outcome where
  clearRouteCache : Bool
  mutation : HeaderMutation
deriving DecidableEq

namespace Outcome

def unmodified : Outcome := ⟨false, .empty⟩

def isUnmodified (outcome : Outcome) : Bool := !outcome.clearRouteCache && outcome.mutation.isEmpty

-- One edit of an outcome under construction.
inductive Edit where
  | set (key value : String) (append : AppendPolicy)
  | remove (key : String)
  | clearRouteCache (value : Bool)
  | reset

-- A reset empties the mutation and keeps the flag.
def edit (outcome : Outcome) : Edit → Outcome
  | .set key value append => { outcome with mutation := outcome.mutation.withSet key value append }
  | .remove key => { outcome with mutation := outcome.mutation.withRemove key }
  | .clearRouteCache value => { outcome with clearRouteCache := value }
  | .reset => { outcome with mutation := .empty }

-- The outcomes after each of the edits, in order.
def history (outcome : Outcome) : List Edit → List Outcome
  | [] => []
  | edit :: edits => outcome.edit edit :: (outcome.edit edit).history edits

end Outcome

end RoutingProcessor
