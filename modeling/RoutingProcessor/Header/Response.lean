import RoutingProcessor.Header.Outcome
import RoutingProcessor.Text.Utf8

namespace RoutingProcessor

open Text

-- A header to set as the proxy reads it. `action` is a number of the proxy's
-- protocol.
structure WireSetHeader where
  key : String
  value : String
  raw : Octets
  action : Nat
  keepEmptyValue : Bool
deriving DecidableEq

structure WireMutation where
  set : List WireSetHeader
  remove : List String
deriving DecidableEq

-- Whether the proxy goes on with the message or takes the answer as a replacement.
inductive ResponseStatus where
  | proceed
  | replace
deriving DecidableEq

-- The part that the answers of the header and body phases share.
structure CommonResponse where
  status : ResponseStatus
  headerMutation : Option WireMutation
  clearRouteCache : Bool
  bodyMutation : Bool
  trailers : Bool
deriving DecidableEq

namespace AppendPolicy

def code : AppendPolicy → Nat
  | appendIfExistsOrAdd => 0
  | addIfAbsent => 1
  | overwriteIfExistsOrAdd => 2
  | overwriteIfExists => 3

def ofCode? : Nat → Option AppendPolicy
  | 0 => some appendIfExistsOrAdd
  | 1 => some addIfAbsent
  | 2 => some overwriteIfExistsOrAdd
  | 3 => some overwriteIfExists
  | _ => none

end AppendPolicy

-- The value travels as octets and the text value stays empty.
def SetHeader.toWire (header : SetHeader) : WireSetHeader :=
  ⟨header.key, "", octets header.value, header.append.code, false⟩

def WireSetHeader.read? (header : WireSetHeader) : Option SetHeader := do
  let value ← Utf8.decode? header.raw
  let append ← AppendPolicy.ofCode? header.action
  return ⟨header.key, value, append⟩

def HeaderMutation.toWire (mutation : HeaderMutation) : WireMutation :=
  ⟨mutation.set.map SetHeader.toWire, mutation.remove⟩

def WireMutation.read? (mutation : WireMutation) : Option HeaderMutation := do
  let set ← mutation.set.mapM WireSetHeader.read?
  return ⟨set, mutation.remove⟩

namespace CommonResponse

-- An empty mutation is left out.
def ofOutcome (outcome : Outcome) : CommonResponse where
  status := .proceed
  headerMutation := if outcome.mutation.isEmpty then none else some outcome.mutation.toWire
  clearRouteCache := outcome.clearRouteCache
  bodyMutation := false
  trailers := false

-- The outcome that a response carries, if it carries one.
def outcome? (response : CommonResponse) : Option Outcome := do
  let mutation ← match response.headerMutation with
    | none => pure .empty
    | some mutation => mutation.read?
  return ⟨response.clearRouteCache, mutation⟩

end CommonResponse

end RoutingProcessor
