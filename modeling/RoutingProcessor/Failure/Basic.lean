import RoutingProcessor.Config.Error
import RoutingProcessor.Failure.System
import RoutingProcessor.Net.Parse
import RoutingProcessor.Number.Digits
import RoutingProcessor.Server.Error

namespace RoutingProcessor

namespace Failure

-- What an input or output error that the program makes itself carries.
inductive Payload where
  | text (message : String)
  | config (error : Config.Error)
deriving DecidableEq

def Payload.message : Payload → String
  | text message => message
  | config error => error.message

-- An error at the root of a failure, or behind one.
inductive Cause where
  | text (message : String)
  | io (kind : String) (payload : Payload)
  | system (code : Int)
  | digits (error : Number.DigitsError)
  | address
  | document (message : String)
  | config (error : Config.Error)
  | lifecycle (error : Server.Error)
deriving DecidableEq

namespace Cause

def message : Cause → String
  | text message => message
  | io _ payload => payload.message
  | system code => systemText code ++ " (os error " ++ toString code ++ ")"
  | digits error => error.message
  | address => Net.SocketAddress.invalidMessage
  | document message => message
  | config error => error.message
  | lifecycle error => error.message

-- The kind of an input or output error.
def ioKind? : Cause → Option String
  | io kind _ => some kind
  | system code => some (systemKind code)
  | _ => none

def config? : Cause → Option Config.Error
  | config error => some error
  | _ => none

def lifecycle? : Cause → Option Server.Error
  | lifecycle error => some error
  | _ => none

def isDigits : Cause → Bool
  | digits _ => true
  | _ => false

def isDocument : Cause → Bool
  | document _ => true
  | _ => false

end Cause

-- One error among those behind each other: what was being done when the next one came up,
-- or an error that is no context.
inductive Link where
  | context (message : String)
  | error (cause : Cause)
deriving DecidableEq

namespace Link

def message : Link → String
  | context message => message
  | error cause => cause.message

def cause? : Link → Option Cause
  | context _ => none
  | error cause => some cause

@[simp] theorem message_context (message : String) : (context message).message = message := rfl

@[simp] theorem message_error (cause : Cause) : (error cause).message = cause.message := rfl

@[simp] theorem cause?_context (message : String) : (context message).cause? = none := rfl

@[simp] theorem cause?_error (cause : Cause) : (error cause).cause? = some cause := rfl

end Link

end Failure

open Failure in
-- Why something went wrong: an error with nothing behind it, or a link with its source behind it.
inductive Failure where
  | ofCause (cause : Cause)
  | wrap (link : Link) (source : Failure)
deriving DecidableEq

namespace Failure

def ofText (message : String) : Failure := ofCause (.text message)

-- Says what was being done.
def context (failure : Failure) (message : String) : Failure := wrap (.context message) failure

def head : Failure → Link
  | ofCause cause => .error cause
  | wrap link _ => link

-- The errors from the outermost down to the root, each behind the one before it.
def links : Failure → List Link
  | ofCause cause => [.error cause]
  | wrap link source => link :: source.links

-- The messages from the outermost down to the root.
def chain (failure : Failure) : List String := failure.links.map Link.message

def message (failure : Failure) : String := String.intercalate ": " failure.chain

-- The message of the outermost link.
def headline (failure : Failure) : String := failure.head.message

def rootCause (failure : Failure) : Link := failure.links.getLastD failure.head

-- The errors that are no contexts.
def causes (failure : Failure) : List Cause := failure.links.filterMap Link.cause?

-- The outermost error that a test recognises. It is not asked about contexts.
def find? {α : Type} (failure : Failure) (test : Cause → Option α) : Option α :=
  failure.links.findSome? fun link => link.cause?.bind test

section

variable {α : Type} (failure : Failure) (cause : Cause) (test : Cause → Option α)

@[simp] theorem find?_ofCause : (ofCause cause).find? test = test cause := by
  simp [find?, links]

@[simp] theorem find?_context (message : String) :
    (failure.context message).find? test = failure.find? test := rfl

end

-- What a failure can come of.
class Origin (ε : Type) where
  toFailure : ε → Failure

instance : Origin Cause := ⟨ofCause⟩

instance : Origin String := ⟨ofText⟩

-- A failure is one already.
instance : Origin Failure := ⟨id⟩

section Results

variable {ε α : Type} [Origin ε]

-- Adds a context to a failed result and leaves a success as it is.
def inContext (message : String) (result : Except ε α) : Except Failure α :=
  result.mapError fun error => (Origin.toFailure error).context message

def inContextMessage (message : String) (result : Except ε α) : Except Failure α :=
  inContext message result

-- As above, with a message that is made up for a failed result only.
def inContextOf (message : Unit → String) (result : Except ε α) : Except Failure α :=
  result.mapError fun error => (Origin.toFailure error).context (message ())

end Results

-- The ways to say of a result what was being done.
inductive Way where
  | context
  | contextMessage
  | contextOf
deriving DecidableEq

def Way.add {ε α : Type} [Origin ε] : Way → String → Except ε α → Except Failure α
  | context, message, result => inContext message result
  | contextMessage, message, result => inContextMessage message result
  | contextOf, message, result => inContextOf (fun _ => message) result

end Failure

end RoutingProcessor
