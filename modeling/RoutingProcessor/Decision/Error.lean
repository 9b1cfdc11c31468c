import RoutingProcessor.Decision.Payload
import RoutingProcessor.Duration.Basic
import RoutingProcessor.Http.Status
import RoutingProcessor.Net.Uri

namespace RoutingProcessor.Decision

open Text Net Http

inductive ErrorKind where
  | configuration
  | transport
  | decode
deriving DecidableEq

def ErrorKind.name : ErrorKind → String
  | configuration => "configuration"
  | transport => "transport"
  | decode => "decode"

-- Why there is no decision.
inductive Error where
  | notConfigured
  | invalidEndpoint (endpoint : String) (cause : Uri.Error)
  | request
  | transport
  | body
  | unexpectedStatus (status : Status)
  | decode (cause : Payload.Error)
  | timeout (after : Duration)
deriving DecidableEq

namespace Error

def kind : Error → ErrorKind
  | notConfigured | invalidEndpoint .. | request => .configuration
  | transport | body | timeout _ => .transport
  | unexpectedStatus _ | decode _ => .decode

def message : Error → String
  | notConfigured => "routing decision server has not been configured"
  | invalidEndpoint endpoint _ => "invalid routing decision server " ++ Quoted.quote endpoint
  | request => "cannot build routing decision request"
  | transport => "routing decision request failed"
  | body => "cannot read routing decision response body"
  | unexpectedStatus status => "routing decision server answered " ++ status.describe
  | decode _ => "error decoding response from routing decision server"
  | timeout after => "routing decision request timed out after " ++ after.compact

-- What the error behind this one says of itself. A connection that fails and a document that
-- is broken are described by whoever reads them.
def causeMessage? : Error → Option String
  | invalidEndpoint _ cause => some cause.message
  | decode (.mismatch reason) => some reason.message
  | _ => none

-- The messages of this error and of the one behind it, as a log has them.
def report (error : Error) : String :=
  String.intercalate ": " (error.message :: error.causeMessage?.toList)

-- Whether another error lies behind this one.
def hasCause : Error → Bool
  | notConfigured | unexpectedStatus _ | timeout _ => false
  | _ => true

end Error

end RoutingProcessor.Decision
