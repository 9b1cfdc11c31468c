import RoutingProcessor.Failure.Basic
import RoutingProcessor.Text.Outline

namespace RoutingProcessor.Failure

open Text

def quoted (text : String) : Outline := .atom (Quoted.quote text)

def networkOutline : Net.Network → Outline
  | .tcp => .atom "Tcp"
  | .unix => .atom "Unix"

def configOutline : Config.Error → Outline
  | .invalidHeaderName role name =>
    .record "InvalidHeaderName" [("field", quoted role.key), ("name", quoted name)]
  | .conflictingHeaders name => .tuple "ConflictingHeaders" [quoted name]
  | .invalidDecisionServer url reason =>
    .record "InvalidDecisionServer" [("url", quoted url), ("reason", quoted reason)]
  | .invalidGrpcAddress network address =>
    .record "InvalidGrpcAddress" [("network", networkOutline network), ("address", quoted address)]
  | .noConcurrentStreams => .atom "NoConcurrentStreams"

def payloadOutline : Payload → Outline
  | .text message => quoted message
  | .config error => configOutline error

def digitsOutline : Number.DigitsError → Outline
  | .empty => .atom "Empty"
  | .invalidDigit => .atom "InvalidDigit"
  | .overflow => .atom "PosOverflow"

def lifecycleOutline : Server.Error → Outline
  | .alreadyStarted => .atom "AlreadyStarted"
  | .listenerExited listener => .tuple "ListenerExited" [quoted listener.name]
  | .notReady after => .tuple "NotReady" [.atom after.compact]
  | .unixUnsupported => .atom "UnixUnsupported"

def causeOutline : Cause → Outline
  | .text message => quoted message
  | .io kind payload => .record "Custom" [("kind", .atom kind), ("error", payloadOutline payload)]
  | .system code =>
    .record "Os" [("code", .atom (toString code)), ("kind", .atom (systemKind code)),
      ("message", quoted (systemText code))]
  | .digits error => .record "ParseIntError" [("kind", digitsOutline error)]
  | .address => .tuple "AddrParseError" [.atom "Socket"]
  | .document message => .tuple "Error" [quoted message]
  | .config error => configOutline error
  | .lifecycle error => lifecycleOutline error

-- Every context encloses what it is about. What lies behind another error is its own affair.
def outline : Failure → Outline
  | ofCause cause => causeOutline cause
  | wrap (.error cause) _ => causeOutline cause
  | wrap (.context message) source =>
    .record "WithContext" [("msg", quoted message), ("source", source.outline)]

end RoutingProcessor.Failure
