import RoutingProcessor.Config.Basic
import RoutingProcessor.Http.HeaderName
import RoutingProcessor.Net.Url

namespace RoutingProcessor

open Net Http

-- Whether a listener can be set up at this address at all.
def GrpcListener.isPlausible (grpc : GrpcListener) : Bool :=
  match grpc.network with
  | .tcp => (SocketAddress.parse? grpc.address).isSome
  | .unix => !(Text.trimmed grpc.address.toList).isEmpty

def ServerSection.validate (server : ServerSection) : Except Config.Error Unit := do
  if !server.grpc.isPlausible then
    throw (.invalidGrpcAddress server.grpc.network server.grpc.address)
  if server.maxConcurrentStreams = 0 then throw .noConcurrentStreams

namespace Config

def validateHeader (role : HeaderRole) (name : String) : Except Error Unit :=
  if isLowerHeaderName name then .ok () else .error (.invalidHeaderName role name)

-- A decision server is reached by a plain web address with a host.
def validateServer (url : String) : Except Error Unit :=
  match Url.parse url with
  | .error error => .error (.invalidDecisionServer url error.message)
  | .ok found =>
    if found.scheme ≠ "http" then
      .error (.invalidDecisionServer url ("unsupported scheme " ++ found.scheme))
    else if found.host.isNone then .error (.invalidDecisionServer url "missing host")
    else .ok ()

end Config

def DecisionSection.validate (decision : DecisionSection) : Except Config.Error Unit := do
  Config.validateHeader .preferredService decision.preferredServiceHeader
  Config.validateHeader .routingDecision decision.routingDecisionHeader
  if decision.preferredServiceHeader = decision.routingDecisionHeader then
    throw (.conflictingHeaders decision.preferredServiceHeader)
  match decision.routingDecisionServer with
  | some url => Config.validateServer url
  | none => pure ()

-- Reports the first thing that is wrong, the server's before the decision's.
def Config.validate (config : Config) : Except Config.Error Unit := do
  config.server.validate
  config.decision.validate

end RoutingProcessor
