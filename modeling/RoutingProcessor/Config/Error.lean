import RoutingProcessor.Net.Address
import RoutingProcessor.Text.Quoted

namespace RoutingProcessor.Config

open Text Net

-- The two header names of a configuration.
inductive HeaderRole where
  | preferredService
  | routingDecision
deriving DecidableEq

def HeaderRole.key : HeaderRole → String
  | preferredService => "preferred_service_header"
  | routingDecision => "routing_decision_header"

-- Why a configuration cannot be used.
inductive Error where
  | invalidHeaderName (role : HeaderRole) (name : String)
  | conflictingHeaders (name : String)
  | invalidDecisionServer (url reason : String)
  | invalidGrpcAddress (network : Network) (address : String)
  | noConcurrentStreams
deriving DecidableEq

def Error.message : Error → String
  | invalidHeaderName role name => "invalid header name " ++ Quoted.quote name ++ " for " ++ role.key
  | conflictingHeaders name =>
    "preferred service header and routing decision header must differ (both are " ++
      Quoted.quote name ++ ")"
  | invalidDecisionServer url reason =>
    "invalid routing decision server " ++ Quoted.quote url ++ ": " ++ reason
  | invalidGrpcAddress network address =>
    "invalid gRPC listener address " ++ Quoted.quote address ++ " for network " ++ network.name
  | noConcurrentStreams => "max_concurrent_streams must be greater than zero"

end RoutingProcessor.Config
