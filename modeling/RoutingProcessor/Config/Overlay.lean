import RoutingProcessor.Options.Basic

namespace RoutingProcessor

-- An address wins over a port, and a network over both. An address alone keeps the
-- network of the configuration.
def GrpcListener.overlay (grpc : GrpcListener) (options : Options) : GrpcListener :=
  let grpc := match options.grpcAddress, options.port with
    | some address, _ => ⟨grpc.network, address⟩
    | none, some port => .withPort port
    | none, none => grpc
  match options.grpcNetwork with
  | some network => { grpc with network }
  | none => grpc

-- The mock backend is switched on by its flag. Its address counts only beside the flag.
def ServerSection.overlay (server : ServerSection) (options : Options) : ServerSection :=
  { server with
    grpc := server.grpc.overlay options
    mockBackend :=
      match options.mockBackend, options.mockBackendAddress with
      | true, some address => some ⟨address⟩
      | true, none => some (server.mockBackend.getD .default)
      | false, _ => server.mockBackend }

def DecisionSection.overlay (decision : DecisionSection) (options : Options) : DecisionSection where
  preferredServiceHeader := options.preferredHeader.getD decision.preferredServiceHeader
  routingDecisionHeader := options.decisionHeader.getD decision.routingDecisionHeader
  routingDecisionServer := options.decisionServer.or decision.routingDecisionServer
  timeout := options.decisionTimeout.or decision.timeout

def LoggingSection.overlay (logging : LoggingSection) (options : Options) : LoggingSection where
  logLevel := options.logLevel.getD logging.logLevel
  logFormat := options.logFormat.getD logging.logFormat

-- What the options give wins over the configuration.
def Config.overlay (config : Config) (options : Options) : Config where
  server := config.server.overlay options
  decision := config.decision.overlay options
  logging := config.logging.overlay options

end RoutingProcessor
