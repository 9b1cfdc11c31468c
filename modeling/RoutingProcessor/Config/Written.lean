import RoutingProcessor.Config.Schema
import RoutingProcessor.Json.Value
import RoutingProcessor.Yaml.Print

namespace RoutingProcessor.Config

-- What a configuration is written as, whatever the kind of document.
inductive Written where
  | word (n : Nat)
  | text (s : String)
  | members (list : List (String × Written))

namespace Written

def duration (d : Duration) : Written := text d.print

-- A member that is left out where it has no value.
def maybe (key : String) (value : Option Written) : List (String × Written) :=
  (value.map fun value => (key, value)).toList

mutual

def toJson : Written → Json.Value
  | word n => .number (.whole n)
  | text s => .text s
  | members list => .object (membersJson list)

def membersJson : List (String × Written) → List (String × Json.Value)
  | [] => []
  | (key, value) :: rest => (key, value.toJson) :: membersJson rest

end

mutual

-- What stands behind a key at the column `indent`.
def valueYaml (indent : Nat) : Written → List Char
  | word n => ' ' :: (toString n).toList ++ ['\n']
  | text s => ' ' :: Yaml.Print.text (indent + 2) s
  | members list => '\n' :: membersYaml (indent + 2) list

def membersYaml (indent : Nat) : List (String × Written) → List Char
  | [] => []
  | (key, value) :: rest =>
    Yaml.Print.spaces indent ++ key.toList ++ ':' :: valueYaml indent value ++
      membersYaml indent rest

end

-- The text of a document with these members.
def toYaml (list : List (String × Written)) : String := String.ofList (membersYaml 0 list)

end Written

-- The members of a document that stands for a configuration.
def written (config : Config) : List (String × Written) :=
  let server := config.server
  let decision := config.decision
  let logging := config.logging
  [
    ("server", .members (
      [("grpc", .members [
        ("network", .text server.grpc.network.name), ("address", .text server.grpc.address)]),
      ("max_concurrent_streams", .word server.maxConcurrentStreams.toNat)] ++
      Written.maybe "mock_backend" (server.mockBackend.map fun mock =>
        .members [("address", .text mock.address.print)]) ++
      [("shutdown_wait", .duration server.shutdownWait),
      ("http_shutdown_timeout", .duration server.httpShutdownTimeout),
      ("grpc_drain_timeout", .duration server.grpcDrainTimeout)])),
    ("decision", .members (
      [("preferred_service_header", .text decision.preferredServiceHeader),
      ("routing_decision_header", .text decision.routingDecisionHeader)] ++
      Written.maybe "routing_decision_server" (decision.routingDecisionServer.map .text) ++
      Written.maybe "timeout" (decision.timeout.map .duration))),
    ("logging", .members [
      ("log_level", .text logging.logLevel), ("log_format", .text logging.logFormat.name)])]

def toJson (config : Config) : Json.Value := (Written.members config.written).toJson

def toYaml (config : Config) : String := Written.toYaml config.written

end RoutingProcessor.Config
