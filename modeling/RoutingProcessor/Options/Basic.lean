import RoutingProcessor.Config.Basic
import RoutingProcessor.Duration.Human

namespace RoutingProcessor

open Net

-- What the command line and the environment ask for. Whatever is left open falls back
-- to the configuration file and then to the defaults.
structure Options where
  config : Option String
  port : Option UInt16
  grpcNetwork : Option Network
  grpcAddress : Option String
  preferredHeader : Option String
  decisionHeader : Option String
  decisionServer : Option String
  decisionTimeout : Option Duration
  mockBackend : Bool
  mockBackendAddress : Option SocketAddress
  logLevel : Option String
  logFormat : Option LogFormat
deriving DecidableEq

namespace Options

def none : Options where
  config := .none
  port := .none
  grpcNetwork := .none
  grpcAddress := .none
  preferredHeader := .none
  decisionHeader := .none
  decisionServer := .none
  decisionTimeout := .none
  mockBackend := false
  mockBackendAddress := .none
  logLevel := .none
  logFormat := .none

-- The settings that can be given, in the order in which the environment is looked at.
inductive Key where
  | config
  | port
  | grpcNetwork
  | grpcAddress
  | preferredHeader
  | decisionHeader
  | decisionServer
  | decisionTimeout
  | mockBackend
  | mockBackendAddress
  | logLevel
  | logFormat
deriving DecidableEq

namespace Key

def all : List Key := [
  config, port, grpcNetwork, grpcAddress, preferredHeader, decisionHeader, decisionServer,
  decisionTimeout, mockBackend, mockBackendAddress, logLevel, logFormat]

-- The long name on the command line.
def name : Key → String
  | config => "config"
  | port => "port"
  | grpcNetwork => "grpc-network"
  | grpcAddress => "grpc-address"
  | preferredHeader => "preferred-svc-header"
  | decisionHeader => "routing-decision-header"
  | decisionServer => "routing-decision-server"
  | decisionTimeout => "decision-timeout"
  | mockBackend => "mock-backend"
  | mockBackendAddress => "mock-backend-address"
  | logLevel => "log-level"
  | logFormat => "log-format"

-- The variable of the environment.
def environmentName : Key → String
  | config => "EXT_PROC_CONFIG"
  | port => "GRPC_PORT"
  | grpcNetwork => "GRPC_NETWORK"
  | grpcAddress => "GRPC_ADDRESS"
  | preferredHeader => "PREFERRED_SVC_HEADER"
  | decisionHeader => "ROUTING_DECISION_HEADER"
  | decisionServer => "ROUTING_DECISION_SERVER"
  | decisionTimeout => "ROUTING_DECISION_TIMEOUT"
  | mockBackend => "MOCK_BACKEND"
  | mockBackendAddress => "MOCK_BACKEND_ADDRESS"
  | logLevel => "LOG_LEVEL"
  | logFormat => "LOG_FORMAT"

-- The mock backend is switched on by its name alone.
def takesValue : Key → Bool
  | mockBackend => false
  | _ => true

def ofName? (name : String) : Option Key := all.find? fun key => key.name = name

end Key

-- Why the options cannot be taken, or what was asked for instead of a run.
inductive Error where
  | invalidValue
  | valueValidation
  | unknownArgument
  | argumentConflict
  | tooManyValues
  | displayHelp
  | displayVersion
deriving DecidableEq

def Error.exitCode : Error → Nat
  | displayHelp | displayVersion => 0
  | _ => 2

-- A value that one of a few words must be.
def choose {α : Type} (words : List (String × α)) (value : String) : Except Error α :=
  match words.lookup value with
  | some a => .ok a
  | .none => .error .invalidValue

-- A value that is read by a rule of its own.
def validate {α : Type} : Option α → Except Error α
  | some a => .ok a
  | .none => .error .valueValidation

-- A number of sixteen bits. Zero may have either sign.
def port? (value : String) : Option Nat :=
  match value.toList with
  | '-' :: digits => if !digits.isEmpty && digits.all (· = '0') then some 0 else .none
  | _ => (Number.parseBelow 65536 value).toOption

-- Takes up the value of a setting.
def set (options : Options) (key : Key) (value : String) : Except Error Options := do
  match key with
  | .config =>
    if value = "" then throw .invalidValue
    return { options with config := value }
  | .port =>
    let port ← validate (port? value)
    return { options with port := port.toUInt16 }
  | .grpcNetwork =>
    let network ← choose [("tcp", Network.tcp), ("unix", .unix)] value
    return { options with grpcNetwork := network }
  | .grpcAddress => return { options with grpcAddress := value }
  | .preferredHeader => return { options with preferredHeader := value }
  | .decisionHeader => return { options with decisionHeader := value }
  | .decisionServer => return { options with decisionServer := value }
  | .decisionTimeout =>
    let timeout ← validate (Duration.parse? value)
    return { options with decisionTimeout := timeout }
  | .mockBackend =>
    let mockBackend ← choose [("true", true), ("false", false)] value
    return { options with mockBackend }
  | .mockBackendAddress =>
    let address ← validate (SocketAddress.parse? value)
    return { options with mockBackendAddress := address }
  | .logLevel => return { options with logLevel := value }
  | .logFormat =>
    let format ← choose [("text", LogFormat.text), ("json", .json)] value
    return { options with logFormat := format }

end Options

end RoutingProcessor
