import RoutingProcessor.Config.Error
import RoutingProcessor.Duration.Basic
import RoutingProcessor.Log.Filter
import RoutingProcessor.Net.Parse

namespace RoutingProcessor

open Net

-- Where the gRPC server listens: a socket address for TCP, a path for a Unix socket.
structure GrpcListener where
  network : Network
  address : String
deriving DecidableEq

namespace GrpcListener

def tcp (address : SocketAddress) : GrpcListener := ⟨.tcp, address.print⟩

def unix (path : String) : GrpcListener := ⟨.unix, path⟩

-- Every interface of the host.
def withPort (port : UInt16) : GrpcListener := tcp (.everywhere port)

def defaultPort : UInt16 := 8081

def defaultAddress : String := (SocketAddress.everywhere defaultPort).print

def default : GrpcListener := ⟨.tcp, defaultAddress⟩

end GrpcListener

structure MockBackend where
  address : SocketAddress
deriving DecidableEq

namespace MockBackend

def defaultPort : UInt16 := 8080

def defaultAddress : SocketAddress := .everywhere defaultPort

def default : MockBackend := ⟨defaultAddress⟩

end MockBackend

structure ServerSection where
  grpc : GrpcListener
  maxConcurrentStreams : UInt32
  mockBackend : Option MockBackend
  -- How long to wait after every listener is down.
  shutdownWait : Duration
  httpShutdownTimeout : Duration
  -- How long open streams may go on once the server stops.
  grpcDrainTimeout : Duration
deriving DecidableEq

namespace ServerSection

def defaultMaxConcurrentStreams : UInt32 := 1000
def defaultShutdownWait : Duration := .ofSecs 5
def defaultHttpShutdownTimeout : Duration := .ofSecs 30
def defaultGrpcDrainTimeout : Duration := .ofSecs 30

def default : ServerSection where
  grpc := .default
  maxConcurrentStreams := defaultMaxConcurrentStreams
  mockBackend := none
  shutdownWait := defaultShutdownWait
  httpShutdownTimeout := defaultHttpShutdownTimeout
  grpcDrainTimeout := defaultGrpcDrainTimeout

end ServerSection

structure DecisionSection where
  preferredServiceHeader : String
  routingDecisionHeader : String
  -- Without a server every request without a preferred service passes unmodified.
  routingDecisionServer : Option String
  timeout : Option Duration
deriving DecidableEq

namespace DecisionSection

def defaultPreferredServiceHeader : String := "preferred-svc"
def defaultRoutingDecisionHeader : String := "x-routing-decision"

def default : DecisionSection where
  preferredServiceHeader := defaultPreferredServiceHeader
  routingDecisionHeader := defaultRoutingDecisionHeader
  routingDecisionServer := none
  timeout := none

end DecisionSection

inductive LogFormat where
  | text
  | json
deriving DecidableEq

def LogFormat.name : LogFormat → String
  | text => "text"
  | json => "json"

def LogFormat.default : LogFormat := .text

structure LoggingSection where
  logLevel : String
  logFormat : LogFormat
deriving DecidableEq

namespace LoggingSection

def defaultLogLevel : String := "info"

def default : LoggingSection := ⟨defaultLogLevel, .default⟩

-- Only `debug` lowers the threshold. Everything else, valid or not, means info.
def level (logging : LoggingSection) : Log.Level :=
  if Text.sameLetters (String.ofList (Text.trimmed logging.logLevel.toList)) "debug" then .debug
  else .info

-- Directives of the environment win over the configured level.
def filter (logging : LoggingSection) (directives : Option String) : Log.Filter :=
  .parse (directives.getD "") logging.level

end LoggingSection

structure Config where
  server : ServerSection
  decision : DecisionSection
  logging : LoggingSection
deriving DecidableEq

def Config.default : Config := ⟨.default, .default, .default⟩

end RoutingProcessor
