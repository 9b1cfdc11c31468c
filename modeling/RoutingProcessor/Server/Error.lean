import RoutingProcessor.Duration.Basic

namespace RoutingProcessor.Server

-- The two listeners of a server.
inductive Listener where
  | grpc
  | mockBackend
deriving DecidableEq

def Listener.name : Listener → String
  | grpc => "grpc server"
  | mockBackend => "mock http server"

-- What can go wrong with the life of a server itself.
inductive Error where
  | alreadyStarted
  | listenerExited (listener : Listener)
  | notReady (after : Duration)
  | unixUnsupported
deriving DecidableEq

def Error.message : Error → String
  | alreadyStarted => "server has already been started"
  | listenerExited listener => listener.name ++ " stopped unexpectedly"
  | notReady after => "server not ready after " ++ after.compact
  | unixUnsupported => "unix sockets are not supported on this platform"

end RoutingProcessor.Server
