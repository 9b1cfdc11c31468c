import RoutingProcessor.Net.Address
import RoutingProcessor.Rpc.Status

namespace RoutingProcessor.Server

open Net

-- Where a server listens once its listener is up.
inductive ListenAddress where
  | tcp (address : SocketAddress)
  | unix (path : String)
deriving DecidableEq

def ListenAddress.print : ListenAddress → String
  | tcp address => "tcp://" ++ address.print
  | unix path => "unix://" ++ path

inductive Phase where
  | created
  | serving
  | stopping
  | stopped
deriving DecidableEq

-- What a server lets others know of itself. The addresses are those really bound.
structure Status where
  phase : Phase
  grpc : Option ListenAddress
  mockBackend : Option SocketAddress
deriving DecidableEq

def Status.created : Status := ⟨.created, none, none⟩

inductive Health where
  | serving
deriving DecidableEq

def Health.name : Health → String
  | serving => "SERVING"

-- Every service that is asked for is well.
def healthOf (_service : String) : Health := .serving

-- Nobody can follow the health of a service.
def watchStatus : Rpc.Status := ⟨.unimplemented, "watch is not implemented"⟩

end RoutingProcessor.Server
