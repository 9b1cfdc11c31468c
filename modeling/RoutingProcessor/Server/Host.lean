import RoutingProcessor.Net.Parse
import RoutingProcessor.Server.State

namespace RoutingProcessor.Server

open Net Files

-- What a server finds around it: the addresses on which others listen, the first port for
-- those who take any, and the listeners that clients can connect to.
structure Host where
  taken : List SocketAddress
  freePort : UInt16
  reaches : SocketAddress → Bool

def invalidInput (message : String) : Failure := .ofCause (.io "InvalidInput" (.text message))

def systemFailure (code : Int) : Failure := .ofCause (.system code)

def addressInUse : Int := 98
def addressNotAvailable : Int := 99

-- What a name means without any name service.
def lookUp (name : String) : Except Failure Ip :=
  if name = "localhost" then .ok (.v4 ⟨127, 0, 0, 1⟩)
  else
    match Reader.whole ipv4 name.toList, Reader.whole ipv6 name.toList with
    | some ip, _ => .ok (.v4 ip)
    | none, some ip => .ok (.v6 ip)
    | none, none =>
      .error (.ofCause (.io "Uncategorized"
        (.text "failed to lookup address information: Name or service not known")))

-- Reads an address that may hold a name. The last colon stands in front of the port.
def resolve (text : String) : Except Failure SocketAddress :=
  match SocketAddress.parse? text with
  | some address => .ok address
  | none =>
    match text.toList.reverse.span (· ≠ ':') with
    | (_, []) => .error (invalidInput "invalid socket address")
    | (port, _ :: name) =>
      match Number.parseBelow 65536 (String.ofList port.reverse) with
      | .error _ => .error (invalidInput "invalid port value")
      | .ok port => (lookUp (String.ofList name.reverse)).map fun
        | .v4 ip => .v4 ip port.toUInt16
        | .v6 ip => .v6 ip port.toUInt16 0

-- Binds an address. Port zero stands for any port that is free.
def Host.bind (host : Host) (address : SocketAddress) : Except Failure SocketAddress :=
  let clashes (other : SocketAddress) : Bool :=
    other.port = address.port &&
      (other.host.covers address.host || address.host.covers other.host)
  if !address.host.isOwn then .error (systemFailure addressNotAvailable)
  else if address.port = 0 then
    .ok (address.withPort (host.freePort + host.taken.length.toUInt16))
  else if host.taken.any clashes then .error (systemFailure addressInUse)
  else .ok address

-- The longest path of a socket has one byte less.
def socketPathLimit : Nat := 108

-- Makes a socket where nothing is. An empty path gives a socket without a name.
def makeSocket (files : Directory) (path : String) : Except Failure Directory :=
  if socketPathLimit ≤ path.utf8ByteSize then
    .error (invalidInput "path must be shorter than SUN_LEN")
  else if path = "" then .ok files
  else (files.create path .socket).mapError systemFailure

-- Removes what was left at the path of a socket. Nothing is as good.
def removeStale (files : Directory) (path : String) : Except Failure Directory :=
  if path.toList.contains '\x00' then
    .error (invalidInput "file name contained an unexpected NUL byte")
  else
    match files.remove path with
    | .ok files => .ok files
    | .error code => if code = notFound then .ok files else .error (systemFailure code)

namespace State

-- Everything on which somebody listens.
def taken (host : Host) (s : State) : Host :=
  { host with taken := host.taken ++ s.status.mockBackend.toList }

def bindMock (host : Host) (s : State) (address : SocketAddress) : State :=
  match host.bind address with
  | .ok bound => s.mockBound bound
  | .error failure => s.fail (failure.context ("cannot bind mock http server on " ++ address.print))

def bindTcp (host : Host) (s : State) (address : String) : State :=
  match resolve address >>= (s.taken host).bind with
  | .ok bound => s.grpcBound (.tcp bound) s.files
  | .error failure =>
    s.grpcFailed (failure.context ("cannot listen on tcp " ++ address)) s.files

def bindUnix (s : State) (path : String) : State :=
  match removeStale s.files path with
  | .error failure =>
    s.grpcFailed (failure.context ("cannot remove stale socket " ++ path)) s.files
  | .ok files =>
    match makeSocket files path with
    | .error failure => s.grpcFailed (failure.context ("cannot listen on unix " ++ path)) files
    | .ok files => s.grpcBound (.unix path) files

def bindGrpc (host : Host) (s : State) (listener : GrpcListener) : State :=
  match listener.network with
  | .tcp => s.bindTcp host listener.address
  | .unix => s.bindUnix listener.address

end State

end RoutingProcessor.Server
