import RoutingProcessor.Backend.Wire
import RoutingProcessor.Server.Advance
import RoutingProcessor.Server.Ready
import RoutingProcessor.Stream.Advance

namespace RoutingProcessor.Server

open Net Files Http

-- What a server runs with. The n-th request to the decision server meets the n-th exchange.
structure Setup where
  config : Config
  host : Host
  peer : Nat → Exchange

-- The two sides of a stream, and whether its client knows with what status it ended.
structure Connection where
  stream : Stream.State
  isTold : Bool

-- A server with its clients. `asked` counts the requests to the decision server of the
-- streams that are gone, `held` the connections to the mock backend with half a request.
structure Session where
  server : State
  seen : List Phase
  connections : List (String × Connection)
  asked : Nat
  held : Nat
  -- Whether a call serves for whose end nobody has waited yet.
  isStarted : Bool

-- How many responses wait for a slow client.
def channelCapacity : Nat := 16

namespace Session

def initial (files : Directory) : Session where
  server := .initial files
  seen := [.created]
  connections := []
  asked := 0
  held := 0
  isStarted := false

def load (s : Session) : Load :=
  ⟨s.connections.any fun c => !c.2.stream.isEnded, 0 < s.held⟩

-- What a stream runs with: its first request comes after those of all other streams.
def streamSetup (setup : Setup) (s : Session) (stream : Stream.State) : Stream.Setup :=
  let total := s.connections.foldl (fun n c => n + c.2.stream.asked) s.asked
  { engine := setup.config.decision.engine
    peer := fun n => setup.peer (total - stream.asked + n)
    capacity := channelCapacity }

def settleServer (setup : Setup) (s : Session) : Session :=
  let (server, seen) := s.server.advance setup.config.server setup.host s.load s.seen
  { s with server, seen }

def settleStreams (setup : Setup) (s : Session) : Session :=
  let advance (stream : Stream.State) : Stream.State :=
    let stream := if s.server.areStreamsAborted then stream.act .abort else stream
    stream.advance (s.streamSetup setup stream)
  { s with
    connections := s.connections.map fun (id, c) => (id, { c with stream := advance c.stream }) }

-- Lets the server and its streams run until they have to wait.
def settle (setup : Setup) (s : Session) : Session :=
  ((s.settleServer setup).settleStreams setup).settleServer setup

-- How long it is until the server need not wait any more where it stands.
def rest? (setup : Setup) (s : Session) : Option Duration :=
  (s.server.stage.limit? setup.config.server).map fun limit =>
    ⟨s.server.since.nanos + limit.nanos - s.server.now.nanos⟩

-- Lets some time pass in which nothing happens, and then everybody run.
def wait (setup : Setup) (s : Session) (time : Duration) : Session :=
  { s with server := s.server.act setup.config.server (.pass time) }.settle setup

-- The timeouts of a whole stop.
def timeouts : Nat := 4

-- Lets time pass from one timeout of the server to the next, without end if there is no limit.
def pass (setup : Setup) : (limit : Option Duration) → (rounds : Nat) → Session → Session
  | none, 0, s => s
  | some limit, 0, s => s.wait setup limit
  | limit, rounds + 1, s =>
    match s.rest? setup, limit with
    | some rest, none => pass setup none rounds (s.wait setup rest)
    | some rest, some limit =>
      if rest.nanos ≤ limit.nanos then
        pass setup (some ⟨limit.nanos - rest.nanos⟩) rounds (s.wait setup rest)
      else s.wait setup limit
    | none, some limit => s.wait setup limit
    | none, none => s

-- Whether clients can connect to the gRPC server.
def reachesGrpc (setup : Setup) (s : Session) : Bool :=
  s.server.grpcTask.isRunning && !s.server.isGrpcCancelled &&
    match s.server.status.grpc with
    | some (.tcp address) => setup.host.reaches address
    | some (.unix path) =>
      match s.server.files.find path with
      | .ok .socket => true
      | _ => false
    | none => false

-- Whether clients can connect to the mock backend.
def reachesMock (setup : Setup) (s : Session) : Bool :=
  s.server.mockTask.isRunning && !s.server.isMockCancelled &&
    s.server.status.mockBackend.any setup.host.reaches

-- A server without a mock backend is ready as soon as it exists. With one, the backend
-- has to answer.
def isReady (setup : Setup) (s : Session) : Bool :=
  setup.config.server.mockBackend.isNone || s.reachesMock setup

-- What a question meets that is put after some time. It is answered at once.
def probe (setup : Setup) (s : Session) (time : Duration) : Probe :=
  ⟨(s.pass setup (some time) timeouts).isReady setup, .zero⟩

end Session

-- What clients and the owner of a server do, one command after the other.
inductive Command where
  | status
  | serve
  | isReady
  | waitReady (wait : Duration)
  | connect (id : String)
  | send (id : String) (message : Stream.Message)
  | receive (id : String)
  | finish (id : String)
  | drop (id : String)
  | check (service : String)
  | watch (service : String)
  | fetch (request : Request)
  | hold
  | look (path : String)
  | remove (path : String)
  | replaceByDirectory (path : String)
  | cancel
  | stop

-- What is seen of a command.
inductive Report where
  | status (status : Status)
  | failed (failure : Failure)
  | returned
  | ready (yes : Bool)
  | connected
  | noAddress
  | unreachable
  | noStream
  | response (response : Stream.Response)
  | remote (status : Rpc.Status)
  | closed
  | dropped (yes : Bool)
  | health (health : Health)
  | answer (response : Option Response)
  | held (count : Nat)
  | found (yes : Bool)
  | removed (yes : Bool)
  | replaced (yes : Bool)
  | cancelled
  | stopped (result : Except Failure Unit) (status : Status)
  | notStarted

namespace Session

def lifecycleFailure (error : Server.Error) : Failure := .ofCause (.lifecycle error)

-- What is told of a wait that is over.
def waitReport (wait : Duration) (waited : Wait) : Report :=
  if waited.result = some true then .ready true else .failed (lifecycleFailure (.notReady wait))

-- Serves until the server is up or has returned.
def serve (setup : Setup) (s : Session) : Session × Report :=
  let called := { s with server := s.server.act setup.config.server .call }
  match s.server.stage with
  | .created =>
    let s := called.settle setup
    match s.server.stage with
    | .serving => ({ s with isStarted := true }, .status s.server.status)
    | _ =>
      let s := s.pass setup none timeouts
      match s.server.stage with
      | .returned (.error failure) => (s, .failed failure)
      | _ => (s, .returned)
  | _ => (called, .failed alreadyStarted)

-- Fires the token and waits for the call that serves.
def stop (setup : Setup) (s : Session) : Session × Report :=
  if s.isStarted then
    let s := { s with server := s.server.act setup.config.server .fire, isStarted := false }
    let s := (s.settle setup).pass setup none timeouts
    match s.server.stage with
    | .returned result => (s, .stopped result s.server.status)
    | _ => (s, .notStarted)
  else (s, .notStarted)

def setConnection (s : Session) (id : String) (c : Connection) : Session :=
  { s with connections := s.connections.map fun e => if e.1 = id then (id, c) else e }

-- Forgets a stream and the client that had it.
def removeConnection (s : Session) (id : String) : Session :=
  { s with
    connections := s.connections.filter (·.1 ≠ id)
    asked :=
      (s.connections.filter (·.1 = id)).foldl (fun n e => n + e.2.stream.asked) s.asked }

-- What a client gets from its stream without any time passing.
def deliver? (s : Session) (id : String) (c : Connection) : Option (Session × Report) :=
  match c.stream.channel, c.stream.stage with
  | response :: _, _ =>
    some (s.setConnection id { c with stream := c.stream.act .receive }, .response response)
  | [], .ended (.ok ()) => some (s, .closed)
  | [], .ended (.error status) =>
    if c.isTold then some (s, .closed)
    else some (s.setConnection id { c with isTold := true }, .remote status)
  | [], _ => none

-- Waits for what comes next on a stream, beyond a timeout of the server if need be.
def receive (setup : Setup) (id : String) : (rounds : Nat) → Session → Session × Report
  | 0, s => (s, .closed)
  | rounds + 1, s =>
    let s := (s.settleStreams setup).settle setup
    match s.connections.lookup id with
    | none => (s, .noStream)
    | some c =>
      match s.deliver? id c with
      | some answer => answer
      | none =>
        match s.rest? setup with
        | some rest => receive setup id rounds (s.wait setup rest)
        | none => (s, .closed)

-- Does something to the request side of a stream and waits for what comes next.
def exchange (setup : Setup) (id : String) (actions : List Stream.Action) (s : Session) :
    Session × Report :=
  match s.connections.lookup id with
  | none => (s, .noStream)
  | some c =>
    (s.setConnection id { c with stream := actions.foldl Stream.State.act c.stream }).receive
      setup id (timeouts + 1)

-- Connects to the gRPC server and uses the connection.
def withGrpc (setup : Setup) (s : Session) (use : Session → Session × Report) :
    Session × Report :=
  let s := s.settle setup
  if s.server.status.grpc.isNone then (s, .noAddress)
  else if s.reachesGrpc setup then use s
  else (s, .unreachable)

def withMock (setup : Setup) (s : Session) (use : Session → Session × Report) :
    Session × Report :=
  let s := s.settle setup
  if s.server.status.mockBackend.isNone then (s, .noAddress)
  else if s.reachesMock setup then use s
  else (s, .unreachable)

def touch (setup : Setup) (s : Session) (files : Directory) : Session :=
  { s with server := s.server.act setup.config.server (.touch files) }

def remove (setup : Setup) (s : Session) (path : String) : Session × Bool :=
  match s.server.files.remove path with
  | .ok files => (s.touch setup files, true)
  | .error _ => (s, false)

def perform (setup : Setup) (s : Session) : Command → Session × Report
  | .status => (s, .status s.server.status)
  | .serve => s.serve setup
  | .isReady =>
    let s := if s.server.status.mockBackend.isSome then s.settle setup else s
    (s, .ready (s.isReady setup))
  | .waitReady wait =>
    let s := s.settle setup
    let waited := Wait.initial.finish (s.probe setup) wait
    (s.pass setup (some waited.now) timeouts, waitReport wait waited)
  | .connect id => s.withGrpc setup fun s =>
    let s := s.removeConnection id
    let connections := s.connections ++ [(id, Connection.mk .initial false)]
    ({ s with connections }.settle setup, .connected)
  | .send id message => s.exchange setup id [.push (.message message)]
  | .receive id => s.exchange setup id []
  | .finish id => s.exchange setup id [.close]
  | .drop id => (s.removeConnection id, .dropped (s.connections.lookup id).isSome)
  | .check service => s.withGrpc setup fun s =>
    ({ s with server := s.server.act setup.config.server (.check service) },
      .health (healthOf service))
  | .watch _ => s.withGrpc setup fun s => (s, .remote watchStatus)
  | .fetch request => s.withMock setup fun s => (s, .answer (Backend.serve [request]).1.head?)
  | .hold =>
    let s := s.settle setup
    let s := if s.reachesMock setup then { s with held := s.held + 1 } else s
    (s, .held s.held)
  | .look path => (s, .found (match s.server.files.find path with
    | .ok _ => true
    | .error _ => false))
  | .remove path =>
    let (s, yes) := s.remove setup path
    (s, .removed yes)
  | .replaceByDirectory path =>
    let (s, _) := s.remove setup path
    match s.server.files.create path .directory with
    | .ok files => (s.touch setup files, .replaced true)
    | .error _ => (s, .replaced false)
  | .cancel => ({ s with server := s.server.act setup.config.server .fire }, .cancelled)
  | .stop => s.stop setup

def performAll (setup : Setup) : Session → List Command → Session × List Report
  | s, [] => (s, [])
  | s, command :: commands =>
    let (s, report) := s.perform setup command
    let (s, reports) := performAll setup s commands
    (s, report :: reports)

end Session

end RoutingProcessor.Server
