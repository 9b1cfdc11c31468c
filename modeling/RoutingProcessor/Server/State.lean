import RoutingProcessor.Config.Basic
import RoutingProcessor.Failure.Basic
import RoutingProcessor.Files.Directory
import RoutingProcessor.Server.Status

namespace RoutingProcessor.Server

open Net Files

-- A listener of the server, served by a task of its own. A task ends after its token has
-- fired, and only its owner gives it up.
inductive Task where
  | absent
  | running
  | ended (result : Except Failure Unit)
  | abandoned

-- Whether a listener cannot accept anything any more.
def Task.isDown : Task → Bool
  | running => false
  | _ => true

def Task.isRunning (task : Task) : Bool := !task.isDown

-- What the call that serves is about to do.
inductive Stage where
  | created
  | bindingMock
  | bindingGrpc
  | serving
  -- Open streams may go on until the drain timeout elapses.
  | drainingGrpc
  | abortingStreams
  | removingSocket
  | drainingMock
  | waiting
  | returned (result : Except Failure Unit)

section

local instance : DecidableEq (Except Failure Unit)
  | .ok (), .ok () => .isTrue rfl
  | .error failure, .error other =>
    decidable_of_decidable_of_eq (Except.error.injEq failure other).symm
  | .ok (), .error _ | .error _, .ok () => .isFalse nofun

deriving instance DecidableEq for Stage

end

-- How long aborted streams have to report that they are.
def abortedGrace : Duration := .ofSecs 1

-- How long a call that is on time stays at a stage on its way down.
def Stage.limit? (config : ServerSection) : Stage → Option Duration
  | .drainingGrpc => some config.grpcDrainTimeout
  | .abortingStreams => some abortedGrace
  | .removingSocket => some .zero
  | .drainingMock => some config.httpShutdownTimeout
  | .waiting => some config.shutdownWait
  | _ => none

-- What a call is told that finds the server started.
def alreadyStarted : Failure := .ofCause (.lifecycle .alreadyStarted)

-- What is wrong with a listener that has ended although nobody told it to.
def exitFailure (listener : Listener) : Except Failure Unit → Failure
  | .ok () => .ofCause (.lifecycle (.listenerExited listener))
  | .error failure => failure

-- A server with its tasks and tokens and the files around it. `failures` keeps what went
-- wrong on the way down, `refused` what the calls that were turned away got.
structure State where
  status : Status
  stage : Stage
  -- The time since the server exists, and what it was when the stage was entered.
  now : Duration
  since : Duration
  isFired : Bool
  grpcTask : Task
  mockTask : Task
  isGrpcCancelled : Bool
  isMockCancelled : Bool
  areStreamsAborted : Bool
  failures : List Failure
  refused : List Failure
  files : Directory
  log : List Log.Event

namespace State

def initial (files : Directory) : State where
  status := .created
  stage := .created
  now := .zero
  since := .zero
  isFired := false
  grpcTask := .absent
  mockTask := .absent
  isGrpcCancelled := false
  isMockCancelled := false
  areStreamsAborted := false
  failures := []
  refused := []
  files := files
  log := []

def logged (s : State) (level : Log.Level) (message : String) : State :=
  { s with log := s.log ++ [.plain level "server" message] }

def publish (s : State) (phase : Phase) : State := { s with status := { s.status with phase } }

def enter (s : State) (stage : Stage) : State := { s with stage, since := s.now }

-- Whether so much time has passed since the stage was entered.
def HasWaited (s : State) (time : Duration) : Prop := s.since.nanos + time.nanos ≤ s.now.nanos

instance (s : State) (time : Duration) : Decidable (s.HasWaited time) :=
  inferInstanceAs (Decidable (_ ≤ _))

-- Takes the first call on. Every other call is turned away and changes nothing else.
def call (config : ServerSection) (s : State) : State :=
  match s.stage with
  | .created => s.enter (if config.mockBackend.isSome then .bindingMock else .bindingGrpc)
  | _ => { s with refused := s.refused ++ [alreadyStarted] }

-- The way out of a set-up that failed.
def fail (s : State) (failure : Failure) : State :=
  (s.publish .stopped).enter (.returned (.error failure))

def mockBound (s : State) (address : SocketAddress) : State :=
  { s.enter .bindingGrpc with
    status := { s.status with mockBackend := some address }
    mockTask := .running
    log := s.log ++
      [⟨.info, "server", "starting mock http server", [("addr", address.print)]⟩] }

def grpcBound (s : State) (address : ListenAddress) (files : Directory) : State :=
  { s.enter .serving with
    status := { s.status with phase := .serving, grpc := some address }
    grpcTask := .running
    files := files
    log := s.log ++
      [⟨.info, "server", "starting ext proc grpc server", [("address", address.print)]⟩] }

-- The mock backend is told to end, but nobody waits for it.
def grpcFailed (s : State) (failure : Failure) (files : Directory) : State :=
  { s with isMockCancelled := true, files := files }.fail failure

def leave (s : State) : State :=
  { ((s.publish .stopping).logged .info "stopping grpc server").enter .drainingGrpc with
    isGrpcCancelled := true }

-- What became of the gRPC server, once it is down.
def settleGrpc (s : State) (result : Except Failure Unit) : State :=
  match result with
  | .ok () => s.enter .removingSocket
  | .error failure =>
    { (s.logged .error ("grpc server shutdown error: " ++ failure.message)).enter
        .removingSocket with
      failures := s.failures ++ [failure] }

def abortStreams (config : ServerSection) (s : State) : State :=
  let message :=
    "streams still open after " ++ config.grpcDrainTimeout.compact ++ ", cancelling them"
  { (s.logged .warn message).enter .abortingStreams with areStreamsAborted := true }

def abandonGrpc (s : State) : State :=
  { s with grpcTask := .abandoned }.settleGrpc
    (.error (.ofText "grpc server did not stop after its streams were cancelled"))

-- Removes the socket that was served, if there was one. That it is gone already is as
-- good; any other trouble is only logged.
def removeSocket (s : State) : State :=
  match s.status.grpc with
  | some (.unix path) =>
    match s.files.remove path with
    | .ok files => { s with files }
    | .error code =>
      if code = notFound then s
      else
        s.logged .warn
          ("cannot remove socket " ++ path ++ ": " ++ (Failure.Cause.system code).message)
  | _ => s

-- The last wait, with every listener down.
def startWaiting (config : ServerSection) (s : State) : State :=
  { s.enter .waiting with
    log := s.log ++ [⟨.debug, "server", "waiting before declaring the server stopped",
      [("wait", config.shutdownWait.compact)]⟩] }

-- Turns to the mock backend after the socket, if a mock backend runs.
def leaveMock (config : ServerSection) (s : State) : State :=
  let s := s.removeSocket
  match s.mockTask with
  | .absent => s.startWaiting config
  | _ =>
    { (s.logged .info "stopping http server").enter .drainingMock with isMockCancelled := true }

def settleMock (config : ServerSection) (s : State) (result : Except Failure Unit) : State :=
  match result.mapError (·.context "http server shutdown error") with
  | .ok () => s.startWaiting config
  | .error failure =>
    { s.logged .error failure.message with failures := s.failures ++ [failure] }.startWaiting config

@[simp] theorem settleMock_ok (config : ServerSection) (s : State) (u : Unit) :
    s.settleMock config (.ok u) = s.startWaiting config := rfl

@[simp] theorem settleMock_error (config : ServerSection) (s : State) (failure : Failure) :
    s.settleMock config (.error failure) =
      let failure := failure.context "http server shutdown error"
      { s.logged .error failure.message with failures := s.failures ++ [failure] }.startWaiting
        config := rfl

def abandonMock (config : ServerSection) (s : State) : State :=
  { s with mockTask := .abandoned }.settleMock config
    (.error (.ofText ("timed out after " ++ config.httpShutdownTimeout.compact)))

-- The first failure is what the call returns.
def finish (s : State) : State :=
  ((s.publish .stopped).logged .info "server stopped").enter <| .returned <|
    match s.failures with
    | [] => .ok ()
    | failure :: _ => .error failure

-- The way out if a listener has failed while the call served: everything is told to end, but
-- nobody waits for it.
def collapse (s : State) (failure : Failure) : State :=
  let s := s.logged .error ("listener failed, shutting down: " ++ failure.message)
  let s := { s with isGrpcCancelled := true, isMockCancelled := true, areStreamsAborted := true }
  (s.removeSocket.publish .stopped).enter (.returned (.error failure))

end State

-- The addresses that a listener can be bound to, and the files it may change on the way.
def GrpcBinding (config : ServerSection) (s : State) (address : ListenAddress)
    (files : Directory) : Prop :=
  match config.grpc.network with
  | .tcp => (∃ socket, address = .tcp socket) ∧ files = s.files
  | .unix => address = .unix config.grpc.address

-- One step of the call that serves, or of one of its tasks. What binding an address gives
-- and how a task ends is left open. A timeout elapses no earlier than it should, and the
-- call notices if its task still runs by then.
inductive Own (config : ServerSection) : State → State → Prop where
  | mockBound {s : State} (address : SocketAddress) :
    s.stage = .bindingMock → Own config s (s.mockBound address)
  | mockFailed {s : State} (failure : Failure) :
    s.stage = .bindingMock → Own config s (s.fail failure)
  | grpcBound {s : State} {address : ListenAddress} {files : Directory} :
    s.stage = .bindingGrpc → GrpcBinding config s address files →
    Own config s (s.grpcBound address files)
  | grpcFailed {s : State} (failure : Failure) {files : Directory} :
    s.stage = .bindingGrpc → (config.grpc.network = .tcp → files = s.files) →
    Own config s (s.grpcFailed failure files)
  | leave {s : State} : s.stage = .serving → s.isFired → Own config s s.leave
  | grpcDrained {s : State} {result : Except Failure Unit} :
    s.stage = .drainingGrpc → s.grpcTask = .ended result → Own config s (s.settleGrpc result)
  | drainElapsed {s : State} :
    s.stage = .drainingGrpc → s.grpcTask = .running → s.HasWaited config.grpcDrainTimeout →
    Own config s (s.abortStreams config)
  | grpcAborted {s : State} {result : Except Failure Unit} :
    s.stage = .abortingStreams → s.grpcTask = .ended result → Own config s (s.settleGrpc result)
  | graceElapsed {s : State} :
    s.stage = .abortingStreams → s.grpcTask = .running → s.HasWaited abortedGrace →
    Own config s s.abandonGrpc
  | leaveMock {s : State} : s.stage = .removingSocket → Own config s (s.leaveMock config)
  | mockDrained {s : State} {result : Except Failure Unit} :
    s.stage = .drainingMock → s.mockTask = .ended result → Own config s (s.settleMock config result)
  | mockElapsed {s : State} :
    s.stage = .drainingMock → s.mockTask = .running → s.HasWaited config.httpShutdownTimeout →
    Own config s (s.abandonMock config)
  | finish {s : State} :
    s.stage = .waiting → s.HasWaited config.shutdownWait → Own config s s.finish
  | grpcEnds {s : State} (result : Except Failure Unit) :
    s.grpcTask = .running → s.isGrpcCancelled → Own config s { s with grpcTask := .ended result }
  | mockEnds {s : State} (result : Except Failure Unit) :
    s.mockTask = .running → s.isMockCancelled → Own config s { s with mockTask := .ended result }

-- What callers, whoever holds the shutdown token, clients and other programs on the host
-- can do at any time, and that time passes between two steps, however much.
inductive Action where
  | call
  | fire
  | check (service : String)
  | touch (files : Directory)
  | pass (time : Duration)

namespace State

def act (config : ServerSection) (s : State) : Action → State
  | .call => s.call config
  | .fire => { s with isFired := true }
  | .check service =>
    { s with log := s.log ++
        [⟨.debug, "health", "received health check request", [("service", service)]⟩] }
  | .touch files => { s with files }
  | .pass time => { s with now := ⟨s.now.nanos + time.nanos⟩ }

end State

inductive Step (config : ServerSection) : State → State → Prop where
  | own {s t : State} : Own config s t → Step config s t
  | act {s : State} (action : Action) : Step config s (s.act config action)

-- A listener that ends by itself, which it may at any time, and what comes of it if the call
-- serves and notices.
inductive Breakdown : State → State → Prop where
  | grpcEnds {s : State} (result : Except Failure Unit) :
    s.grpcTask = .running → Breakdown s { s with grpcTask := .ended result }
  | mockEnds {s : State} (result : Except Failure Unit) :
    s.mockTask = .running → Breakdown s { s with mockTask := .ended result }
  | grpcExited {s : State} {result : Except Failure Unit} :
    s.stage = .serving → s.grpcTask = .ended result →
    Breakdown s (s.collapse (exitFailure .grpc result))
  | mockExited {s : State} {result : Except Failure Unit} :
    s.stage = .serving → s.mockTask = .ended result →
    Breakdown s (s.collapse (exitFailure .mockBackend result))

-- The states that some interleaving of steps leads to, from any files, as long as no listener
-- ends by itself.
inductive Reachable (config : ServerSection) : State → Prop where
  | initial (files : Directory) : Reachable config (.initial files)
  | step {s t : State} : Reachable config s → Step config s t → Reachable config t

end RoutingProcessor.Server
