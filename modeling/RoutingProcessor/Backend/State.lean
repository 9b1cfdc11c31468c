import RoutingProcessor.Backend.Wire

namespace RoutingProcessor.Backend

open Http

-- A connection: the requests it carries, whether its client keeps it open with half of
-- another one, and whether it was told to end after what it carries.
structure Visit where
  requests : List Request
  isHeld : Bool
  isTold : Bool

namespace Visit

def released (visit : Visit) : Visit := { visit with isHeld := false }

def told (visit : Visit) : Visit := { visit with isTold := true }

end Visit

-- What arrives at the listener.
inductive Arrival where
  | visit (visit : Visit)
  | failure (message : String)

-- Clients let go of what they keep open.
def Arrival.released : Arrival → Arrival
  | visit v => visit v.released
  | failure message => failure message

-- Why the accept loop was left.
inductive Ending where
  | stopped
  | listenerClosed
deriving DecidableEq

def Ending.result : Ending → Except String Unit
  | stopped => .ok ()
  | listenerClosed => .error "mock http server listener closed"

-- What the backend is about to do. After a failed accept it pauses.
inductive Stage where
  | listening
  | pausing
  | draining (ending : Ending)
  | returned (ending : Ending)
deriving DecidableEq

-- The backend and its surroundings. `taken` keeps all that was accepted, `answered` the
-- responses of every connection that is done.
structure State where
  incoming : List Arrival
  exhausted : Bool
  shutdown : Bool
  stage : Stage
  active : List Visit
  taken : List Arrival
  answered : List (List Response)
  log : List Log.Event

def event (level : Log.Level) (message : String) : Log.Event := .plain level "mock_backend" message

def State.initial : State where
  incoming := []
  exhausted := false
  shutdown := false
  stage := .listening
  active := []
  taken := []
  answered := []
  log := [event .info "starting mock http server"]

namespace State

def isReturned (s : State) : Bool :=
  match s.stage with
  | .returned _ => true
  | _ => false

-- Takes the next arrival. A failed accept is logged and leaves everything else as it is.
def take (s : State) (arrival : Arrival) (rest : List Arrival) : State :=
  let s := { s with incoming := rest, taken := s.taken ++ [arrival] }
  match arrival with
  | .visit visit => { s with active := s.active ++ [visit] }
  | .failure message =>
    { s with
      stage := .pausing
      log := s.log ++ [event .warn ("failed to accept a connection: " ++ message)] }

-- Leaves the accept loop. Open connections are told to end after what they carry.
def leave (s : State) (ending : Ending) : State :=
  { s with
    stage := .draining ending
    active := s.active.map Visit.told
    log := s.log ++ [event .info "stopping http server"] }

-- Answers what a connection carries and is done with it.
def finish (s : State) (before : List Visit) (visit : Visit) (after : List Visit) : State :=
  let (responses, events) := serve visit.requests
  { s with
    active := before ++ after
    answered := s.answered ++ [responses]
    log := s.log ++ events }

end State

-- One step of the backend. In the accept loop an arrival and a shutdown race.
inductive Own : State → State → Prop where
  | take {s : State} {arrival : Arrival} {rest : List Arrival} :
    s.stage = .listening → s.incoming = arrival :: rest → Own s (s.take arrival rest)
  | stop {s : State} : s.stage = .listening → s.shutdown → Own s (s.leave .stopped)
  | dry {s : State} :
    s.stage = .listening → s.incoming = [] → s.exhausted → Own s (s.leave .listenerClosed)
  | resume {s : State} : s.stage = .pausing → Own s { s with stage := .listening }
  | finish {s : State} {before after : List Visit} {visit : Visit} :
    s.active = before ++ visit :: after → !visit.isHeld → Own s (s.finish before visit after)
  | done {s : State} {ending : Ending} :
    s.stage = .draining ending → s.active = [] → Own s { s with stage := .returned ending }

-- What clients, the listener and whoever holds the shutdown token can do at any time.
inductive Action where
  | arrive (arrival : Arrival)
  | exhaust
  | release
  | shutdown

namespace State

-- Nothing arrives at a listener that has ended, or that nobody holds any more.
def accepts (s : State) : Bool := !s.exhausted && !s.isReturned

def act (s : State) : Action → State
  | .arrive arrival =>
    if s.accepts then { s with incoming := s.incoming ++ [arrival] } else s
  | .exhaust => { s with exhausted := true }
  | .release =>
    { s with
      incoming := s.incoming.map Arrival.released
      active := s.active.map Visit.released }
  | .shutdown => { s with shutdown := true }

end State

inductive Step : State → State → Prop where
  | own {s t : State} : Own s t → Step s t
  | act {s : State} (action : Action) : Step s (s.act action)

-- The states that some interleaving of steps leads to.
inductive Reachable : State → Prop where
  | initial : Reachable .initial
  | step {s t : State} : Reachable s → Step s t → Reachable t

end RoutingProcessor.Backend
