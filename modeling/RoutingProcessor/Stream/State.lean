import RoutingProcessor.Rpc.Status
import RoutingProcessor.Stream.Respond

namespace RoutingProcessor.Stream

open Http Decision

-- What the peer can put on the inbound side.
inductive Inbound where
  | message (message : Message)
  | failure (status : Rpc.Status)
deriving DecidableEq

-- What the processor of a stream is about to do.
inductive Stage where
  | looking
  | answering (message : Message)
  | placing (response : Response)
  | ended (result : Except Rpc.Status Unit)

-- What one stream runs with. The n-th request to the decision server meets the n-th
-- exchange.
structure Setup where
  engine : Engine
  peer : Nat → Exchange
  capacity : Nat

-- One stream with the two sides of its peer. `taken` and `placed` keep every message that
-- left the inbound side and every response that entered the channel. `answered` is the
-- processor's own count.
structure State where
  inbound : List Inbound
  closed : Bool
  stage : Stage
  channel : List Response
  received : List Response
  dropped : Bool
  aborted : Bool
  taken : List Message
  placed : List Response
  asked : Nat
  answered : Nat
  log : List Log.Event

def State.initial : State where
  inbound := []
  closed := false
  stage := .looking
  channel := []
  received := []
  dropped := false
  aborted := false
  taken := []
  placed := []
  asked := 0
  answered := 0
  log := []

namespace State

def isEnded (s : State) : Bool :=
  match s.stage with
  | .ended _ => true
  | _ => false

def logged (s : State) (events : List Log.Event) : State := { s with log := s.log ++ events }

def endWith (s : State) (result : Except Rpc.Status Unit) : State := { s with stage := .ended result }

def abortedStatus : Rpc.Status := ⟨.cancelled, "stream processing aborted"⟩
def responsesClosedStatus : Rpc.Status := ⟨.cancelled, "response stream closed"⟩
def unsentStatus : Rpc.Status := ⟨.unavailable, "response stream closed"⟩
def brokenStatus (cause : Rpc.Status) : Rpc.Status :=
  ⟨.unknown, "cannot receive stream request: " ++ cause.describe⟩

-- What is logged at the end of the inbound side.
def closedEvent (answered : Nat) : Log.Event :=
  ⟨.info, "ext_proc", "envoy has closed the stream", [("answered", toString answered)]⟩

-- Looks for what is next. An abort wins over a lost response side, which wins over what
-- has arrived.
def look (setup : Setup) (s : State) : Option State :=
  if s.aborted then
    some ((s.logged [.plain .debug "ext_proc" "processing aborted"]).endWith (.error abortedStatus))
  else if s.dropped then
    some ((s.logged [.plain .debug "ext_proc" "processing server context done"]).endWith
      (.error responsesClosedStatus))
  else
    match s.inbound with
    | .message message :: rest =>
      some { s.logged (announce setup.engine message) with
        inbound := rest, stage := .answering message, taken := s.taken ++ [message] }
    | .failure status :: rest =>
      some ({ s with inbound := rest }.endWith (.error (brokenStatus status)))
    | [] =>
      if s.closed then
        some ((s.logged [closedEvent s.answered]).endWith (.ok ()))
      else none

-- Answers a message. Only an abort ends the wait for a server that keeps the request.
def answer (setup : Setup) (s : State) (message : Message) : Option State :=
  if s.aborted then some (s.endWith (.error abortedStatus))
  else
    let exchange := setup.peer s.asked
    (respond setup.engine exchange message).map fun response =>
      { s.logged (conclude setup.engine exchange message) with
        stage := .placing response, asked := s.asked + requests setup.engine exchange message }

-- Places a response as soon as the channel has room. Only the loss of the response side
-- ends the wait for room.
def place (setup : Setup) (s : State) (response : Response) : Option State :=
  if s.dropped then
    some ((s.logged [.plain .error "ext_proc" "send error: response stream closed"]).endWith
      (.error unsentStatus))
  else if s.channel.length < setup.capacity then
    some { s with
      stage := .looking, channel := s.channel ++ [response], placed := s.placed ++ [response]
      answered := s.answered + 1 }
  else none

-- The next step of the processor itself, if it can take one.
def own? (setup : Setup) (s : State) : Option State :=
  match s.stage with
  | .looking => s.look setup
  | .answering message => s.answer setup message
  | .placing response => s.place setup response
  | .ended _ => none

end State

-- What the peer, or whoever holds the abort token, can do at any time.
inductive Action where
  | push (item : Inbound)
  | close
  | receive
  | drop
  | abort

namespace State

-- Nothing can be pushed to a side that is closed or that nobody reads any more.
def accepts (s : State) : Bool := !s.closed && !s.isEnded

def act (s : State) : Action → State
  | .push item => if s.accepts then { s with inbound := s.inbound ++ [item] } else s
  | .close => { s with closed := true }
  | .receive =>
    match s.channel with
    | response :: rest =>
      { s with channel := rest, received := s.received ++ [response] }
    | [] => s
  | .drop => { s with dropped := true, channel := [] }
  | .abort => { s with aborted := true }

end State

-- One step of a run, by the processor or by its surroundings.
inductive Step (setup : Setup) : State → State → Prop where
  | own {s t : State} : s.own? setup = some t → Step setup s t
  | act {s : State} (action : Action) : Step setup s (s.act action)

-- The states that some interleaving of steps leads to.
inductive Reachable (setup : Setup) : State → Prop where
  | initial : Reachable setup .initial
  | step {s t : State} : Reachable setup s → Step setup s t → Reachable setup t

end RoutingProcessor.Stream
