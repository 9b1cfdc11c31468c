import RoutingProcessor.Stream.Advance

namespace RoutingProcessor.Stream

-- What the peer of a stream does, one command after the other. The processor runs only
-- while the peer waits.
inductive Command where
  | push (item : Inbound)
  | receive
  | send (message : Message)
  | close
  | drop
  | abort
  | settle

-- What the peer learns from a command.
inductive Report where
  | accepted (yes : Bool)
  | response (response : Response)
  | ended
  | lost
  | closed (yes : Bool)
  | dropped (yes : Bool)
  | aborted
  | running (yes : Bool)

namespace State

-- The peer does not wait for a response that is there already.
def receive (setup : Setup) (s : State) : State × Report :=
  if s.dropped then (s, .lost)
  else
    let s := if s.channel.isEmpty then s.advance setup else s
    match s.channel with
    | response :: _ => (s.act .receive, .response response)
    | [] => (s, .ended)

def perform (setup : Setup) (s : State) : Command → State × Report
  | .push item => (s.act (.push item), .accepted s.accepts)
  | .receive => s.receive setup
  | .send message =>
    if s.accepts then (s.act (.push (.message message))).receive setup else (s, .accepted false)
  | .close => (s.act .close, .closed !s.closed)
  | .drop => (s.act .drop, .dropped !s.dropped)
  | .abort => (s.act .abort, .aborted)
  | .settle =>
    let s := s.advance setup
    (s, .running !s.isEnded)

def performAll (setup : Setup) : State → List Command → State × List Report
  | s, [] => (s, [])
  | s, command :: commands =>
    let (s, report) := s.perform setup command
    let (s, reports) := performAll setup s commands
    (s, report :: reports)

-- Receives until the processor has ended and nothing is left. Every round but the last
-- takes what the channel holds.
def drain (setup : Setup) : (rounds : Nat) → State → State × List Response
  | 0, s => (s, [])
  | rounds + 1, s =>
    let s := s.advance setup
    if s.channel.isEmpty then (s, [])
    else
      let (t, rest) := drain setup rounds { s with channel := [], received := s.received ++ s.channel }
      (t, s.channel ++ rest)

-- Ends the inbound side and takes all that is left. No more rounds are needed than
-- there are messages.
def conclude (setup : Setup) (s : State) : State × List Response :=
  drain setup (s.inbound.length + 3) (s.act .close)

end State

end RoutingProcessor.Stream
