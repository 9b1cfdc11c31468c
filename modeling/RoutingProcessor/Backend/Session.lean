import RoutingProcessor.Backend.Advance

namespace RoutingProcessor.Backend

open Http

-- What clients and the listener do, one command after the other. The backend runs
-- after each of them.
inductive Command where
  | connect (requests : List Request)
  | hold
  | release
  | fail (message : String)
  | shutdown
  | exhaust
  | settle

-- What is seen of a command.
inductive Report where
  -- The responses are missing if nobody takes the connection.
  | connected (accepted : Bool) (responses : Option (List Response))
  | accepted (yes : Bool)
  | released
  | shutdown
  | exhausted (yes : Bool)
  | running (yes : Bool)

namespace State

-- What came back on the connections that were done since.
def newAnswers (before after : State) : Option (List Response) :=
  (after.answered.drop before.answered.length).getLast?

def perform (s : State) : Command → State × Report
  | .connect requests =>
    let t := (s.act (.arrive (.visit ⟨requests, false, false⟩))).advance
    (t, .connected s.accepts (newAnswers s t))
  | .hold => ((s.act (.arrive (.visit ⟨[], true, false⟩))).advance, .accepted s.accepts)
  | .release => ((s.act .release).advance, .released)
  | .fail message => ((s.act (.arrive (.failure message))).advance, .accepted s.accepts)
  | .shutdown => ((s.act .shutdown).advance, .shutdown)
  | .exhaust => ((s.act .exhaust).advance, .exhausted !s.exhausted)
  | .settle =>
    let t := s.advance
    (t, .running !t.isReturned)

def performAll : State → List Command → State × List Report
  | s, [] => (s, [])
  | s, command :: commands =>
    let (s, report) := s.perform command
    let (s, reports) := performAll s commands
    (s, report :: reports)

-- Clients let go, the listener ends, and the backend runs to its end.
def conclude (s : State) : State := ((s.act .release).act .exhaust).advance

end State

end RoutingProcessor.Backend
