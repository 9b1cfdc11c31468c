import RoutingProcessor.Shutdown.Bridge

namespace RoutingProcessor.Shutdown

-- What the task that waits for the signals of the system is about to do.
inductive Stage where
  | installing
  | waiting
  | broadcasting (signal : Signal)
  | finished (signal : Signal)
deriving DecidableEq

-- The handler beside the rest of the program, which subscribes to its channel only after
-- it has started it. The program keeps a sender of its own as long as it runs.
structure Handler where
  stage : Stage
  bridge : Option Bridge
  log : List Log.Event

namespace Handler

def initial : Handler := ⟨.installing, none, []⟩

def install (h : Handler) : Handler := { h with stage := .waiting }

def receive (h : Handler) (signal : Signal) : Handler :=
  { h with
    stage := .broadcasting signal
    log := h.log ++
      [event .info ("Received " ++ signal.name ++ " signal, initiating shutdown...")] }

-- Hands a signal to whoever has subscribed. Without a subscriber it is gone.
def broadcast (h : Handler) (signal : Signal) : Handler :=
  match h.bridge with
  | some bridge =>
    { h with stage := .finished signal, bridge := some (bridge.broadcast signal) }
  | none =>
    { h with
      stage := .finished signal
      log := h.log ++ [event .warn "Failed to send shutdown signal: channel closed"] }

def subscribe (h : Handler) : Handler := { h with bridge := some (.initial defaultCapacity) }

def isFired (h : Handler) : Bool := h.bridge.any Bridge.isFired

end Handler

-- One step of the handler, of the program that subscribes, or of the bridge.
inductive Step : Handler → Handler → Prop where
  | install {h : Handler} : h.stage = .installing → Step h h.install
  | receive {h : Handler} (signal : Signal) : h.stage = .waiting → Step h (h.receive signal)
  | broadcast {h : Handler} {signal : Signal} :
    h.stage = .broadcasting signal → Step h (h.broadcast signal)
  | subscribe {h : Handler} : h.bridge = none → Step h h.subscribe
  | run {h : Handler} {bridge : Bridge} :
    h.bridge = some bridge → Step h { h with bridge := some bridge.run }

-- The states that some interleaving of steps leads to.
inductive Reachable : Handler → Prop where
  | initial : Reachable .initial
  | step {h t : Handler} : Reachable h → Step h t → Reachable t

end RoutingProcessor.Shutdown
