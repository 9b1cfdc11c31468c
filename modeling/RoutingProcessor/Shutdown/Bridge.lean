import RoutingProcessor.Log.Event

namespace RoutingProcessor.Shutdown

-- The signals that end the program.
inductive Signal where
  | interrupt
  | terminate
deriving DecidableEq

def Signal.name : Signal → String
  | interrupt => "SIGINT (CTRL+C)"
  | terminate => "SIGTERM"

def event (level : Log.Level) (message : String) : Log.Event :=
  .plain level "ext_proc_routing::signal" message

-- The task that fires the shutdown token on what is broadcast to it. `sent` is what it
-- has not received yet, oldest first. `isClosed` means that nobody can broadcast any more.
structure Bridge where
  capacity : Nat
  sent : List Signal
  isClosed : Bool
  isFired : Bool
  log : List Log.Event

-- How many signals the channel of the program keeps for a slow receiver.
def defaultCapacity : Nat := 16

namespace Bridge

def initial (capacity : Nat) : Bridge := ⟨capacity, [], false, false, []⟩

-- A signal reaches nobody once the token has fired.
def broadcast (signal : Signal) (b : Bridge) : Bridge :=
  if b.isClosed || b.isFired then b else { b with sent := b.sent ++ [signal] }

def drop (b : Bridge) : Bridge := { b with isClosed := true }

def closedEvent (reason : String) : Log.Event := event .warn ("Shutdown channel closed: " ++ reason)

-- What the task receives, if there is anything to receive. Signals that did not fit into
-- the channel are noticed first, and the end of the channel last.
def reception? (b : Bridge) : Option Log.Event :=
  if b.capacity < b.sent.length then
    some (closedEvent ("channel lagged by " ++ toString (b.sent.length - b.capacity)))
  else
    match b.sent with
    | signal :: _ => some (event .info ("Shutting down on " ++ signal.name))
    | [] => if b.isClosed then some (closedEvent "channel closed") else none

-- Lets the task run. Whatever it receives fires the token and ends it.
def run (b : Bridge) : Bridge :=
  if b.isFired then b
  else
    match b.reception? with
    | some event => { b with isFired := true, log := b.log ++ [event] }
    | none => b

end Bridge

-- What happens around the task.
inductive Command where
  | broadcast (signal : Signal)
  | drop
  | settle

namespace Bridge

def perform (b : Bridge) : Command → Bridge
  | .broadcast signal => b.broadcast signal
  | .drop => b.drop
  | .settle => b.run

-- The states after each of the commands.
def history (b : Bridge) : List Command → List Bridge
  | [] => []
  | command :: commands => b.perform command :: history (b.perform command) commands

end Bridge

end RoutingProcessor.Shutdown
