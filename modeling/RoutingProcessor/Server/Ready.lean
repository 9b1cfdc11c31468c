import RoutingProcessor.Duration.Basic

namespace RoutingProcessor.Server

-- How often a server is asked whether it is ready. The first time is one interval after
-- the wait began.
def pollInterval : Duration := .ofMillis 500

-- A question that is put later than this puts off the ones behind it.
def pollTolerance : Duration := .ofMillis 5

-- One question to a server, and how long the answer took.
structure Probe where
  isReady : Bool
  takes : Duration

-- A wait for a server: how long it has lasted, when the next question is due, when the
-- questions were put, and whether the server was found to be ready once it is over.
structure Wait where
  now : Duration
  due : Duration
  asked : List Duration
  result : Option Bool

namespace Wait

def initial : Wait := ⟨.zero, pollInterval, [], none⟩

-- A question is put when it is due, or once the last one is answered if that took longer.
def next (w : Wait) : Duration := ⟨max w.now.nanos w.due.nanos⟩

-- Puts the next question and waits for the answer, past the deadline if need be.
def ask (probe : Duration → Probe) (w : Wait) : Wait where
  now := ⟨w.next.nanos + (probe w.next).takes.nanos⟩
  due :=
    let late := w.due.nanos + pollTolerance.nanos < w.next.nanos
    ⟨(if late then w.next.nanos else w.due.nanos) + pollInterval.nanos⟩
  asked := w.asked ++ [w.next]
  result := if (probe w.next).isReady then some true else none

def expire (deadline : Duration) (w : Wait) : Wait :=
  { w with now := ⟨max w.now.nanos deadline.nanos⟩, result := some false }

-- What happens next. If a question is due when the deadline is over, it may be either.
inductive Step (probe : Duration → Probe) (deadline : Duration) : Wait → Wait → Prop where
  | ask {w : Wait} : w.result = none → w.due.nanos ≤ max w.now.nanos deadline.nanos →
    Step probe deadline w (w.ask probe)
  | expire {w : Wait} : w.result = none → deadline.nanos ≤ w.next.nanos →
    Step probe deadline w (w.expire deadline)

theorem next_lt_next_ask (probe : Duration → Probe) (w : Wait) :
    w.next.nanos < (w.ask probe).next.nanos := by
  have after : (w.ask probe).due.nanos ≤ (w.ask probe).next.nanos := Nat.le_max_right _ _
  have short : pollTolerance.nanos < pollInterval.nanos := by decide
  by_cases late : w.due.nanos + pollTolerance.nanos < w.next.nanos
  · have due : (w.ask probe).due.nanos = w.next.nanos + pollInterval.nanos := by simp [ask, late]
    omega
  · have due : (w.ask probe).due.nanos = w.due.nanos + pollInterval.nanos := by simp [ask, late]
    omega

-- Waits until the server is found to be ready or the deadline is over. A question that is
-- due right then is still put, but none after it.
def finish (probe : Duration → Probe) (deadline : Duration) (w : Wait) : Wait :=
  if deadline.nanos < w.next.nanos then w.expire deadline
  else if (probe w.next).isReady then w.ask probe
  else (w.ask probe).finish probe deadline
termination_by deadline.nanos + 1 - w.next.nanos
decreasing_by
  have := next_lt_next_ask probe w
  omega

end Wait

end RoutingProcessor.Server
