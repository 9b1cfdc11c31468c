import RoutingProcessor.Backend.State

namespace RoutingProcessor.Backend

-- How far a stage is from the end.
def Stage.distance : Stage → Nat
  | .pausing => 3
  | .listening => 2
  | .draining _ => 1
  | .returned _ => 0

namespace State

-- Every step of the backend brings it closer to standing still.
def work (s : State) : Nat := 3 * s.incoming.length + s.active.length + s.stage.distance

theorem work_lt_of_own {s t : State} (h : Own s t) : t.work < s.work := by
  cases h with
  | @take arrival rest hs hi =>
    cases arrival <;> simp [work, State.take, hs, hi, Stage.distance] <;> omega
  | stop hs _ => simp [work, leave, hs, Stage.distance]
  | dry hs _ _ => simp [work, leave, hs, Stage.distance]
  | resume hs => simp [work, hs, Stage.distance]
  | finish ha _ => simp [work, State.finish, ha]
  | done hs _ => simp [work, hs, Stage.distance]

-- The first connection that waits for nothing, with those around it.
def idle? : List Visit → Option (List Visit × Visit × List Visit)
  | [] => none
  | visit :: rest =>
    if visit.isHeld then
      (idle? rest).map fun (before, found, after) => (visit :: before, found, after)
    else some ([], visit, rest)

theorem idle?_eq_some {visits before after : List Visit} {visit : Visit}
    (h : idle? visits = some (before, visit, after)) :
    visits = before ++ visit :: after ∧ !visit.isHeld := by
  induction visits generalizing before with
  | nil => simp [idle?] at h
  | cons v rest ih =>
    rw [idle?] at h
    split at h
    · obtain ⟨⟨inner, found, tail⟩, hinner, heq⟩ := Option.map_eq_some_iff.1 h
      cases heq
      obtain ⟨hrest, hheld⟩ := ih hinner
      exact ⟨by rw [hrest]; rfl, hheld⟩
    · next hheld =>
      cases h
      exact ⟨rfl, by simpa using hheld⟩

-- What the stage calls for, if anything can be done.
def stageStep? (s : State) : Option State :=
  match s.stage with
  | .listening =>
    match s.incoming with
    | arrival :: rest => some (s.take arrival rest)
    | [] =>
      if s.shutdown then some (s.leave .stopped)
      else if s.exhausted then some (s.leave .listenerClosed)
      else none
  | .pausing => some { s with stage := .listening }
  | .draining ending => if s.active.isEmpty then some { s with stage := .returned ending } else none
  | .returned _ => none

theorem own_of_stageStep? {s t : State} (h : s.stageStep? = some t) : Own s t := by
  unfold stageStep? at h
  split at h
  · next hs =>
    split at h
    · next hi => cases h; exact .take hs hi
    · next hi =>
      split at h
      · next hd => cases h; exact .stop hs hd
      split at h
      · next he => cases h; exact .dry hs hi he
      · cases h
  · next hs => cases h; exact .resume hs
  · next hs =>
    split at h
    · next ha => cases h; exact .done hs (List.isEmpty_iff.1 ha)
    · cases h
  · cases h

-- The next step: connections that can be answered come first.
def own? (s : State) : Option State :=
  match idle? s.active with
  | some (before, visit, after) => some (s.finish before visit after)
  | none => s.stageStep?

theorem own_of_own? {s t : State} (h : s.own? = some t) : Own s t := by
  unfold own? at h
  split at h
  · next hi =>
    obtain ⟨ha, hheld⟩ := idle?_eq_some hi
    cases h
    exact .finish ha hheld
  · exact own_of_stageStep? h

-- Lets the backend run until it has to wait for its surroundings.
def advance (s : State) : State :=
  match _h : s.own? with
  | some t => t.advance
  | none => s
termination_by s.work
decreasing_by exact work_lt_of_own (own_of_own? ‹_›)

end State

end RoutingProcessor.Backend
