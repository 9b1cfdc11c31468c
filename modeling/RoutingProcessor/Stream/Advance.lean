import RoutingProcessor.Stream.State

namespace RoutingProcessor.Stream

-- How far a stage is from looking for the next message.
def Stage.distance : Stage → Nat
  | .looking => 1
  | .answering _ => 3
  | .placing _ => 2
  | .ended _ => 0

namespace State

-- Every step of the processor itself brings it closer to standing still.
def work (s : State) : Nat := 3 * s.inbound.length + s.stage.distance

theorem work_look_lt {setup : Setup} {s t : State} (hs : s.stage = .looking)
    (h : s.look setup = some t) : t.work < s.work := by
  unfold look at h
  split at h
  · cases h; simp [work, endWith, logged, Stage.distance, hs]
  split at h
  · cases h; simp [work, endWith, logged, Stage.distance, hs]
  split at h
  · next heq =>
    cases h
    simp only [work, Stage.distance, hs, heq, List.length_cons]
    omega
  · next heq =>
    cases h
    simp only [work, endWith, Stage.distance, hs, heq, List.length_cons]
    omega
  · split at h
    · cases h; simp [work, endWith, logged, Stage.distance, hs]
    · cases h

theorem work_own?_lt {setup : Setup} {s t : State} (h : s.own? setup = some t) :
    t.work < s.work := by
  unfold own? at h
  split at h
  · next hs => exact work_look_lt hs h
  · next message hs =>
    unfold answer at h
    split at h
    · cases h; simp [work, endWith, Stage.distance, hs]
    · obtain ⟨response, _, rfl⟩ := Option.map_eq_some_iff.1 h
      simp [work, logged, Stage.distance, hs]
  · next response hs =>
    unfold place at h
    split at h
    · cases h; simp [work, endWith, logged, Stage.distance, hs]
    split at h
    · cases h; simp [work, Stage.distance, hs]
    · cases h
  · cases h

-- Lets the processor run until it has to wait for its surroundings.
def advance (setup : Setup) (s : State) : State :=
  match _h : s.own? setup with
  | some t => t.advance setup
  | none => s
termination_by s.work
decreasing_by exact work_own?_lt ‹_›

end State

end RoutingProcessor.Stream
