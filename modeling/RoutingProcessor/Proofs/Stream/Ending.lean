import RoutingProcessor.Proofs.Stream.Responses

namespace RoutingProcessor.Stream.State

variable {setup : Setup} {s t : State}

-- A processor returns with a step of its own.
theorem exists_ending (running : s.isEnded = false) {turns : List Turn}
    {result : Except Rpc.Status Unit} (h : (s.play setup turns).stage = .ended result) :
    ∃ before after rest events, turns = before ++ .own :: after ∧
      Ending (s.play setup before) result rest events ∧
      (s.play setup before).turn setup .own =
        { (s.play setup before).logged events with inbound := rest, stage := .ended result } := by
  have hs : ¬s.stage = .ended result := by
    intro ended
    simp [isEnded, ended] at running
  obtain ⟨before, turn, after, hturns, hbefore, hafter⟩ :=
    exists_change (P := fun s => s.stage = .ended result) hs turns h
  cases turn with
  | outside action => exact absurd (by simpa [State.turn] using hafter) hbefore
  | own =>
    rcases turn_own_cases setup (s.play setup before) with hmove | ⟨_, hturn⟩
    · generalize hturn : (s.play setup before).turn setup .own = t at hmove hafter
      cases hmove with
      | take | answer | place => cases hafter
      | finish ending =>
        cases hafter
        exact ⟨before, after, _, _, hturns, ending, hturn⟩
    · rw [hturn] at hafter
      exact absurd hafter hbefore

-- What a processor has done stays as it is once it has returned.
structure Kept (s : State) (fed : List Inbound) (t : State) : Prop where
  fed_eq : fed = []
  stage : t.stage = s.stage
  inbound : t.inbound = s.inbound
  taken : t.taken = s.taken
  placed : t.placed = s.placed
  log : t.log = s.log

theorem kept_of_ended (setup : Setup) {result : Except Rpc.Status Unit}
    (h : s.stage = .ended result) (turns : List Turn) :
    Kept s (s.fed setup turns) (s.play setup turns) := by
  have kept : Kept s [] s := ⟨rfl, rfl, rfl, rfl, rfl, rfl⟩
  refine play_preserves (P := Kept s) ?_ ?_ kept turns
  · intro fed t u ht hmove
    have hown := own?_of_move hmove
    simp [own?, ht.stage.trans h] at hown
  · intro fed t action ht
    have ended : t.isEnded = true := by simp [isEnded, ht.stage.trans h]
    obtain ⟨rfl, hstage, hinbound, htaken, hplaced, hlog⟩ := ht
    refine ⟨?_, by simpa, ?_, by simpa, by simpa, by simpa⟩
    · cases action <;> simp [gains, accepts, ended]
    · cases action with
      | push item => simpa [act, accepts, ended] using hinbound
      | receive => simp only [act]; split <;> exact hinbound
      | close | drop | abort => exact hinbound

-- Once the response side is lost, nothing is taken or placed any more.
theorem kept_of_dropped (setup : Setup) (gone : s.dropped = true) (turns : List Turn) :
    (s.play setup turns).taken = s.taken ∧ (s.play setup turns).placed = s.placed := by
  have h : (s.play setup turns).dropped = true ∧ (s.play setup turns).taken = s.taken ∧
      (s.play setup turns).placed = s.placed := by
    refine play_keeps
      (P := fun t => t.dropped = true ∧ t.taken = s.taken ∧ t.placed = s.placed) ?_ ?_
      ⟨gone, rfl, rfl⟩ turns
    · rintro t u ⟨hgone, htaken, hplaced⟩ hmove
      cases hmove with
      | take _ _ there | place _ there => simp [hgone] at there
      | answer | finish => exact ⟨hgone, htaken, hplaced⟩
    · rintro t action ⟨hgone, htaken, hplaced⟩
      exact ⟨dropped_act hgone action, by simpa, by simpa⟩
  exact h.2

theorem dropped_turn_own : (s.turn setup .own).dropped = s.dropped := by
  rcases turn_own_cases setup s with hmove | ⟨_, hturn⟩
  · generalize s.turn setup .own = t at hmove ⊢
    cases hmove <;> rfl
  · rw [hturn]

-- The response side is lost by a drop, and from then on nothing is taken or placed.
theorem exists_drop (there : s.dropped = false) {turns : List Turn}
    (gone : (s.play setup turns).dropped = true) :
    ∃ before after, turns = before ++ .outside .drop :: after ∧
      (s.play setup before).dropped = false ∧
      (s.play setup turns).taken = (s.play setup before).taken ∧
      (s.play setup turns).placed = (s.play setup before).placed := by
  obtain ⟨before, turn, after, rfl, hbefore, hafter⟩ :=
    exists_change (P := fun s => s.dropped = true) (by simp [there]) turns gone
  have still : (s.play setup before).dropped = false := by simpa using hbefore
  cases turn with
  | own =>
    rw [dropped_turn_own] at hafter
    exact absurd hafter hbefore
  | outside action =>
    obtain ⟨htaken, hplaced⟩ := kept_of_dropped setup hafter after
    rw [play_append, play_cons, htaken, hplaced]
    have hdrop : action = .drop := by
      cases action with
      | drop => rfl
      | push item => simp only [State.turn, act] at hafter; split at hafter <;> simp_all
      | receive => simp only [State.turn, act] at hafter; split at hafter <;> simp_all
      | close | abort => simp [State.turn, act, still] at hafter
    subst hdrop
    exact ⟨before, after, rfl, still, rfl, rfl⟩

-- Why a stream has ended, with what is true of it now. It returned when it stood at `s` and
-- stands at `t` after `turns`.
inductive Reason (setup : Setup) (turns : List Turn) (s t : State) :
    Except Rpc.Status Unit → Prop where
  | finished (looks : s.stage = .looking) (unfired : s.aborted = false)
      (there : s.dropped = false) (closed : s.closed = true)
      (fed : State.initial.fed setup turns = t.taken.map .message)
      (answered : Answered setup t.taken t.placed) (length_eq : t.placed.length = t.taken.length)
      (log : ∃ earlier, t.log = earlier ++ [closedEvent t.taken.length]) :
      Reason setup turns s t (.ok ())
  | broken (cause : Rpc.Status) (looks : s.stage = .looking) (unfired : s.aborted = false)
      (there : s.dropped = false)
      (fed : State.initial.fed setup turns =
        t.taken.map .message ++ .failure cause :: t.inbound)
      (answered : Answered setup t.taken t.placed) :
      Reason setup turns s t
        (.error ⟨.unknown, "cannot receive stream request: " ++ cause.describe⟩)
  | aborted (fired : s.aborted = true) :
      Reason setup turns s t (.error ⟨.cancelled, "stream processing aborted"⟩)
  | lost (looks : s.stage = .looking) (unfired : s.aborted = false) (gone : s.dropped = true) :
      Reason setup turns s t (.error ⟨.cancelled, "response stream closed"⟩)
  -- The drop came with a message in hand, and its response has never been placed.
  | unsent (response : Response) (places : s.stage = .placing response)
      (gone : s.dropped = true) (before after : List Turn) (earlier : List Message)
      (message : Message) (split : turns = before ++ .outside .drop :: after)
      (there : (State.initial.play setup before).dropped = false)
      (taken : (State.initial.play setup before).taken = earlier ++ [message])
      (answered : Answered setup earlier (State.initial.play setup before).placed)
      (taken_eq : t.taken = earlier ++ [message])
      (placed_eq : t.placed = (State.initial.play setup before).placed) :
      Reason setup turns s t (.error ⟨.unavailable, "response stream closed"⟩)

theorem Progress.answered_of_looking (hs : Progress setup s) (looks : s.stage = .looking) :
    Answered setup s.taken s.placed := by
  cases hs with
  | looking _ answered => exact answered
  | answering _ _ stage | placing _ _ _ stage | ended _ stage | cut _ _ _ stage =>
    simp [looks] at stage

theorem Progress.split_of_placing (hs : Progress setup s) {response : Response}
    (places : s.stage = .placing response) :
    ∃ earlier message, s.taken = earlier ++ [message] ∧ Answered setup earlier s.placed := by
  cases hs with
  | placing earlier message _ _ taken answered => exact ⟨earlier, message, taken, answered⟩
  | looking stage | answering _ _ stage | ended _ stage | cut _ _ _ stage =>
    simp [places] at stage

theorem Ending.reason {before : List Turn} {result : Except Rpc.Status Unit}
    {rest : List Inbound} {events : List Log.Event}
    (ending : Ending (State.initial.play setup before) result rest events)
    (hturn : (State.initial.play setup before).turn setup .own =
      { (State.initial.play setup before).logged events with
        inbound := rest, stage := .ended result })
    (after : List Turn) :
    Reason setup (before ++ .own :: after) (State.initial.play setup before)
      (State.initial.play setup (before ++ .own :: after)) result := by
  have hprogress : Progress setup (State.initial.play setup before) := progress_play before
  have hqueues : Queues setup _ (State.initial.play setup before) := queues_play before
  have hfed : State.initial.fed setup (before ++ .own :: after) = _ :=
    fed_append before (.own :: after)
  have ended : ((State.initial.play setup before).turn setup .own).stage = .ended result := by
    rw [hturn]
  obtain ⟨hafter, _, hinbound, htaken, hplaced, hlog⟩ := kept_of_ended setup ended after
  rw [State.fed, hafter] at hfed
  simp only [gains, List.append_nil] at hfed
  rw [← play_cons, ← play_append] at hinbound htaken hplaced hlog
  rw [hturn] at hinbound htaken hplaced hlog
  dsimp only [logged] at hinbound htaken hplaced hlog
  cases ending with
  | aborted _ fired => exact .aborted fired
  | interrupted _ fired => exact .aborted fired
  | lost looks unfired gone => exact .lost looks unfired gone
  | broken looks unfired there arrived =>
    have whole := hqueues.inbound (isEnded_of_stage looks (by simp))
    refine .broken _ looks unfired there ?_ ?_
    · rw [hfed, whole, arrived, htaken, hinbound]
    · rw [htaken, hplaced]
      exact hprogress.answered_of_looking looks
  | finished looks unfired there arrived closed =>
    have whole := hqueues.inbound (isEnded_of_stage looks (by simp))
    have answered := hprogress.answered_of_looking looks
    refine .finished looks unfired there closed ?_ ?_ ?_ ?_
    · rw [hfed, whole, arrived, htaken, List.append_nil]
    · rwa [htaken, hplaced]
    · rw [htaken, hplaced, answered.length_eq]
    · exact ⟨_, by rw [hlog, htaken, hqueues.answered, answered.length_eq]⟩
  | unsent places gone =>
    obtain ⟨earlier, message, taken, answered⟩ := hprogress.split_of_placing places
    obtain ⟨first, second, rfl, there, htaken', hplaced'⟩ := exists_drop (s := .initial) rfl gone
    rw [htaken'] at taken htaken
    rw [hplaced'] at answered hplaced
    exact .unsent _ places gone first (second ++ .own :: after) earlier message (by simp) there
      taken answered (htaken.trans taken) hplaced

-- Whatever the surroundings do before and after, a stream returns for one of five reasons.
-- Where the processor looks for a message, an abort comes before a lost response side, and
-- both come before whatever has arrived.
theorem end_status_tells_why (setup : Setup) (turns : List Turn) :
    let t := State.initial.play setup turns
    (∀ result, t.stage = .ended result →
      ∃ before after, turns = before ++ .own :: after ∧
        (State.initial.play setup before).isEnded = false ∧
        Reason setup turns (State.initial.play setup before) t result) ∧
      (t.stage = .looking → t.aborted = true ∨ t.dropped = true →
        (t.turn setup .own).stage =
            .ended (.error (if t.aborted then abortedStatus else responsesClosedStatus)) ∧
          (t.turn setup .own).inbound = t.inbound) := by
  intro t
  refine ⟨?_, ?_⟩
  · intro result ended
    obtain ⟨before, after, rest, events, rfl, ending, hturn⟩ := exists_ending rfl ended
    refine ⟨before, after, rfl, ?_, ending.reason hturn after⟩
    cases ending with
    | aborted stage | lost stage | broken stage | finished stage =>
      exact isEnded_of_stage stage (by simp)
    | interrupted stage | unsent stage => exact isEnded_of_stage stage (by simp)
  · intro looks h
    by_cases fired : t.aborted = true
    · simp [turn_own (.finish (.aborted looks fired)), fired, logged]
    · have gone : t.dropped = true := h.resolve_left fired
      have unfired : t.aborted = false := by simpa using fired
      simp [turn_own (.finish (.lost looks unfired gone)), unfired, logged]

-- The peer goes away while its only message is answered.
theorem end_status_of_drop_in_hand :
    let setup : Setup :=
      ⟨⟨"preferred-svc", "x-routing-decision", ⟨none, none⟩⟩, fun _ => .unreachable, 1⟩
    let turns : List Turn :=
      [.outside (.push (.message (.inert .requestBody))), .own, .outside .drop, .own, .own]
    let t := State.initial.play setup turns
    t.stage = .ended (.error unsentStatus) ∧
      ∃ before after, turns = before ++ .own :: after ∧
        (State.initial.play setup before).isEnded = false ∧
        Reason setup turns (State.initial.play setup before) t (.error unsentStatus) := by
  intro setup turns t
  have ended : t.stage = .ended (.error unsentStatus) := by rfl
  exact ⟨ended, (end_status_tells_why setup turns).1 _ ended⟩

end RoutingProcessor.Stream.State
