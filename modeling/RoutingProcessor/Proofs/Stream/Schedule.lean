import RoutingProcessor.Stream.Session

namespace RoutingProcessor.Stream

open Decision

-- Whose turn it is: the processor's, or that of the peer and the holder of the abort token.
inductive Turn where
  | own
  | outside (action : Action)

namespace State

-- A processor that has to wait lets its turn pass.
def turn (setup : Setup) (s : State) : Turn → State
  | .own => (s.own? setup).getD s
  | .outside action => s.act action

-- The state that an interleaving leads to. A schedule is any list of turns.
def play (setup : Setup) (s : State) (turns : List Turn) : State :=
  turns.foldl (turn setup) s

-- What the inbound side takes in with one turn.
def gains (s : State) : Turn → List Inbound
  | .outside (.push item) => if s.accepts then [item] else []
  | _ => []

-- All that the inbound side takes in during a schedule, in order.
def fed (setup : Setup) (s : State) : List Turn → List Inbound
  | [] => []
  | turn :: turns => s.gains turn ++ (s.turn setup turn).fed setup turns

variable {setup : Setup} {s t : State}

@[simp] theorem play_nil : s.play setup [] = s := rfl

@[simp] theorem play_cons (turn : Turn) (turns : List Turn) :
    s.play setup (turn :: turns) = (s.turn setup turn).play setup turns := rfl

@[simp] theorem play_append (before after : List Turn) :
    s.play setup (before ++ after) = (s.play setup before).play setup after :=
  List.foldl_append

theorem fed_append (before after : List Turn) :
    s.fed setup (before ++ after) =
      s.fed setup before ++ (s.play setup before).fed setup after := by
  induction before generalizing s with
  | nil => rfl
  | cons turn before ih => simp [fed, ih]

-- The surroundings reach the queues and the flags only.
private theorem act_frame (s : State) (action : Action) :
    (s.act action).stage = s.stage ∧ (s.act action).taken = s.taken ∧
      (s.act action).placed = s.placed ∧ (s.act action).asked = s.asked ∧
      (s.act action).answered = s.answered ∧ (s.act action).log = s.log := by
  cases action with
  | push item => simp only [act]; split <;> simp
  | receive => simp only [act]; split <;> simp
  | close | drop | abort => simp [act]

@[simp] theorem act_stage (action : Action) : (s.act action).stage = s.stage :=
  (act_frame s action).1

@[simp] theorem act_taken (action : Action) : (s.act action).taken = s.taken :=
  (act_frame s action).2.1

@[simp] theorem act_placed (action : Action) : (s.act action).placed = s.placed :=
  (act_frame s action).2.2.1

@[simp] theorem act_asked (action : Action) : (s.act action).asked = s.asked :=
  (act_frame s action).2.2.2.1

@[simp] theorem act_answered (action : Action) : (s.act action).answered = s.answered :=
  (act_frame s action).2.2.2.2.1

@[simp] theorem act_log (action : Action) : (s.act action).log = s.log :=
  (act_frame s action).2.2.2.2.2

theorem aborted_act (h : s.aborted = true) (action : Action) : (s.act action).aborted = true := by
  cases action with
  | push item => simp only [act]; split <;> exact h
  | receive => simp only [act]; split <;> exact h
  | close | drop => exact h
  | abort => rfl

theorem dropped_act (h : s.dropped = true) (action : Action) : (s.act action).dropped = true := by
  cases action with
  | push item => simp only [act]; split <;> exact h
  | receive => simp only [act]; split <;> exact h
  | close | abort => exact h
  | drop => rfl

-- Why the processor returns: the result, what is left of the inbound side, and what is
-- logged.
inductive Ending (s : State) : Except Rpc.Status Unit → List Inbound → List Log.Event → Prop where
  | aborted (looks : s.stage = .looking) (fired : s.aborted = true) :
      Ending s (.error abortedStatus) s.inbound [.plain .debug "ext_proc" "processing aborted"]
  | interrupted {message : Message} (answers : s.stage = .answering message)
      (fired : s.aborted = true) : Ending s (.error abortedStatus) s.inbound []
  | lost (looks : s.stage = .looking) (unfired : s.aborted = false) (gone : s.dropped = true) :
      Ending s (.error responsesClosedStatus) s.inbound
        [.plain .debug "ext_proc" "processing server context done"]
  | broken {cause : Rpc.Status} {rest : List Inbound} (looks : s.stage = .looking)
      (unfired : s.aborted = false) (there : s.dropped = false)
      (arrived : s.inbound = .failure cause :: rest) :
      Ending s (.error (brokenStatus cause)) rest []
  | finished (looks : s.stage = .looking) (unfired : s.aborted = false)
      (there : s.dropped = false) (arrived : s.inbound = []) (closed : s.closed = true) :
      Ending s (.ok ()) s.inbound [closedEvent s.answered]
  | unsent {response : Response} (places : s.stage = .placing response)
      (gone : s.dropped = true) :
      Ending s (.error unsentStatus) s.inbound
        [.plain .error "ext_proc" "send error: response stream closed"]

-- The steps of the processor, each with the state it leads to.
inductive Move (setup : Setup) (s : State) : State → Prop where
  | take {message : Message} {rest : List Inbound} (looks : s.stage = .looking)
      (unfired : s.aborted = false) (there : s.dropped = false)
      (arrived : s.inbound = .message message :: rest) :
      Move setup s { s.logged (announce setup.engine message) with
        inbound := rest, stage := .answering message, taken := s.taken ++ [message] }
  | answer {message : Message} {response : Response} (answers : s.stage = .answering message)
      (unfired : s.aborted = false)
      (known : respond setup.engine (setup.peer s.asked) message = some response) :
      Move setup s { s.logged (Stream.conclude setup.engine (setup.peer s.asked) message) with
        stage := .placing response
        asked := s.asked + requests setup.engine (setup.peer s.asked) message }
  | place {response : Response} (places : s.stage = .placing response)
      (there : s.dropped = false) (room : s.channel.length < setup.capacity) :
      Move setup s { s with
        stage := .looking, channel := s.channel ++ [response], placed := s.placed ++ [response]
        answered := s.answered + 1 }
  | finish {result : Except Rpc.Status Unit} {rest : List Inbound} {events : List Log.Event}
      (ending : Ending s result rest events) :
      Move setup s { s.logged events with inbound := rest, stage := .ended result }

theorem move_of_look (looks : s.stage = .looking) (h : s.look setup = some t) :
    Move setup s t := by
  unfold look at h
  split at h
  · next fired =>
    cases h
    exact .finish (.aborted looks fired)
  next unfired =>
  rw [Bool.not_eq_true] at unfired
  split at h
  · next gone =>
    cases h
    exact .finish (.lost looks unfired gone)
  next there =>
  rw [Bool.not_eq_true] at there
  split at h
  · next arrived =>
    cases h
    exact .take looks unfired there arrived
  · next arrived =>
    cases h
    simpa [logged, endWith] using Move.finish (.broken looks unfired there arrived)
  · next arrived =>
    split at h
    · next closed =>
      cases h
      exact .finish (.finished looks unfired there arrived closed)
    · cases h

theorem move_of_own? (h : s.own? setup = some t) : Move setup s t := by
  unfold own? at h
  split at h
  · next looks => exact move_of_look looks h
  · next message answers =>
    unfold answer at h
    split at h
    · next fired =>
      cases h
      simpa [logged, endWith] using Move.finish (.interrupted answers fired)
    · next unfired =>
      obtain ⟨response, known, rfl⟩ := Option.map_eq_some_iff.1 h
      exact .answer answers (by simpa using unfired) known
  · next response places =>
    unfold place at h
    split at h
    · next gone =>
      cases h
      exact .finish (.unsent places gone)
    next there =>
    split at h
    · next room =>
      cases h
      exact .place places (by simpa using there) room
    · cases h
  · cases h

theorem own?_of_move (h : Move setup s t) : s.own? setup = some t := by
  cases h with
  | take looks unfired there arrived => simp [own?, look, looks, unfired, there, arrived]
  | answer answers unfired known => simp [own?, answer, answers, unfired, known]
  | place places there room => simp [own?, place, places, there, room]
  | finish ending =>
    cases ending with
    | aborted looks fired => simp [own?, look, looks, fired, endWith, logged]
    | interrupted answers fired => simp [own?, answer, answers, fired, endWith, logged]
    | lost looks unfired gone => simp [own?, look, looks, unfired, gone, endWith, logged]
    | broken looks unfired there arrived =>
      simp [own?, look, looks, unfired, there, arrived, endWith, logged]
    | finished looks unfired there arrived closed =>
      simp [own?, look, looks, unfired, there, arrived, closed, endWith, logged]
    | unsent places gone => simp [own?, place, places, gone, endWith, logged]

-- The processor has one next step at most, and this says which.
theorem own?_eq_some_iff : s.own? setup = some t ↔ Move setup s t :=
  ⟨move_of_own?, own?_of_move⟩

theorem turn_own (h : Move setup s t) : s.turn setup .own = t := by
  simp [turn, own?_of_move h]

theorem turn_own_of_waits (h : s.own? setup = none) : s.turn setup .own = s := by
  simp [turn, h]

-- A turn of the processor is one of its steps, unless it has to wait.
theorem turn_own_cases (setup : Setup) (s : State) :
    Move setup s (s.turn setup .own) ∨ s.own? setup = none ∧ s.turn setup .own = s := by
  cases hown : s.own? setup with
  | none => exact .inr ⟨rfl, turn_own_of_waits hown⟩
  | some t =>
    have hmove := move_of_own? hown
    rw [turn_own hmove]
    exact .inl hmove

-- What every step of the processor and of its surroundings keeps is kept by schedules. It
-- may speak of what has been fed so far.
theorem play_preserves {P : List Inbound → State → Prop}
    (move : ∀ {fed s t}, P fed s → Move setup s t → P fed t)
    (act : ∀ {fed s} (action : Action), P fed s →
      P (fed ++ s.gains (.outside action)) (s.act action))
    {fed : List Inbound} (h : P fed s) (turns : List Turn) :
    P (fed ++ s.fed setup turns) (s.play setup turns) := by
  induction turns generalizing fed s with
  | nil => simpa [State.fed] using h
  | cons turn turns ih =>
    rw [State.fed, ← List.append_assoc, play_cons]
    apply ih
    cases turn with
    | outside action => exact act action h
    | own =>
      simp only [gains, List.append_nil]
      rcases turn_own_cases setup s with hmove | ⟨_, hturn⟩
      · exact move h hmove
      · rwa [hturn]

-- The same for what does not speak of what has been fed.
theorem play_keeps {P : State → Prop} (move : ∀ {s t}, P s → Move setup s t → P t)
    (act : ∀ {s} (action : Action), P s → P (s.act action)) (h : P s) (turns : List Turn) :
    P (s.play setup turns) :=
  @play_preserves setup s (fun _ => P) move act [] h turns

-- What does not hold at first but holds in the end begins to hold with some turn.
theorem exists_change {P : State → Prop} (before : ¬P s) (turns : List Turn)
    (after : P (s.play setup turns)) :
    ∃ first turn rest, turns = first ++ turn :: rest ∧ ¬P (s.play setup first) ∧
      P ((s.play setup first).turn setup turn) := by
  induction turns generalizing s with
  | nil => exact absurd after before
  | cons turn turns ih =>
    by_cases h : P (s.turn setup turn)
    · exact ⟨[], turn, turns, rfl, before, h⟩
    · obtain ⟨first, other, rest, rfl, hfirst, hother⟩ := ih h after
      exact ⟨turn :: first, other, rest, rfl, hfirst, hother⟩

theorem reachable_play (h : Reachable setup s) (turns : List Turn) :
    Reachable setup (s.play setup turns) :=
  play_keeps (fun hs hmove => .step hs (.own (own?_of_move hmove)))
    (fun action hs => .step hs (.act action)) h turns

-- The states that steps lead to are those that schedules lead to.
theorem reachable_iff_play :
    Reachable setup s ↔ ∃ turns, State.initial.play setup turns = s := by
  constructor
  · intro h
    induction h with
    | initial => exact ⟨[], rfl⟩
    | step _ hstep ih =>
      obtain ⟨turns, rfl⟩ := ih
      cases hstep with
      | own hown => exact ⟨turns ++ [.own], by simp [turn, hown]⟩
      | act action => exact ⟨turns ++ [.outside action], by simp [turn]⟩
  · rintro ⟨turns, rfl⟩
    exact reachable_play .initial turns

theorem advance_of_waits (h : s.own? setup = none) : s.advance setup = s := by
  rw [advance]
  split
  · next hown => simp [h] at hown
  · rfl

theorem advance_of_move (h : Move setup s t) : s.advance setup = t.advance setup := by
  rw [advance]
  split
  · next hown =>
    rw [own?_of_move h] at hown
    cases hown
    rfl
  · next hown => simp [own?_of_move h] at hown

theorem advance_play_own (count : Nat) :
    (s.play setup (List.replicate count .own)).advance setup = s.advance setup := by
  induction count generalizing s with
  | zero => rfl
  | succ count ih =>
    rw [List.replicate_succ, play_cons, ih]
    rcases turn_own_cases setup s with hmove | ⟨_, hturn⟩
    · exact (advance_of_move hmove).symm
    · rw [hturn]

-- Advancing ends where the processor has to wait.
theorem own?_advance (s : State) : (s.advance setup).own? setup = none := by
  fun_induction advance setup s with
  | case1 s t _ ih => exact ih
  | case2 s hown => exact hown

-- Advancing is a schedule in which the surroundings do nothing.
theorem exists_play_advance (setup : Setup) (s : State) :
    ∃ count, s.advance setup = s.play setup (List.replicate count .own) := by
  fun_induction advance setup s with
  | case1 s t hown ih =>
    obtain ⟨count, ih⟩ := ih
    exact ⟨count + 1, by rw [ih, List.replicate_succ, play_cons, turn_own (move_of_own? hown)]⟩
  | case2 s _ => exact ⟨0, rfl⟩

theorem exists_play_receive (setup : Setup) (s : State) :
    ∃ turns, (s.receive setup).1 = s.play setup turns := by
  unfold receive
  split
  · exact ⟨[], rfl⟩
  obtain ⟨before, hbefore⟩ : ∃ turns,
      (if s.channel.isEmpty then s.advance setup else s) = s.play setup turns := by
    split
    · obtain ⟨count, hcount⟩ := exists_play_advance setup s
      exact ⟨_, hcount⟩
    · exact ⟨[], rfl⟩
  dsimp only
  split
  · exact ⟨before ++ [.outside .receive], by rw [play_append, ← hbefore]; rfl⟩
  · exact ⟨before, hbefore⟩

theorem exists_play_perform (setup : Setup) (s : State) (command : Command) :
    ∃ turns, (s.perform setup command).1 = s.play setup turns := by
  cases command with
  | push item => exact ⟨[.outside (.push item)], rfl⟩
  | receive => exact exists_play_receive setup s
  | send message =>
    simp only [perform]
    split
    · obtain ⟨turns, hturns⟩ :=
        exists_play_receive setup (s.act (.push (.message message)))
      exact ⟨.outside (.push (.message message)) :: turns, hturns⟩
    · exact ⟨[], rfl⟩
  | close => exact ⟨[.outside .close], rfl⟩
  | drop => exact ⟨[.outside .drop], rfl⟩
  | abort => exact ⟨[.outside .abort], rfl⟩
  | settle =>
    obtain ⟨count, hcount⟩ := exists_play_advance setup s
    exact ⟨_, hcount⟩

-- A scripted session is one of the schedules.
theorem exists_play_performAll (setup : Setup) (s : State) (commands : List Command) :
    ∃ turns, (s.performAll setup commands).1 = s.play setup turns := by
  induction commands generalizing s with
  | nil => exact ⟨[], rfl⟩
  | cons command commands ih =>
    obtain ⟨first, hfirst⟩ := exists_play_perform setup s command
    obtain ⟨rest, hrest⟩ := ih (s.perform setup command).1
    exact ⟨first ++ rest, by rw [play_append, ← hfirst, ← hrest]; rfl⟩

-- A peer that takes all that is there receives one response after the other.
theorem play_receive_all (setup : Setup) (s : State) :
    s.play setup (List.replicate s.channel.length (.outside .receive)) =
      { s with channel := [], received := s.received ++ s.channel } := by
  generalize hchannel : s.channel = channel
  induction channel generalizing s with
  | nil =>
    obtain ⟨⟩ := s
    cases hchannel
    simp
  | cons response channel ih =>
    rw [List.length_cons, List.replicate_succ, play_cons, ih _ (by simp [turn, act, hchannel])]
    simp [turn, act, hchannel]

theorem exists_play_drain (setup : Setup) (rounds : Nat) (s : State) :
    ∃ turns, (drain setup rounds s).1 = s.play setup turns := by
  induction rounds generalizing s with
  | zero => exact ⟨[], rfl⟩
  | succ rounds ih =>
    obtain ⟨count, hcount⟩ := exists_play_advance setup s
    unfold drain
    dsimp only
    split
    · exact ⟨_, hcount⟩
    · obtain ⟨rest, hrest⟩ := ih { s.advance setup with
        channel := [], received := (s.advance setup).received ++ (s.advance setup).channel }
      refine ⟨List.replicate count .own ++
        (List.replicate (s.advance setup).channel.length (.outside .receive) ++ rest), ?_⟩
      rw [play_append, ← hcount, play_append, play_receive_all]
      exact hrest

-- So is the end of a session.
theorem exists_play_conclude (setup : Setup) (s : State) :
    ∃ turns, (s.conclude setup).1 = s.play setup turns := by
  obtain ⟨turns, hturns⟩ := exists_play_drain setup (s.inbound.length + 3) (s.act .close)
  exact ⟨.outside .close :: turns, hturns⟩

end State

end RoutingProcessor.Stream
