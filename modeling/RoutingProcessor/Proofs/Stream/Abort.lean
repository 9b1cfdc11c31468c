import RoutingProcessor.Proofs.Stream.Schedule

namespace RoutingProcessor.Stream.State

variable {setup : Setup} {s t : State}

-- From here on nothing is taken or placed. Whatever the surroundings do, the processor,
-- left to itself again, has returned as aborted.
def EndsAborted (setup : Setup) (s : State) : Prop :=
  ∀ turns, let t := s.play setup turns
    t.taken = s.taken ∧ t.placed = s.placed ∧
      (t.advance setup).stage = .ended (.error abortedStatus)

theorem advance_of_ended {result : Except Rpc.Status Unit} (h : s.stage = .ended result) :
    s.advance setup = s :=
  advance_of_waits (by simp [own?, h])

-- The abort has fired, and the processor looks for it before it does anything else.
structure Halting (taken : List Message) (placed : List Response) (s : State) : Prop where
  fired : s.aborted = true
  taken_eq : s.taken = taken
  placed_eq : s.placed = placed
  stage : s.stage = .looking ∨ (∃ message, s.stage = .answering message) ∨
    s.stage = .ended (.error abortedStatus)

namespace Halting

variable {taken : List Message} {placed : List Response}

theorem move (hs : Halting taken placed s) (h : Move setup s t) : Halting taken placed t := by
  obtain ⟨fired, htaken, hplaced, hstage⟩ := hs
  cases h with
  | take _ unfired => simp [fired] at unfired
  | answer _ unfired => simp [fired] at unfired
  | place places => simp [places] at hstage
  | finish ending =>
    cases ending with
    | aborted | interrupted => exact ⟨fired, htaken, hplaced, .inr (.inr rfl)⟩
    | lost _ unfired | broken _ unfired | finished _ unfired => simp [fired] at unfired
    | unsent places => simp [places] at hstage

theorem act (hs : Halting taken placed s) (action : Action) :
    Halting taken placed (s.act action) where
  fired := aborted_act hs.fired action
  taken_eq := by simpa using hs.taken_eq
  placed_eq := by simpa using hs.placed_eq
  stage := by simpa using hs.stage

theorem play (hs : Halting taken placed s) (turns : List Turn) :
    Halting taken placed (s.play setup turns) :=
  play_keeps move (fun action hs => hs.act action) hs turns

theorem stage_advance (hs : Halting taken placed s) :
    (s.advance setup).stage = .ended (.error abortedStatus) := by
  rcases hs.stage with looks | ⟨message, answers⟩ | ended
  · rw [advance_of_move (.finish (.aborted looks hs.fired)), advance_of_ended rfl]
  · rw [advance_of_move (.finish (.interrupted answers hs.fired)), advance_of_ended rfl]
  · rw [advance_of_ended ended, ended]

theorem endsAborted (hs : Halting taken placed s) : EndsAborted setup s := by
  intro turns
  have ht : Halting taken placed (s.play setup turns) := hs.play turns
  exact ⟨ht.taken_eq.trans hs.taken_eq.symm, ht.placed_eq.trans hs.placed_eq.symm,
    ht.stage_advance⟩

end Halting

-- An abort that comes while a response is handed over is not looked for until the channel
-- has taken the response. The loss of the response side comes first if it comes before
-- that.
inductive HandingOver (taken : List Message) (placed : List Response) (response : Response)
    (s : State) : Prop where
  | holding (fired : s.aborted = true) (taken_eq : s.taken = taken) (placed_eq : s.placed = placed)
      (places : s.stage = .placing response)
  | done (halting : Halting taken (placed ++ [response]) s)
  | unsent (gone : s.dropped = true) (taken_eq : s.taken = taken) (placed_eq : s.placed = placed)
      (ended : s.stage = .ended (.error unsentStatus))

namespace HandingOver

variable {taken : List Message} {placed : List Response} {response : Response}

theorem move (hs : HandingOver taken placed response s) (h : Move setup s t) :
    HandingOver taken placed response t := by
  cases hs with
  | holding fired htaken hplaced places =>
    cases h with
    | take stage | answer stage => simp [places] at stage
    | place stage =>
      rw [places, Stage.placing.injEq] at stage
      subst stage
      exact .done ⟨fired, htaken, by simp [hplaced], .inl rfl⟩
    | finish ending =>
      cases ending with
      | unsent _ gone => exact .unsent gone htaken hplaced rfl
      | aborted stage | interrupted stage | lost stage | broken stage | finished stage =>
        simp [places] at stage
  | done halting => exact .done (halting.move h)
  | unsent _ _ _ ended =>
    have hown := own?_of_move h
    simp [own?, ended] at hown

theorem act (hs : HandingOver taken placed response s) (action : Action) :
    HandingOver taken placed response (s.act action) := by
  cases hs with
  | holding fired htaken hplaced places =>
    exact .holding (aborted_act fired action) (by simpa) (by simpa) (by simpa)
  | done halting => exact .done (halting.act action)
  | unsent gone htaken hplaced ended =>
    exact .unsent (dropped_act gone action) (by simpa) (by simpa) (by simpa)

theorem play (hs : HandingOver taken placed response s) (turns : List Turn) :
    HandingOver taken placed response (s.play setup turns) :=
  play_keeps move (fun action hs => hs.act action) hs turns

-- Left to itself the processor returns, unless the channel is full and the peer neither
-- receives nor goes away.
theorem advance (setup : Setup) (hs : HandingOver taken placed response s) :
    let t := s.advance setup
    t.taken = taken ∧
      (t.placed = placed ++ [response] ∧ t.stage = .ended (.error abortedStatus) ∨
        t.placed = placed ∧ t.dropped = true ∧ t.stage = .ended (.error unsentStatus) ∨
        t.placed = placed ∧ t.dropped = false ∧ setup.capacity ≤ t.channel.length ∧
          t.stage = .placing response) := by
  intro t
  have hwaits : t.own? setup = none := own?_advance s
  obtain ⟨count, hcount⟩ := exists_play_advance setup s
  have ht : HandingOver taken placed response t := by
    show HandingOver taken placed response (s.advance setup)
    rw [hcount]
    exact hs.play _
  cases ht with
  | holding fired htaken hplaced places =>
    have there : t.dropped = false := by
      cases hdropped : t.dropped with
      | false => rfl
      | true => simp [own?_of_move (.finish (.unsent places hdropped))] at hwaits
    have full : setup.capacity ≤ t.channel.length := by
      apply Nat.le_of_not_lt
      intro room
      simp [own?_of_move (.place places there room)] at hwaits
    exact ⟨htaken, .inr (.inr ⟨hplaced, there, full, places⟩)⟩
  | done halting =>
    have ended : (t.advance setup).stage = .ended (.error abortedStatus) := halting.stage_advance
    rw [advance_of_waits hwaits] at ended
    exact ⟨halting.taken_eq, .inl ⟨halting.placed_eq, ended⟩⟩
  | unsent gone htaken hplaced ended => exact ⟨htaken, .inr (.inl ⟨hplaced, gone, ended⟩)⟩

end HandingOver

-- An abort ends a running stream at once, with one exception: a response that is being
-- handed over. It is the last thing that is still placed, and it keeps the processor from
-- returning as long as the channel is full and the peer does not go away. If the peer goes
-- away first, the processor returns as unable to send and not as aborted.
theorem endsAborted_abort_iff (setup : Setup) (s : State) (running : s.isEnded = false) :
    (EndsAborted setup (s.act .abort) ↔ ∀ response, s.stage ≠ .placing response) ∧
      ∀ response, s.stage = .placing response → ∀ turns,
        let t := ((s.act .abort).play setup turns).advance setup
        t.taken = s.taken ∧
          (t.placed = s.placed ++ [response] ∧ t.stage = .ended (.error abortedStatus) ∨
            t.placed = s.placed ∧ t.dropped = true ∧ t.stage = .ended (.error unsentStatus) ∨
            t.placed = s.placed ∧ t.dropped = false ∧ setup.capacity ≤ t.channel.length ∧
              t.stage = .placing response) := by
  have handing {response : Response} (places : s.stage = .placing response) :
      HandingOver s.taken s.placed response (s.act .abort) := .holding rfl rfl rfl places
  refine ⟨⟨?_, ?_⟩, fun response places turns => ((handing places).play turns).advance setup⟩
  · intro h response places
    obtain ⟨count, hcount⟩ := exists_play_advance setup (s.act .abort)
    obtain ⟨_, hplaced, _⟩ := h (List.replicate count .own)
    obtain ⟨_, _, hstage⟩ := h []
    rw [← hcount] at hplaced
    -- Had the processor returned as aborted, the response would be in the channel.
    obtain ⟨_, ⟨hmore, _⟩ | ⟨_, _, hother⟩ | ⟨_, _, _, hother⟩⟩ :=
      (handing places).advance setup
    · simp [hmore] at hplaced
    · rw [play_nil, hother] at hstage
      simp [unsentStatus, abortedStatus] at hstage
    · rw [play_nil, hother] at hstage
      cases hstage
  · intro notPlacing
    have hstage : s.stage = .looking ∨ (∃ message, s.stage = .answering message) ∨
        s.stage = .ended (.error abortedStatus) := by
      cases hs : s.stage with
      | looking => exact .inl rfl
      | answering message => exact .inr (.inl ⟨message, rfl⟩)
      | placing response => exact absurd hs (notPlacing response)
      | ended result => simp [isEnded, hs] at running
    exact Halting.endsAborted ⟨rfl, rfl, rfl, hstage⟩

-- An abort ends the wait for a decision server that keeps the request.
theorem endsAborted_abort_stalled :
    let setup : Setup :=
      ⟨⟨"preferred-svc", "x-routing-decision", ⟨some "http://a/", none⟩⟩, fun _ => .stalled, 1⟩
    let s := State.initial.play setup [.outside (.push (.message (.requestHeaders []))), .own]
    s.stage = .answering (.requestHeaders []) ∧ s.isEnded = false ∧
      EndsAborted setup (s.act .abort) := by
  intro setup s
  have answers : s.stage = .answering (.requestHeaders []) := rfl
  have running : s.isEnded = false := rfl
  exact ⟨answers, running, (endsAborted_abort_iff setup s running).1.2 fun _ => by simp [answers]⟩

-- A channel for one response that already holds one, while the next is handed over.
def tight : Setup :=
  ⟨⟨"preferred-svc", "x-routing-decision", ⟨none, none⟩⟩, fun _ => .unreachable, 1⟩

def crowded : State :=
  let push := Turn.outside (.push (.message (.inert .requestBody)))
  State.initial.play tight [push, push, .own, .own, .own, .own, .own]

-- Then the processor still runs after the abort, gives the response away when the peer
-- receives, and is unable to send when the peer goes away.
theorem abort_waits_for_room :
    let s := crowded.act .abort
    Reachable tight crowded ∧ crowded.isEnded = false ∧ crowded.placed.length = 1 ∧
      (s.advance tight).isEnded = false ∧ ((s.act .receive).advance tight).placed.length = 2 ∧
      ((s.act .drop).advance tight).stage = .ended (.error unsentStatus) ∧
      ¬EndsAborted tight s := by
  have waits : (crowded.act .abort).advance tight = crowded.act .abort :=
    advance_of_waits (by rfl)
  refine ⟨reachable_play .initial _, by rfl, by rfl, by rw [waits]; rfl, ?_, ?_, ?_⟩
  · have ended : (((crowded.act .abort).act .receive).play tight (.replicate 2 .own)).stage =
        .ended (.error abortedStatus) := by rfl
    rw [← advance_play_own 2, advance_of_ended ended]
    rfl
  · have ended : (((crowded.act .abort).act .drop).play tight (.replicate 1 .own)).stage =
        .ended (.error unsentStatus) := by rfl
    rw [← advance_play_own 1, advance_of_ended ended, ended]
  · intro h
    have ended := (h []).2.2
    rw [play_nil, waits] at ended
    cases ended

end RoutingProcessor.Stream.State
