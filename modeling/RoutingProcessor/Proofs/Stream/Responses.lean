import RoutingProcessor.Proofs.Stream.Schedule

namespace RoutingProcessor.Stream

-- How many requests the decision server has had after these messages, if it has had
-- `before` of them already.
def served (setup : Setup) (messages : List Message) (before : Nat) : Nat :=
  messages.foldl (fun n message => n + requests setup.engine (setup.peer n) message) before

-- What `respond` makes of messages, one after the other. Nothing stands for a response that
-- the decision server holds up.
def answers (setup : Setup) : List Message → (before : Nat) → List (Option Response)
  | [], _ => []
  | message :: messages, before =>
    respond setup.engine (setup.peer before) message ::
      answers setup messages (before + requests setup.engine (setup.peer before) message)

-- The responses are those to all of the messages.
def Answered (setup : Setup) (messages : List Message) (responses : List Response) : Prop :=
  answers setup messages 0 = responses.map some

section Answers

variable {setup : Setup}

@[simp] theorem served_nil (before : Nat) : served setup [] before = before := rfl

theorem served_append (first second : List Message) (before : Nat) :
    served setup (first ++ second) before = served setup second (served setup first before) :=
  List.foldl_append

theorem served_concat (messages : List Message) (message : Message) (before : Nat) :
    served setup (messages ++ [message]) before =
      served setup messages before +
        requests setup.engine (setup.peer (served setup messages before)) message :=
  served_append messages [message] before

theorem answers_append (first second : List Message) (before : Nat) :
    answers setup (first ++ second) before =
      answers setup first before ++ answers setup second (served setup first before) := by
  induction first generalizing before with
  | nil => rfl
  | cons message first ih =>
    simp only [List.cons_append, answers, ih]
    rfl

@[simp] theorem length_answers (messages : List Message) (before : Nat) :
    (answers setup messages before).length = messages.length := by
  induction messages generalizing before with
  | nil => rfl
  | cons message messages ih => simp [answers, ih]

-- Each message is answered on its own. Earlier ones only count for the exchange it meets.
theorem getElem?_answers (messages : List Message) (before k : Nat) :
    (answers setup messages before)[k]? = messages[k]?.map
      (respond setup.engine (setup.peer (served setup (messages.take k) before))) := by
  induction messages generalizing before k with
  | nil => simp [answers]
  | cons message messages ih =>
    cases k with
    | zero => simp [answers]
    | succ k =>
      simp only [answers, List.getElem?_cons_succ, ih, List.take_succ_cons]
      rfl

theorem phase_respond {engine : Decision.Engine} {exchange : Http.Exchange} {message : Message}
    {response : Response} (h : respond engine exchange message = some response) :
    response.phase = message.phase? := by
  cases message with
  | requestHeaders headers =>
    obtain ⟨result, _, rfl⟩ := Option.map_eq_some_iff.1 h
    rfl
  | inert phase =>
    cases h
    rfl
  | unknown =>
    cases h
    rfl

namespace Answered

variable {messages : List Message} {responses : List Response}

theorem nil : Answered setup [] [] := rfl

theorem concat {message : Message} {response : Response} (h : Answered setup messages responses)
    (known : respond setup.engine (setup.peer (served setup messages 0)) message = some response) :
    Answered setup (messages ++ [message]) (responses ++ [response]) := by
  rw [Answered, answers_append, h, List.map_append]
  simp [answers, known]

theorem length_eq (h : Answered setup messages responses) :
    responses.length = messages.length := by
  have hl := congrArg List.length h
  simpa using hl.symm

theorem respond_eq (h : Answered setup messages responses) {k : Nat} {message : Message}
    {response : Response} (hm : messages[k]? = some message)
    (hr : responses[k]? = some response) :
    respond setup.engine (setup.peer (served setup (messages.take k) 0)) message =
      some response := by
  have hk := congrArg (·[k]?) h
  simpa [getElem?_answers, hm, hr] using hk

-- A response has the phase of its message.
theorem map_phase (h : Answered setup messages responses) :
    responses.map Response.phase = messages.map Message.phase? := by
  apply List.ext_getElem?
  intro k
  rw [List.getElem?_map, List.getElem?_map]
  by_cases hk : k < messages.length
  · have hk' : k < responses.length := by rw [h.length_eq]; exact hk
    have hp := phase_respond (h.respond_eq (List.getElem?_eq_getElem hk)
      (List.getElem?_eq_getElem hk'))
    simp [hk, hk', hp]
  · have hk' : ¬k < responses.length := by rw [h.length_eq]; exact hk
    simp [hk, hk']

end Answered

end Answers

namespace State

variable {setup : Setup} {s t : State}

-- How far the responses have come, stage by stage. Only the message in hand can lack its
-- response, and it keeps lacking it if the processor returns with it in hand.
inductive Progress (setup : Setup) (s : State) : Prop where
  | looking (looks : s.stage = .looking) (answered : Answered setup s.taken s.placed)
      (asked : s.asked = served setup s.taken 0)
  | answering (earlier : List Message) (message : Message)
      (answers : s.stage = .answering message) (taken : s.taken = earlier ++ [message])
      (answered : Answered setup earlier s.placed) (asked : s.asked = served setup earlier 0)
  | placing (earlier : List Message) (message : Message) (response : Response)
      (places : s.stage = .placing response) (taken : s.taken = earlier ++ [message])
      (answered : Answered setup earlier s.placed) (asked : s.asked = served setup s.taken 0)
      (known : respond setup.engine (setup.peer (served setup earlier 0)) message = some response)
  | ended (result : Except Rpc.Status Unit) (ended : s.stage = .ended result)
      (answered : Answered setup s.taken s.placed)
  | cut (earlier : List Message) (message : Message) (status : Rpc.Status)
      (ended : s.stage = .ended (.error status))
      (status_eq : status = abortedStatus ∨ status = unsentStatus)
      (taken : s.taken = earlier ++ [message]) (answered : Answered setup earlier s.placed)

theorem progress_initial : Progress setup .initial := .looking rfl .nil rfl

theorem Ending.progress {result : Except Rpc.Status Unit} {rest : List Inbound}
    {events : List Log.Event} (ending : Ending s result rest events) (hs : Progress setup s) :
    Progress setup { s.logged events with inbound := rest, stage := .ended result } := by
  cases hs with
  | looking _ answered _ => exact .ended _ rfl answered
  | answering earlier message answers taken answered _ =>
    cases ending with
    | interrupted => exact .cut _ _ _ rfl (.inl rfl) taken answered
    | aborted stage | lost stage | broken stage | finished stage | unsent stage =>
      simp [answers] at stage
  | placing earlier message response places taken answered _ _ =>
    cases ending with
    | unsent => exact .cut _ _ _ rfl (.inr rfl) taken answered
    | aborted stage | interrupted stage | lost stage | broken stage | finished stage =>
      simp [places] at stage
  | ended _ _ answered => exact .ended _ rfl answered
  | cut earlier message status ended =>
    cases ending with
    | aborted stage | interrupted stage | lost stage | broken stage | finished stage
    | unsent stage => simp [ended] at stage

theorem Progress.move (hs : Progress setup s) (h : Move setup s t) : Progress setup t := by
  cases h with
  | take looks =>
    cases hs with
    | looking _ answered asked => exact .answering _ _ rfl rfl answered asked
    | answering _ _ stage | placing _ _ _ stage | ended _ stage | cut _ _ _ stage =>
      simp [looks] at stage
  | answer answers _ known =>
    cases hs with
    | answering earlier message stage taken answered asked =>
      rw [answers, Stage.answering.injEq] at stage
      subst stage
      rw [asked] at known
      refine .placing _ _ _ rfl taken answered ?_ known
      simp only [logged, taken, served_concat, asked]
    | looking stage | placing _ _ _ stage | ended _ stage | cut _ _ _ stage =>
      simp [answers] at stage
  | place places =>
    cases hs with
    | placing earlier message response stage taken answered asked known =>
      rw [places, Stage.placing.injEq] at stage
      subst stage
      exact .looking rfl (taken ▸ answered.concat known) asked
    | looking stage | answering _ _ stage | ended _ stage | cut _ _ _ stage =>
      simp [places] at stage
  | finish ending => exact ending.progress hs

theorem Progress.act (hs : Progress setup s) (action : Action) :
    Progress setup (s.act action) := by
  cases hs with
  | looking stage answered asked => exact .looking (by simpa) (by simpa) (by simpa)
  | answering earlier message stage taken answered asked =>
    exact .answering earlier message (by simpa) (by simpa) (by simpa) (by simpa)
  | placing earlier message response stage taken answered asked known =>
    exact .placing earlier message response (by simpa) (by simpa) (by simpa) (by simpa) known
  | ended result stage answered => exact .ended result (by simpa) (by simpa)
  | cut earlier message status stage status_eq taken answered =>
    exact .cut earlier message status (by simpa) status_eq (by simpa) (by simpa)

theorem progress_play (turns : List Turn) : Progress setup (State.initial.play setup turns) :=
  play_keeps Progress.move (fun action hs => hs.act action) progress_initial turns

-- What the queues on both sides hold after `fed` has come in. Of what the processor takes
-- without answering it, a failure, nothing is kept.
structure Queues (setup : Setup) (fed : List Inbound) (s : State) : Prop where
  taken : s.taken.map .message <+: fed
  inbound : s.isEnded = false → fed = s.taken.map .message ++ s.inbound
  received : s.received <+: s.placed
  channel : s.dropped = false → s.placed = s.received ++ s.channel
  gone : s.dropped = true → s.channel = []
  room : s.channel.length ≤ setup.capacity
  answered : s.answered = s.placed.length

variable {fed : List Inbound}

theorem queues_initial : Queues setup [] .initial where
  taken := List.prefix_rfl
  inbound _ := rfl
  received := List.prefix_rfl
  channel _ := rfl
  gone _ := rfl
  room := Nat.zero_le _
  answered := rfl

theorem isEnded_of_stage {stage : Stage} (h : s.stage = stage)
    (running : ∀ result, stage ≠ .ended result) : s.isEnded = false := by
  cases stage <;> simp_all [isEnded]

theorem Queues.move (hs : Queues setup fed s) (h : Move setup s t) : Queues setup fed t := by
  cases h with
  | @take message rest looks _ _ arrived =>
    have hfed := hs.inbound (isEnded_of_stage looks (by simp))
    rw [arrived] at hfed
    exact { hs with
      taken := ⟨rest, by simp [hfed]⟩
      inbound := fun _ => by simp [hfed] }
  | answer answers =>
    have hfed := hs.inbound (isEnded_of_stage answers (by simp))
    exact { hs with inbound := fun _ => hfed }
  | place places there room =>
    have hfed := hs.inbound (isEnded_of_stage places (by simp))
    exact { hs with
      inbound := fun _ => hfed
      received := hs.received.trans (List.prefix_append _ _)
      channel := fun _ => by simp [hs.channel there]
      gone := fun gone => by simp [there] at gone
      room := by simpa using Nat.succ_le_of_lt room
      answered := by simp [hs.answered] }
  | finish => exact { hs with inbound := fun running => by simp [isEnded] at running }

theorem Queues.act (hs : Queues setup fed s) (action : Action) :
    Queues setup (fed ++ s.gains (.outside action)) (s.act action) := by
  cases action with
  | push item =>
    simp only [gains, State.act]
    split
    · next accepts =>
      have running : s.isEnded = false := by
        simp only [State.accepts, Bool.and_eq_true, Bool.not_eq_true'] at accepts
        exact accepts.2
      exact { hs with
        taken := hs.taken.trans (List.prefix_append _ _)
        inbound := fun _ => by simp [hs.inbound running] }
    · simpa using hs
  | receive =>
    simp only [gains, State.act, List.append_nil]
    split
    · next response rest hchannel =>
      have there : s.dropped = false := by
        cases hdropped : s.dropped with
        | false => rfl
        | true => simp [hs.gone hdropped] at hchannel
      have hplaced := hs.channel there
      have hroom := hs.room
      rw [hchannel] at hplaced hroom
      exact { hs with
        received := ⟨rest, by simp [hplaced]⟩
        channel := fun _ => by simp [hplaced]
        gone := fun gone => by simp [there] at gone
        room := Nat.le_of_succ_le hroom }
    · exact hs
  | close | abort => simpa [gains, State.act] using { hs with }
  | drop =>
    simp only [gains, State.act, List.append_nil]
    exact { hs with
      channel := fun there => by simp at there
      gone := fun _ => rfl
      room := Nat.zero_le _ }

theorem queues_play (turns : List Turn) :
    Queues setup (State.initial.fed setup turns) (State.initial.play setup turns) := by
  have h := play_preserves (P := Queues setup) Queues.move (fun action hs => hs.act action)
    queues_initial turns
  rwa [List.nil_append] at h

-- Why a message that has been taken has no response in the channel: it is being answered,
-- or the processor has returned and left it.
def Unanswered (s : State) (message : Message) : Prop :=
  s.stage = .answering message ∨ (∃ response, s.stage = .placing response) ∨
    ∃ status, s.stage = .ended (.error status) ∧
      (status.code = .cancelled ∨ status.code = .unavailable)

theorem Progress.split (hs : Progress setup s) :
    ∃ messages rest, s.taken = messages ++ rest ∧ Answered setup messages s.placed ∧
      (rest = [] ∨ ∃ message, rest = [message] ∧ s.Unanswered message) := by
  cases hs with
  | looking _ answered | ended _ _ answered =>
    exact ⟨s.taken, [], by simp, answered, .inl rfl⟩
  | answering earlier message stage taken answered =>
    exact ⟨earlier, [message], taken, answered, .inr ⟨message, rfl, .inl stage⟩⟩
  | placing earlier message response stage taken answered =>
    have unanswered : s.Unanswered message := .inr (.inl ⟨response, stage⟩)
    exact ⟨earlier, [message], taken, answered, .inr ⟨message, rfl, unanswered⟩⟩
  | cut earlier message status stage status_eq taken answered =>
    have hcode : status.code = .cancelled ∨ status.code = .unavailable := by
      rcases status_eq with rfl | rfl
      · exact .inl rfl
      · exact .inr rfl
    have unanswered : s.Unanswered message := .inr (.inr ⟨status, stage, hcode⟩)
    exact ⟨earlier, [message], taken, answered, .inr ⟨message, rfl, unanswered⟩⟩

-- After every schedule the responses are those to the first messages of the inbound side,
-- one each and in order. Only the last message taken can lack its response. The peer has
-- received the first of the responses, and the channel holds the others.
theorem responses_follow_messages (setup : Setup) (turns : List Turn) :
    let s := State.initial.play setup turns
    s.taken.map .message <+: State.initial.fed setup turns ∧
      (∃ messages rest, s.taken = messages ++ rest ∧ Answered setup messages s.placed ∧
        s.placed.map Response.phase = messages.map Message.phase? ∧
        (rest = [] ∨ ∃ message, rest = [message] ∧ s.Unanswered message)) ∧
      s.received <+: s.placed ∧ (s.dropped = false → s.placed = s.received ++ s.channel) ∧
      s.channel.length ≤ setup.capacity := by
  intro s
  have hq : Queues setup _ s := queues_play turns
  have hp : Progress setup s := progress_play turns
  obtain ⟨messages, rest, htaken, answered, hrest⟩ := hp.split
  exact ⟨hq.taken, ⟨messages, rest, htaken, answered, answered.map_phase, hrest⟩, hq.received,
    hq.channel, hq.room⟩

end State

end RoutingProcessor.Stream
