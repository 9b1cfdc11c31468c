import Mathlib.Data.List.Induction
import RoutingProcessor.Proofs.Decision.Fetch
import RoutingProcessor.Proofs.Decision.Specification
import RoutingProcessor.Proofs.Stream.Responses

namespace RoutingProcessor.Stream

open Http Decision

-- A request whose headers do not name a preferred service: the first header with the
-- preferred name is absent or empty.
def Undecided (engine : Engine) (message : Message) : Prop :=
  ∃ headers, message = .requestHeaders headers ∧
    ((HeaderSet.ofWire headers).get? engine.preferredHeader = none ∨
      (HeaderSet.ofWire headers).get? engine.preferredHeader = some "")

-- A response without the two parts that a decision has a say in.
def Response.withoutDecision (response : Response) : Response :=
  { response with
    common := response.common.map fun common =>
      { common with headerMutation := none, clearRouteCache := false } }

-- The response to the headers of a request that goes on as it is.
def Response.unmodified : Response :=
  ⟨some .requestHeaders, some ⟨.proceed, none, false, false, false⟩⟩

section Respond

variable {engine : Engine} {exchange other : Exchange} {message : Message}
  {headers : List WireHeader} {response : Response}

theorem undecided_requestHeaders :
    Undecided engine (.requestHeaders headers) ↔
      engine.preferred? (.ofWire headers) = none := by
  rw [Engine.preferred?_eq_none_iff]
  constructor
  · rintro ⟨_, heq, h⟩
    cases heq
    exact h
  · intro h
    exact ⟨headers, rfl, h⟩

@[simp] theorem withoutDecision_ofDecision (result : Except Error Outcome) :
    (ofDecision result).withoutDecision = .unmodified := by
  cases result <;> rfl

-- The decision server has no say in the other responses.
theorem exists_respond_of_decided (decided : ¬Undecided engine message) :
    ∃ response, ∀ exchange, respond engine exchange message = some response := by
  cases message with
  | requestHeaders headers =>
    rw [undecided_requestHeaders] at decided
    obtain ⟨service, hservice⟩ := Option.ne_none_iff_exists'.1 decided
    exact ⟨_, fun exchange => by rw [respond, Engine.decide, hservice]; rfl⟩
  | inert | unknown => exact ⟨_, fun _ => rfl⟩

theorem respond_of_undecided (undecided : engine.preferred? (.ofWire headers) = none) :
    respond engine exchange (.requestHeaders headers) =
      (engine.client.fetch exchange).map
        (ofDecision ∘ engine.ofAnswer (.ofWire headers)) := by
  simp [respond, Engine.decide, undecided]

theorem withoutDecision_respond_of_undecided (undecided : Undecided engine message)
    (h : respond engine exchange message = some response) :
    response.withoutDecision = .unmodified := by
  obtain ⟨headers, rfl, _⟩ := id undecided
  rw [respond_of_undecided (undecided_requestHeaders.1 undecided)] at h
  obtain ⟨answer, _, rfl⟩ := Option.map_eq_some_iff.1 h
  simp

-- A failed fetch leaves the request as it is.
theorem respond_of_fetch_error {error : Error} (undecided : Undecided engine message)
    (failed : engine.client.fetch exchange = some (.error error)) :
    respond engine exchange message = some .unmodified := by
  obtain ⟨headers, rfl, _⟩ := id undecided
  rw [respond_of_undecided (undecided_requestHeaders.1 undecided), failed]
  rfl

theorem isSome_respond
    (h : Undecided engine message → (engine.client.fetch exchange).isSome) :
    (respond engine exchange message).isSome := by
  by_cases undecided : Undecided engine message
  · obtain ⟨headers, rfl, _⟩ := id undecided
    rw [respond_of_undecided (undecided_requestHeaders.1 undecided), Option.isSome_map]
    exact h undecided
  · obtain ⟨response, hresponse⟩ := exists_respond_of_decided undecided
    rw [hresponse, Option.isSome_some]

-- Two decision servers can make a difference only where one is asked, and then only to what
-- a decision has a say in.
theorem agree_of_respond {second : Response} (h : respond engine exchange message = some response)
    (h' : respond engine other message = some second) :
    response = second ∨
      Undecided engine message ∧ response.withoutDecision = second.withoutDecision := by
  by_cases undecided : Undecided engine message
  · rw [withoutDecision_respond_of_undecided undecided h,
      withoutDecision_respond_of_undecided undecided h']
    exact .inr ⟨undecided, rfl⟩
  · obtain ⟨only, honly⟩ := exists_respond_of_decided undecided
    rw [honly, Option.some.injEq] at h h'
    exact .inl (h.symm.trans h')

end Respond

-- Each fetch that the messages ask for comes to an end, with a decision or without one.
def Completes (setup : Setup) (messages : List Message) : Prop :=
  ∀ k message, messages[k]? = some message → Undecided setup.engine message →
    (setup.engine.client.fetch (setup.peer (served setup (messages.take k) 0))).isSome

theorem Completes.of_isPrefix {setup : Setup} {first all : List Message} (h : Completes setup all)
    (hfirst : first <+: all) : Completes setup first := by
  obtain ⟨rest, rfl⟩ := hfirst
  intro k message hk undecided
  have hlt : k < first.length := (List.getElem?_eq_some_iff.1 hk).1
  have hall := h k message (by rwa [List.getElem?_append_left hlt]) undecided
  rwa [List.take_append_of_le_length (Nat.le_of_lt hlt)] at hall

theorem completes_of_ends {setup : Setup} {messages : List Message}
    (h : ∀ n, (setup.peer n).ends) : Completes setup messages :=
  fun _ _ _ _ => Client.isSome_fetch (.inl (h _))

theorem completes_of_timeout {setup : Setup} {messages : List Message}
    (h : setup.engine.client.timeout.isSome) : Completes setup messages :=
  fun _ _ _ _ => Client.isSome_fetch (.inr h)

-- Stages that differ in nothing but the response in hand.
inductive Stage.Alike : Stage → Stage → Prop where
  | looking : Alike .looking .looking
  | answering (message : Message) : Alike (.answering message) (.answering message)
  | placing (first second : Response) : Alike (.placing first) (.placing second)
  | ended (result : Except Rpc.Status Unit) : Alike (.ended result) (.ended result)

def Stage.result? : Stage → Option (Except Rpc.Status Unit)
  | ended result => some result
  | _ => none

namespace State

-- States that differ in nothing but the responses, the log and the count of requests.
structure Alike (s t : State) : Prop where
  stage : s.stage.Alike t.stage
  inbound : s.inbound = t.inbound
  closed : s.closed = t.closed
  dropped : s.dropped = t.dropped
  aborted : s.aborted = t.aborted
  taken : s.taken = t.taken
  channel : s.channel.length = t.channel.length
  received : s.received.length = t.received.length
  placed : s.placed.length = t.placed.length

variable {engine : Engine} {capacity : Nat} {first second : Nat → Exchange} {s t u : State}

theorem alike_rfl (s : State) : Alike s s where
  stage := by
    cases s.stage with
    | looking => exact .looking
    | answering message => exact .answering message
    | placing response => exact .placing response response
    | ended result => exact .ended result
  inbound := rfl
  closed := rfl
  dropped := rfl
  aborted := rfl
  taken := rfl
  channel := rfl
  received := rfl
  placed := rfl

namespace Alike

theorem symm (h : Alike s t) : Alike t s where
  stage := by
    have hstage := h.stage
    revert hstage
    cases s.stage <;> cases t.stage <;> intro hstage <;> cases hstage
    · exact .looking
    · exact .answering _
    · exact .placing _ _
    · exact .ended _
  inbound := h.inbound.symm
  closed := h.closed.symm
  dropped := h.dropped.symm
  aborted := h.aborted.symm
  taken := h.taken.symm
  channel := h.channel.symm
  received := h.received.symm
  placed := h.placed.symm

theorem looking (h : Alike s t) (looks : s.stage = .looking) : t.stage = .looking := by
  have hstage := h.stage
  rw [looks] at hstage
  generalize t.stage = stage at hstage ⊢
  cases hstage
  rfl

theorem answering (h : Alike s t) {message : Message} (answers : s.stage = .answering message) :
    t.stage = .answering message := by
  have hstage := h.stage
  rw [answers] at hstage
  generalize t.stage = stage at hstage ⊢
  cases hstage
  rfl

theorem placing (h : Alike s t) {response : Response} (places : s.stage = .placing response) :
    ∃ other, t.stage = .placing other := by
  have hstage := h.stage
  rw [places] at hstage
  generalize t.stage = stage at hstage ⊢
  cases hstage
  exact ⟨_, rfl⟩

theorem isEnded (h : Alike s t) : s.isEnded = t.isEnded := by
  have hstage := h.stage
  unfold State.isEnded
  generalize s.stage = first at hstage ⊢
  generalize t.stage = second at hstage ⊢
  cases hstage <;> rfl

theorem ending (h : Alike s t) {result : Except Rpc.Status Unit} {rest : List Inbound}
    {events : List Log.Event} (ending : Ending s result rest events) :
    ∃ events, Ending t result rest events := by
  cases ending with
  | aborted looks fired =>
    rw [h.inbound]
    exact ⟨_, .aborted (h.looking looks) (h.aborted ▸ fired)⟩
  | interrupted answers fired =>
    rw [h.inbound]
    exact ⟨_, .interrupted (h.answering answers) (h.aborted ▸ fired)⟩
  | lost looks unfired gone =>
    rw [h.inbound]
    exact ⟨_, .lost (h.looking looks) (h.aborted ▸ unfired) (h.dropped ▸ gone)⟩
  | broken looks unfired there arrived =>
    exact ⟨_, .broken (h.looking looks) (h.aborted ▸ unfired) (h.dropped ▸ there)
      (h.inbound ▸ arrived)⟩
  | finished looks unfired there arrived closed =>
    rw [h.inbound]
    exact ⟨_, .finished (h.looking looks) (h.aborted ▸ unfired) (h.dropped ▸ there)
      (h.inbound ▸ arrived) (h.closed ▸ closed)⟩
  | unsent places gone =>
    obtain ⟨other, hother⟩ := h.placing places
    rw [h.inbound]
    exact ⟨_, .unsent hother (h.dropped ▸ gone)⟩

theorem act (h : Alike s t) (action : Action) : Alike (s.act action) (t.act action) := by
  cases action with
  | push item =>
    have haccepts : s.accepts = t.accepts := by simp [accepts, h.closed, h.isEnded]
    simp only [State.act, haccepts]
    split
    · exact { h with inbound := by simp [h.inbound] }
    · exact h
  | receive =>
    have hchannel := h.channel
    simp only [State.act]
    cases hs : s.channel with
    | nil =>
      have ht : t.channel = [] := by simpa [hs] using hchannel.symm
      rw [ht]
      exact h
    | cons response rest =>
      cases ht : t.channel with
      | nil => simp [hs, ht] at hchannel
      | cons other more =>
        have hrest : rest.length = more.length := by simpa [hs, ht] using hchannel
        exact { h with channel := hrest, received := by simp [h.received] }
  | close => exact { h with closed := rfl }
  | drop => exact { h with dropped := rfl, channel := rfl }
  | abort => exact { h with aborted := rfl }

-- A step with one decision server is a step with another, as soon as that one has answered.
theorem move (h : Alike s t) (hmove : Move ⟨engine, first, capacity⟩ s u)
    (answerable : ∀ message, t.stage = .answering message →
      (respond engine (second t.asked) message).isSome) :
    ∃ v, Move ⟨engine, second, capacity⟩ t v ∧ Alike u v := by
  cases hmove with
  | take looks unfired there arrived =>
    refine ⟨_, .take (h.looking looks) (h.aborted ▸ unfired) (h.dropped ▸ there)
      (h.inbound ▸ arrived), ?_⟩
    exact { h with stage := .answering _, inbound := rfl, taken := by simp [h.taken] }
  | answer answers unfired =>
    have answers' := h.answering answers
    obtain ⟨other, hother⟩ := Option.isSome_iff_exists.1 (answerable _ answers')
    refine ⟨_, .answer answers' (h.aborted ▸ unfired) hother, ?_⟩
    exact { h with stage := .placing _ _ }
  | place places there room =>
    obtain ⟨other, hother⟩ := h.placing places
    refine ⟨_, .place hother (h.dropped ▸ there) (h.channel ▸ room), ?_⟩
    exact { h with stage := .looking, channel := by simp [h.channel], placed := by simp [h.placed] }
  | finish ending =>
    obtain ⟨events, hevents⟩ := h.ending ending
    exact ⟨_, .finish hevents, { h with stage := .ended _, inbound := rfl }⟩

theorem turn (h : Alike s t)
    (answerable : ∀ message, s.stage = .answering message →
      (respond engine (first s.asked) message).isSome)
    (answerable' : ∀ message, t.stage = .answering message →
      (respond engine (second t.asked) message).isSome) (turn : Turn) :
    Alike (s.turn ⟨engine, first, capacity⟩ turn) (t.turn ⟨engine, second, capacity⟩ turn) := by
  cases turn with
  | outside action => exact h.act action
  | own =>
    cases hs : s.own? ⟨engine, first, capacity⟩ with
    | some u =>
      have hmove := move_of_own? hs
      obtain ⟨v, hv, huv⟩ := h.move hmove answerable'
      rwa [turn_own hmove, turn_own hv]
    | none =>
      cases ht : t.own? ⟨engine, second, capacity⟩ with
      | none => rwa [turn_own_of_waits hs, turn_own_of_waits ht]
      | some v =>
        -- One processor does not wait where the other goes on.
        obtain ⟨u, hu, _⟩ := h.symm.move (move_of_own? ht) answerable
        simp [own?_of_move hu] at hs

end Alike

variable {setup : Setup}

-- A message in hand gets its response, if each fetch for what has been taken ends.
theorem Progress.answerable (hs : Progress setup s) (completes : Completes setup s.taken)
    {message : Message} (answers : s.stage = .answering message) :
    (respond setup.engine (setup.peer s.asked) message).isSome := by
  cases hs with
  | answering earlier _ stage taken _ asked =>
    rw [answers, Stage.answering.injEq] at stage
    subst stage
    rw [asked]
    apply isSome_respond
    intro undecided
    have h := completes earlier.length message (by simp [taken]) undecided
    simpa [taken] using h
  | looking stage | placing _ _ _ stage | ended _ stage | cut _ _ _ stage =>
    simp [answers] at stage

theorem taken_prefix_turn (turn : Turn) : s.taken <+: (s.turn setup turn).taken := by
  cases turn with
  | outside action => simp [State.turn]
  | own =>
    rcases turn_own_cases setup s with hmove | ⟨_, hturn⟩
    · generalize s.turn setup .own = t at hmove ⊢
      cases hmove with
      | take => exact List.prefix_append _ _
      | answer | place | finish => exact List.prefix_rfl
    · simp [hturn]

-- With either of two decision servers a schedule leads to states that are alike.
theorem alike_play (turns : List Turn)
    (completes : Completes ⟨engine, first, capacity⟩
      (State.initial.play ⟨engine, first, capacity⟩ turns).taken)
    (completes' : Completes ⟨engine, second, capacity⟩
      (State.initial.play ⟨engine, second, capacity⟩ turns).taken) :
    Alike (State.initial.play ⟨engine, first, capacity⟩ turns)
      (State.initial.play ⟨engine, second, capacity⟩ turns) := by
  induction turns using List.reverseRecOn with
  | nil => exact alike_rfl _
  | append_singleton turns turn ih =>
    simp only [play_append, play_cons, play_nil] at completes completes' ⊢
    have before := completes.of_isPrefix (taken_prefix_turn turn)
    have before' := completes'.of_isPrefix (taken_prefix_turn turn)
    exact (ih before before').turn (fun _ => (progress_play turns).answerable before)
      (fun _ => (progress_play turns).answerable before') turn

theorem Progress.respond_eq (hs : Progress setup s) {k : Nat} {message : Message}
    {response : Response} (hm : s.taken[k]? = some message) (hr : s.placed[k]? = some response) :
    respond setup.engine (setup.peer (served setup (s.taken.take k) 0)) message =
      some response := by
  obtain ⟨messages, rest, taken, answered, _⟩ := hs.split
  have hlt : k < messages.length := by
    rw [← answered.length_eq]
    exact (List.getElem?_eq_some_iff.1 hr).1
  rw [taken, List.getElem?_append_left hlt] at hm
  rw [taken, List.take_append_of_le_length (Nat.le_of_lt hlt)]
  exact answered.respond_eq hm hr

theorem Alike.result?_eq (h : Alike s t) : s.stage.result? = t.stage.result? := by
  have hstage := h.stage
  generalize s.stage = first at hstage ⊢
  generalize t.stage = second at hstage ⊢
  cases hstage <;> rfl

-- The phases of the responses placed are those of the first messages taken, as many as there
-- are responses.
theorem Progress.map_phase (hs : Progress setup s) :
    s.placed.map Response.phase = (s.taken.take s.placed.length).map Message.phase? := by
  obtain ⟨messages, rest, taken, answered, _⟩ := hs.split
  rw [taken, answered.length_eq, List.take_left, answered.map_phase]

theorem Queues.map_phase_received {fed : List Inbound} (hs : Queues setup fed s) :
    s.received.map Response.phase =
      (s.placed.map Response.phase).take s.received.length := by
  obtain ⟨rest, hrest⟩ := hs.received
  simp [← hrest]

-- Two decision servers behind one stream: on every schedule on which their fetches end, the
-- same messages get responses of the same phases, and the stream ends the same way. Only a
-- request that leaves the service open can be answered differently, and then only in what a
-- decision has a say in. Where its fetch fails it goes on as it is.
theorem decision_server_only_decides (engine : Engine) (capacity : Nat)
    (first second : Nat → Exchange) (turns : List Turn)
    (completes : Completes ⟨engine, first, capacity⟩
      (State.initial.play ⟨engine, first, capacity⟩ turns).taken)
    (completes' : Completes ⟨engine, second, capacity⟩
      (State.initial.play ⟨engine, second, capacity⟩ turns).taken) :
    let s := State.initial.play ⟨engine, first, capacity⟩ turns
    let t := State.initial.play ⟨engine, second, capacity⟩ turns
    s.taken = t.taken ∧ s.stage.result? = t.stage.result? ∧
      s.placed.map Response.phase = t.placed.map Response.phase ∧
      s.received.map Response.phase = t.received.map Response.phase ∧
      (∀ (k : Nat) (message : Message) (response other : Response), s.taken[k]? = some message →
        s.placed[k]? = some response → t.placed[k]? = some other → response = other ∨
          Undecided engine message ∧ response.withoutDecision = other.withoutDecision) ∧
      (∀ (k : Nat) (message : Message) (response : Response) (error : Error),
        s.taken[k]? = some message → s.placed[k]? = some response → Undecided engine message →
        engine.client.fetch
            (first (served ⟨engine, first, capacity⟩ (s.taken.take k) 0)) = some (.error error) →
          response = ⟨some .requestHeaders, some ⟨.proceed, none, false, false, false⟩⟩) := by
  intro s t
  have alike : Alike s t := alike_play turns completes completes'
  have hs : Progress ⟨engine, first, capacity⟩ s := progress_play turns
  have ht : Progress ⟨engine, second, capacity⟩ t := progress_play turns
  have hplaced : s.placed.map Response.phase = t.placed.map Response.phase := by
    rw [hs.map_phase, ht.map_phase, alike.placed, alike.taken]
  have hreceived : s.received.map Response.phase = t.received.map Response.phase := by
    have hs' : Queues ⟨engine, first, capacity⟩ _ s := queues_play turns
    have ht' : Queues ⟨engine, second, capacity⟩ _ t := queues_play turns
    rw [hs'.map_phase_received, ht'.map_phase_received, hplaced, alike.received]
  refine ⟨alike.taken, alike.result?_eq, hplaced, hreceived, ?_, ?_⟩
  · intro k message response other htaken hresponse hother
    exact agree_of_respond (hs.respond_eq htaken hresponse)
      (ht.respond_eq (alike.taken ▸ htaken) hother)
  · intro k message response error htaken hresponse undecided failed
    have hknown := hs.respond_eq htaken hresponse
    rw [respond_of_fetch_error undecided failed, Option.some.injEq] at hknown
    exact hknown.symm

-- A request that leaves the service open, a server to ask about it, and what the server says
-- if it can be reached.
def asking : Engine := ⟨"preferred-svc", "x-routing-decision", ⟨some "http://a/", none⟩⟩

def oneRequest : List Turn :=
  [.outside (.push (.message (.requestHeaders []))), .own, .own, .own]

def decided : Exchange :=
  .response .ok .untilClose (Text.octets "\x7b\"decision\":\"b\"\x7d")

theorem unreachable_beside_decided :
    let s := State.initial.play ⟨asking, fun _ => .unreachable, 1⟩ oneRequest
    let t := State.initial.play ⟨asking, fun _ => decided, 1⟩ oneRequest
    Completes ⟨asking, fun _ => .unreachable, 1⟩ s.taken ∧
      Completes ⟨asking, fun _ => decided, 1⟩ t.taken ∧ s.placed ≠ t.placed ∧
      s.stage.result? = t.stage.result? ∧
      s.placed.map Response.phase = t.placed.map Response.phase := by
  intro s t
  have completes : Completes ⟨asking, fun _ => .unreachable, 1⟩ s.taken :=
    completes_of_ends fun _ => rfl
  have completes' : Completes ⟨asking, fun _ => decided, 1⟩ t.taken :=
    completes_of_ends fun _ => rfl
  have h := decision_server_only_decides asking 1 _ _ oneRequest completes completes'
  exact ⟨completes, completes', by decide +kernel, h.2.1, h.2.2.1⟩

end State

end RoutingProcessor.Stream
