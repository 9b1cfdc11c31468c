import Mathlib.Data.List.Chain
import RoutingProcessor.Server.Session

namespace RoutingProcessor.Server

open Files

namespace State

variable {config : ServerSection} {s t : State}

-- The steps on the way down leave alone what they are not about.
theorem settleGrpc_frame (s : State) (result : Except Failure Unit) :
    ∃ failures log, s.settleGrpc result =
      { s with stage := .removingSocket, since := s.now, failures, log } := by
  cases result <;> exact ⟨_, _, rfl⟩

theorem settleMock_frame (config : ServerSection) (s : State) (result : Except Failure Unit) :
    ∃ failures log, s.settleMock config result =
      { s with stage := .waiting, since := s.now, failures, log } := by
  cases result with
  | ok u => exact ⟨s.failures, _, rfl⟩
  | error failure => exact ⟨_, _, settleMock_error config s failure⟩

@[simp] theorem stage_settleGrpc (s : State) (result : Except Failure Unit) :
    (s.settleGrpc result).stage = .removingSocket := by
  cases result <;> rfl

@[simp] theorem stage_settleMock (config : ServerSection) (s : State) (result : Except Failure Unit) :
    (s.settleMock config result).stage = .waiting := by
  cases result <;> rfl

theorem removeSocket_frame (s : State) :
    ∃ files log, s.removeSocket = { s with files, log } := by
  unfold removeSocket
  split
  · split
    · exact ⟨_, s.log, rfl⟩
    · split
      · exact ⟨s.files, s.log, rfl⟩
      · exact ⟨s.files, _, rfl⟩
  · exact ⟨s.files, s.log, rfl⟩

theorem leaveMock_frame (config : ServerSection) (s : State) :
    ∃ stage cancelled files log, s.leaveMock config =
      { s with stage, since := s.now, isMockCancelled := cancelled, files, log } ∧
        (stage = .waiting ∨ stage = .drainingMock) := by
  obtain ⟨files, log, h⟩ := removeSocket_frame s
  unfold leaveMock
  rw [h]
  dsimp only
  split
  · exact ⟨.waiting, s.isMockCancelled, files, _, rfl, .inl rfl⟩
  · exact ⟨.drainingMock, true, files, _, rfl, .inr rfl⟩

@[simp] theorem act_status (action : Action) : (s.act config action).status = s.status := by
  cases action with
  | call =>
    simp only [act, call]
    split <;> rfl
  | fire | check | touch | pass => rfl

-- The first call is taken on.
theorem call_of_created (h : s.stage = .created) :
    s.act config .call =
      { s with
        stage := if config.mockBackend.isSome then .bindingMock else .bindingGrpc
        since := s.now } := by
  simp only [act, call, h, enter]

-- Every other call is turned away. Nothing else comes of it.
theorem call_of_started (h : s.stage ≠ .created) :
    s.act config .call = { s with refused := s.refused ++ [alreadyStarted] } := by
  cases hs : s.stage with
  | created => exact absurd hs h
  | _ => simp only [act, call, hs]

theorem act_stage (action : Action) :
    (s.act config action).stage = s.stage ∨
      s.stage = .created ∧ (s.act config action).stage =
        if config.mockBackend.isSome then .bindingMock else .bindingGrpc := by
  cases action with
  | call =>
    by_cases h : s.stage = .created
    · rw [call_of_created h]
      exact .inr ⟨h, rfl⟩
    · rw [call_of_started h]
      exact .inl rfl
  | fire | check | touch | pass => exact .inl rfl

-- A step of the server takes no time. One that enters a stage notes when it did.
theorem clock_of_own (h : Own config s t) :
    t.now = s.now ∧ (t.stage = s.stage ∧ t.since = s.since ∨ t.stage ≠ s.stage ∧ t.since = s.now) := by
  cases h with
  | mockBound _ hs | mockFailed _ hs | grpcBound hs | grpcFailed _ hs | leave hs
  | drainElapsed hs | graceElapsed hs | mockElapsed hs | finish hs =>
    exact ⟨rfl, .inr ⟨by rw [hs]; nofun, rfl⟩⟩
  | grpcDrained hs | grpcAborted hs =>
    obtain ⟨_, _, frame⟩ := s.settleGrpc_frame ‹_›
    rw [frame]
    exact ⟨rfl, .inr ⟨by rw [hs]; nofun, rfl⟩⟩
  | leaveMock hs =>
    obtain ⟨stage, _, _, _, frame, stages⟩ := s.leaveMock_frame config
    rw [frame]
    refine ⟨rfl, .inr ⟨?_, rfl⟩⟩
    rcases stages with rfl | rfl <;> rw [hs] <;> nofun
  | mockDrained hs =>
    obtain ⟨_, _, frame⟩ := s.settleMock_frame config ‹_›
    rw [frame]
    exact ⟨rfl, .inr ⟨by rw [hs]; nofun, rfl⟩⟩
  | grpcEnds | mockEnds => exact ⟨rfl, .inl ⟨rfl, rfl⟩⟩

theorem since_act_le (action : Action) (h : s.since.nanos ≤ s.now.nanos) :
    (s.act config action).since.nanos ≤ (s.act config action).now.nanos := by
  cases action with
  | call =>
    simp only [act, call]
    split
    · exact Nat.le_refl _
    · exact h
  | pass time => exact Nat.le_add_right_of_le h
  | fire | check | touch => exact h

end State

-- Nobody has been at a stage before it was entered.
theorem Reachable.since_le {config : ServerSection} {s : State} (h : Reachable config s) :
    s.since.nanos ≤ s.now.nanos := by
  induction h with
  | initial => exact Nat.le_refl _
  | step _ h ih =>
    cases h with
    | own h =>
      obtain ⟨now, ⟨_, since⟩ | ⟨_, since⟩⟩ := State.clock_of_own h
      · rw [since, now]
        exact ih
      · rw [since, now]
    | act action => exact State.since_act_le action ih

-- A server's own steps interleaved with what others do: their actions in order, the states
-- passed through, and the last of these.
inductive Run (config : ServerSection) (first : State) :
    List Action → List State → State → Prop where
  | start : Run config first [] [first] first
  | own {actions : List Action} {states : List State} {s t : State} :
    Run config first actions states s → Own config s t →
    Run config first actions (states ++ [t]) t
  | act {actions : List Action} {states : List State} {s : State} (action : Action) :
    Run config first actions states s →
    Run config first (actions ++ [action]) (states ++ [s.act config action]) (s.act config action)

namespace Run

variable {config : ServerSection} {first s t : State} {actions : List Action} {states : List State}

theorem step (run : Run config first actions states s) (h : Step config s t) :
    ∃ more, Run config first more (states ++ [t]) t := by
  cases h with
  | own h => exact ⟨actions, run.own h⟩
  | act action => exact ⟨actions ++ [action], run.act action⟩

theorem of_steps (h : Relation.ReflTransGen (Step config) first t) :
    ∃ actions states, Run config first actions states t := by
  induction h with
  | refl => exact ⟨[], _, .start⟩
  | tail _ h ih =>
    obtain ⟨actions, states, run⟩ := ih
    obtain ⟨more, run⟩ := run.step h
    exact ⟨more, _, run⟩

theorem getLast?_eq (run : Run config first actions states t) : states.getLast? = some t := by
  cases run <;> simp

theorem isChain (run : Run config first actions states t) : states.IsChain (Step config) := by
  induction run with
  | start => exact .singleton _
  | own run h ih =>
    refine List.isChain_append.2 ⟨ih, .singleton _, ?_⟩
    simpa [run.getLast?_eq] using Step.own h
  | act action run ih =>
    refine List.isChain_append.2 ⟨ih, .singleton _, ?_⟩
    simpa [run.getLast?_eq] using Step.act action

theorem reachable {files : Directory} (run : Run config (.initial files) actions states t) :
    Reachable config t := by
  induction run with
  | start => exact .initial files
  | own _ h ih => exact .step ih (.own h)
  | act action _ ih => exact .step ih (.act action)

theorem reachable_of_mem {files : Directory} (run : Run config (.initial files) actions states t) :
    ∀ s ∈ states, Reachable config s := by
  induction run with
  | start => simpa using Reachable.initial files
  | own run h ih => simpa [or_imp, forall_and] using ⟨ih, (run.own h).reachable⟩
  | act action run ih => simpa [or_imp, forall_and] using ⟨ih, (run.act action).reachable⟩

end Run

-- The states that steps lead to are those in which runs end.
theorem reachable_iff_run {config : ServerSection} {t : State} :
    Reachable config t ↔ ∃ files actions states, Run config (.initial files) actions states t := by
  constructor
  · intro h
    induction h with
    | initial files => exact ⟨files, [], _, .start⟩
    | step _ h ih =>
      obtain ⟨files, actions, states, run⟩ := ih
      obtain ⟨more, run⟩ := run.step h
      exact ⟨files, more, _, run⟩
  · rintro ⟨files, actions, states, run⟩
    exact run.reachable

-- Somewhere on the way from one session to another the server takes steps, and only steps.
def Session.Leads (setup : Setup) (s t : Session) : Prop :=
  Relation.ReflTransGen (Step setup.config.server) s.server t.server

namespace Session

variable {setup : Setup} {s t u : Session}

theorem Leads.rfl : Leads setup s s := .refl

theorem Leads.trans (first : Leads setup s t) (second : Leads setup t u) : Leads setup s u :=
  Relation.ReflTransGen.trans first second

theorem Leads.act (action : Action) :
    Leads setup s { s with server := s.server.act setup.config.server action } :=
  .single (.act action)

theorem leads_settleServer (s : Session) : Leads setup s (s.settleServer setup) := by
  suffices h : ∀ server seen, Relation.ReflTransGen (Step setup.config.server) server
      (server.advance setup.config.server setup.host s.load seen).1 from h s.server s.seen
  intro server seen
  fun_induction State.advance setup.config.server setup.host s.load server seen with
  | case1 server seen next h ih => exact .head (.own (State.own_of_own? h)) ih
  | case2 => exact .refl

theorem leads_settle (s : Session) : Leads setup s (s.settle setup) :=
  (leads_settleServer s).trans (leads_settleServer ((s.settleServer setup).settleStreams setup))

theorem leads_wait (s : Session) (time : Duration) : Leads setup s (s.wait setup time) :=
  (Leads.act (.pass time)).trans (leads_settle _)

theorem leads_pass (limit : Option Duration) (rounds : Nat) (s : Session) :
    Leads setup s (s.pass setup limit rounds) := by
  fun_induction pass setup limit rounds s with
  | case1 | case7 => exact .rfl
  | case2 | case5 | case6 => exact leads_wait _ _
  | case3 _ _ _ _ ih | case4 _ _ _ _ _ _ ih => exact (leads_wait _ _).trans ih

theorem leads_serve (s : Session) : Leads setup s (s.serve setup).1 := by
  have called : Leads setup s { s with server := s.server.act setup.config.server .call } := .act _
  have settled := called.trans (leads_settle _)
  unfold serve
  dsimp only
  split
  · split
    · exact settled
    · split
      · exact settled.trans (leads_pass _ _ _)
      · exact settled.trans (leads_pass _ _ _)
  · exact called

theorem leads_stop (s : Session) : Leads setup s (s.stop setup).1 := by
  unfold stop
  split
  · have fired : Leads setup s
        { s with server := s.server.act setup.config.server .fire, isStarted := false } :=
      .single (.act .fire)
    have passed := (fired.trans (leads_settle _)).trans (leads_pass none timeouts _)
    dsimp only
    split
    · exact passed
    · exact passed
  · exact .rfl

theorem server_of_deliver? {id : String} {c : Connection} {report : Report}
    (h : s.deliver? id c = some (t, report)) : t.server = s.server := by
  unfold deliver? at h
  split at h
  · cases h; rfl
  · cases h; rfl
  · split at h <;> cases h <;> rfl
  · cases h

theorem leads_settleStreams_settle (s : Session) :
    Leads setup s ((s.settleStreams setup).settle setup) :=
  leads_settle (s.settleStreams setup)

theorem leads_receive (id : String) (rounds : Nat) (s : Session) :
    Leads setup s (s.receive setup id rounds).1 := by
  fun_induction receive setup id rounds s with
  | case1 => exact .rfl
  | case2 | case5 => exact leads_settleStreams_settle _
  | case3 _ _ _ _ _ answer delivered =>
    rw [Leads, server_of_deliver? delivered]
    exact leads_settleStreams_settle _
  | case4 _ _ _ _ _ _ _ _ ih =>
    exact (leads_settleStreams_settle _).trans ((leads_wait _ _).trans ih)

theorem leads_exchange (id : String) (actions : List Stream.Action) (s : Session) :
    Leads setup s (s.exchange setup id actions).1 := by
  unfold exchange
  split
  · exact .rfl
  · exact leads_receive id (timeouts + 1) (s.setConnection id _)

variable {use : Session → Session × Report}

theorem leads_withGrpc (uses : ∀ s, Leads setup s (use s).1) (s : Session) :
    Leads setup s (s.withGrpc setup use).1 := by
  unfold withGrpc
  dsimp only
  split
  · exact leads_settle s
  · split
    · exact (leads_settle s).trans (uses _)
    · exact leads_settle s

theorem leads_withMock (uses : ∀ s, Leads setup s (use s).1) (s : Session) :
    Leads setup s (s.withMock setup use).1 := by
  unfold withMock
  dsimp only
  split
  · exact leads_settle s
  · split
    · exact (leads_settle s).trans (uses _)
    · exact leads_settle s

theorem leads_remove (path : String) (s : Session) : Leads setup s (s.remove setup path).1 := by
  unfold remove
  split
  · exact .act _
  · exact .rfl

theorem leads_perform (command : Command) (s : Session) :
    Leads setup s (s.perform setup command).1 := by
  cases command with
  | status | drop | look => exact .rfl
  | serve => exact leads_serve s
  | isReady =>
    simp only [perform]
    split
    · exact leads_settle s
    · exact .rfl
  | waitReady wait => exact (leads_settle s).trans (leads_pass _ _ _)
  | connect id =>
    refine leads_withGrpc (fun s => ?_) s
    exact leads_settle { s.removeConnection id with connections := _ }
  | send id message => exact leads_exchange _ _ s
  | receive id => exact leads_exchange _ _ s
  | finish id => exact leads_exchange _ _ s
  | check service => exact leads_withGrpc (fun s => .act _) s
  | watch service => exact leads_withGrpc (fun s => .rfl) s
  | fetch request => exact leads_withMock (fun s => .rfl) s
  | hold =>
    simp only [perform]
    split
    · exact leads_settle s
    · exact leads_settle s
  | remove path => exact leads_remove path s
  | replaceByDirectory path =>
    simp only [perform]
    split
    · exact (leads_remove path s).trans (.act _)
    · exact leads_remove path s
  | cancel => exact .act .fire
  | stop => exact leads_stop s

theorem leads_performAll (commands : List Command) (s : Session) :
    Leads setup s (s.performAll setup commands).1 := by
  induction commands generalizing s with
  | nil => exact .rfl
  | cons command commands ih => exact (leads_perform command s).trans (ih _)

-- A scripted life of a server is one of its runs.
theorem exists_run_performAll (setup : Setup) (files : Directory) (commands : List Command) :
    ∃ actions states, Run setup.config.server (.initial files) actions states
      ((Session.initial files).performAll setup commands).1.server :=
  Run.of_steps (leads_performAll commands (.initial files))

end Session

end RoutingProcessor.Server
