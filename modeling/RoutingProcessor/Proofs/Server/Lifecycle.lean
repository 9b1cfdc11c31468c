import RoutingProcessor.Proofs.Server.Runs

namespace RoutingProcessor.Server

open Net Files

-- The ways on from one published phase to another.
inductive Phase.Follows : Phase → Phase → Prop where
  | serves : Follows .created .serving
  | leaves : Follows .serving .stopping
  | stops : Follows .stopping .stopped
  | fails : Follows .created .stopped

-- The phase that is to be published while the call that serves is at a stage.
def Stage.phase : Stage → Phase
  | .created | .bindingMock | .bindingGrpc => .created
  | .serving => .serving
  | .drainingGrpc | .abortingStreams | .removingSocket | .drainingMock | .waiting => .stopping
  | .returned _ => .stopped

-- Addresses that are known stay known, and stay what they are.
structure Status.Keeps (before after : Status) : Prop where
  grpc : ∀ address, before.grpc = some address → after.grpc = some address
  mockBackend : ∀ address, before.mockBackend = some address → after.mockBackend = some address

theorem Status.Keeps.refl (status : Status) : status.Keeps status :=
  ⟨fun _ => id, fun _ => id⟩

theorem Status.Keeps.publish (status : Status) (phase : Phase) :
    status.Keeps { status with phase } :=
  ⟨fun _ => id, fun _ => id⟩

theorem Status.Keeps.trans {first second third : Status} (h : first.Keeps second)
    (h' : second.Keeps third) : first.Keeps third :=
  ⟨fun address known => h'.grpc address (h.grpc address known),
    fun address known => h'.mockBackend address (h.mockBackend address known)⟩

-- What a state has settled for good: the addresses that are known, and how the call ended.
def State.Settles (s t : State) : Prop :=
  s.status.Keeps t.status ∧ ∀ result, s.stage = .returned result → t.stage = .returned result

instance : Trans State.Settles State.Settles State.Settles where
  trans h h' := ⟨h.1.trans h'.1, fun result returned => h'.2 result (h.2 result returned)⟩

-- The listener whose turn it is comes up, or the call that serves gives up for it.
inductive SetUp (config : ServerSection) (s : State) : Except Failure Unit → State → Prop where
  | mockBound (address : SocketAddress) :
    s.stage = .bindingMock → SetUp config s (.ok ()) (s.mockBound address)
  | mockFailed (failure : Failure) :
    s.stage = .bindingMock → SetUp config s (.error failure) (s.fail failure)
  | grpcBound {address : ListenAddress} {files : Directory} :
    s.stage = .bindingGrpc → GrpcBinding config s address files →
    SetUp config s (.ok ()) (s.grpcBound address files)
  | grpcFailed (failure : Failure) {files : Directory} :
    s.stage = .bindingGrpc → (config.grpc.network = .tcp → files = s.files) →
    SetUp config s (.error failure) (s.grpcFailed failure files)

-- What a step of the server itself does to the stage and to the status.
inductive Effect (config : ServerSection) (s t : State) : Prop where
  | rests : t.stage = s.stage → t.status = s.status → Effect config s t
  | mockBound (address : SocketAddress) :
    s.stage = .bindingMock → t.stage = .bindingGrpc →
    t.status = { s.status with mockBackend := some address } → Effect config s t
  | failed (failure : Failure) : SetUp config s (.error failure) t → Effect config s t
  | grpcBound (address : ListenAddress) :
    s.stage = .bindingGrpc → t.stage = .serving →
    t.status = { s.status with phase := .serving, grpc := some address } → Effect config s t
  | leaves :
    s.stage = .serving → t.stage = .drainingGrpc →
    t.status = { s.status with phase := .stopping } → Effect config s t
  | stopsOn :
    s.stage.phase = .stopping → t.stage.phase = .stopping → t.status = s.status →
    Effect config s t
  | finishes (result : Except Failure Unit) :
    s.stage = .waiting → t.stage = .returned result →
    t.status = { s.status with phase := .stopped } → Effect config s t

variable {config : ServerSection} {s t : State} {failure : Failure}

namespace SetUp

theorem stage_eq (h : SetUp config s (.error failure) t) :
    t.stage = .returned (.error failure) := by
  cases h <;> rfl

theorem status_eq (h : SetUp config s (.error failure) t) :
    t.status = { s.status with phase := .stopped } := by
  cases h <;> rfl

theorem binding {result : Except Failure Unit} (h : SetUp config s result t) :
    s.stage = .bindingMock ∨ s.stage = .bindingGrpc := by
  cases h with
  | mockBound _ hs | mockFailed _ hs => exact .inl hs
  | grpcBound hs _ | grpcFailed _ hs _ => exact .inr hs

theorem stage_phase {result : Except Failure Unit} (h : SetUp config s result t) :
    s.stage.phase = .created := by
  rcases h.binding with hs | hs <;> rw [hs] <;> rfl

end SetUp

-- On a host either comes about, and nothing else.
theorem setUp_bindMock (host : Host) (address : SocketAddress) (hs : s.stage = .bindingMock) :
    ∃ result, SetUp config s result (s.bindMock host address) := by
  unfold State.bindMock
  split
  · exact ⟨_, .mockBound _ hs⟩
  · exact ⟨_, .mockFailed _ hs⟩

theorem setUp_bindGrpc (host : Host) (hs : s.stage = .bindingGrpc) :
    ∃ result, SetUp config s result (s.bindGrpc host config.grpc) := by
  unfold State.bindGrpc
  split
  · next tcp =>
    unfold State.bindTcp
    split
    · exact ⟨_, .grpcBound hs (by simp [GrpcBinding, tcp])⟩
    · exact ⟨_, .grpcFailed _ hs fun _ => rfl⟩
  · next unix =>
    have free (files : Directory) : config.grpc.network = .tcp → files = s.files := by simp [unix]
    unfold State.bindUnix
    split
    · exact ⟨_, .grpcFailed _ hs (free _)⟩
    · split
      · exact ⟨_, .grpcFailed _ hs (free _)⟩
      · exact ⟨_, .grpcBound hs (by simp [GrpcBinding, unix])⟩

theorem effect_of_own (h : Own config s t) : Effect config s t := by
  cases h with
  | mockBound address hs => exact .mockBound address hs rfl rfl
  | mockFailed failure hs => exact .failed failure (.mockFailed failure hs)
  | grpcBound hs _ => exact .grpcBound _ hs rfl rfl
  | grpcFailed failure hs hf => exact .failed failure (.grpcFailed failure hs hf)
  | leave hs _ => exact .leaves hs rfl rfl
  | grpcDrained hs _ | grpcAborted hs _ =>
    obtain ⟨_, _, ht⟩ := State.settleGrpc_frame s ‹_›
    exact .stopsOn (by rw [hs]; rfl) (by rw [ht]; rfl) (by rw [ht])
  | drainElapsed hs _ => exact .stopsOn (by rw [hs]; rfl) rfl rfl
  | graceElapsed hs _ => exact .stopsOn (by rw [hs]; rfl) rfl rfl
  | leaveMock hs =>
    obtain ⟨stage, _, _, _, ht, stages⟩ := State.leaveMock_frame config s
    refine .stopsOn (by rw [hs]; rfl) ?_ (by rw [ht])
    rw [ht]
    rcases stages with rfl | rfl <;> rfl
  | mockDrained hs _ =>
    obtain ⟨_, _, ht⟩ := State.settleMock_frame config s ‹_›
    exact .stopsOn (by rw [hs]; rfl) (by rw [ht]; rfl) (by rw [ht])
  | mockElapsed hs _ => exact .stopsOn (by rw [hs]; rfl) rfl rfl
  | finish hs => exact .finishes _ hs rfl rfl
  | grpcEnds | mockEnds => exact .rests rfl rfl

theorem refused_of_own (h : Own config s t) : t.refused = s.refused := by
  cases h with
  | grpcDrained | grpcAborted =>
    obtain ⟨_, _, ht⟩ := State.settleGrpc_frame s ‹_›
    rw [ht]
  | leaveMock =>
    obtain ⟨_, _, _, _, ht, _⟩ := State.leaveMock_frame config s
    rw [ht]
  | mockDrained =>
    obtain ⟨_, _, ht⟩ := State.settleMock_frame config s ‹_›
    rw [ht]
  | _ => rfl

-- Only a call starts the server, and nothing makes it new again.
theorem created_iff_of_own (h : Own config s t) : t.stage = .created ↔ s.stage = .created := by
  cases effect_of_own h with
  | rests hstage _ => rw [hstage]
  | mockBound _ hs ht _ | grpcBound _ hs ht _ | leaves hs ht _ | finishes _ hs ht _ =>
    simp [hs, ht]
  | failed failure hf => rcases hf.binding with hs | hs <;> simp [hf.stage_eq, hs]
  | stopsOn hs ht _ =>
    have apart : ∀ stage : Stage, stage.phase = .stopping → stage ≠ .created := by
      rintro _ h rfl
      cases h
    simp [apart _ hs, apart _ ht]

-- What is published at every stage. A new server has published nothing, and the addresses
-- are those of the listeners set up so far.
inductive Published (config : ServerSection) : Stage → Status → Prop where
  | created : Published config .created .created
  | bindingMock : config.mockBackend.isSome → Published config .bindingMock .created
  | bindingGrpc {mock : Option SocketAddress} :
    mock.isSome = config.mockBackend.isSome →
    Published config .bindingGrpc ⟨.created, none, mock⟩
  | up {stage : Stage} (grpc : ListenAddress) {mock : Option SocketAddress} :
    stage.phase = .serving ∨ stage.phase = .stopping →
    mock.isSome = config.mockBackend.isSome → Published config stage ⟨stage.phase, grpc, mock⟩
  | returned (result : Except Failure Unit) (grpc : Option ListenAddress)
    (mock : Option SocketAddress) : Published config (.returned result) ⟨.stopped, grpc, mock⟩

namespace Published

variable {stage : Stage} {status : Status}

theorem phase_eq (h : Published config stage status) : status.phase = stage.phase := by
  cases h <;> rfl

theorem listening (h : Published config stage status)
    (up : status.phase = .serving ∨ status.phase = .stopping) :
    status.grpc.isSome ∧ status.mockBackend.isSome = config.mockBackend.isSome := by
  cases h with
  | created | bindingMock | bindingGrpc | returned => simp [Status.created] at up
  | up _ _ hm => exact ⟨rfl, hm⟩

theorem eq_of_created (h : Published config .created status) : status = .created := by
  cases h with
  | created => rfl
  | up _ up _ => simp [Stage.phase] at up

theorem eq_of_bindingMock (h : Published config .bindingMock status) :
    config.mockBackend.isSome ∧ status = .created := by
  cases h with
  | bindingMock hm => exact ⟨hm, rfl⟩
  | up _ up _ => simp [Stage.phase] at up

theorem eq_of_bindingGrpc (h : Published config .bindingGrpc status) :
    ∃ mock, mock.isSome = config.mockBackend.isSome ∧ status = ⟨.created, none, mock⟩ := by
  cases h with
  | bindingGrpc hm => exact ⟨_, hm, rfl⟩
  | up _ up _ => simp [Stage.phase] at up

theorem eq_of_up (h : Published config stage status)
    (up : stage.phase = .serving ∨ stage.phase = .stopping) :
    ∃ grpc mock, mock.isSome = config.mockBackend.isSome ∧
      status = ⟨stage.phase, some grpc, mock⟩ := by
  cases h with
  | created | bindingMock | bindingGrpc | returned => simp [Stage.phase] at up
  | up grpc _ hm => exact ⟨grpc, _, hm, rfl⟩

end Published

theorem published_of_own (h : Own config s t) (inv : Published config s.stage s.status) :
    Published config t.stage t.status := by
  cases effect_of_own h with
  | rests hstage hstatus =>
    rw [hstage, hstatus]
    exact inv
  | mockBound address hs ht hstatus =>
    rw [hs] at inv
    obtain ⟨configured, created⟩ := inv.eq_of_bindingMock
    rw [ht, hstatus, created]
    exact .bindingGrpc configured.symm
  | failed failure hf =>
    rw [hf.stage_eq, hf.status_eq]
    exact .returned _ _ _
  | grpcBound address hs ht hstatus =>
    rw [hs] at inv
    obtain ⟨mock, hm, created⟩ := inv.eq_of_bindingGrpc
    rw [ht, hstatus, created]
    exact .up address (.inl rfl) hm
  | leaves hs ht hstatus =>
    rw [hs] at inv
    obtain ⟨grpc, mock, hm, up⟩ := inv.eq_of_up (.inl rfl)
    rw [ht, hstatus, up]
    exact .up grpc (.inr rfl) hm
  | stopsOn hs ht hstatus =>
    obtain ⟨grpc, mock, hm, up⟩ := inv.eq_of_up (.inr hs)
    rw [hstatus, up, hs, ← ht]
    exact .up grpc (.inr ht) hm
  | finishes result _ ht hstatus =>
    rw [ht, hstatus]
    exact .returned _ _ _

theorem published_of_act (action : Action) (inv : Published config s.stage s.status) :
    Published config (s.act config action).stage (s.act config action).status := by
  rw [State.act_status]
  rcases s.act_stage action with ht | ⟨hs, ht⟩
  · rw [ht]
    exact inv
  · rw [hs] at inv
    rw [ht, inv.eq_of_created]
    split
    case isTrue configured => exact .bindingMock configured
    case isFalse unconfigured => exact .bindingGrpc (by simpa using unconfigured)

theorem Reachable.published (h : Reachable config s) : Published config s.stage s.status := by
  induction h with
  | initial => exact .created
  | step _ h ih =>
    cases h with
    | own h => exact published_of_own h ih
    | act action => exact published_of_act action ih

-- The call that sets up a listener goes on, whatever it finds on the host.
theorem Published.exists_setUp (inv : Published config s.stage s.status) (host : Host)
    (load : Load) (binding : s.stage = .bindingMock ∨ s.stage = .bindingGrpc) :
    ∃ result u, s.own? config host load = some u ∧ SetUp config s result u := by
  rcases binding with hs | hs
  · rw [hs] at inv
    obtain ⟨mock, configured⟩ := Option.isSome_iff_exists.1 inv.eq_of_bindingMock.1
    obtain ⟨result, setUp⟩ := @setUp_bindMock config s host mock.address hs
    exact ⟨result, _, by simp [State.own?, State.callStep?, hs, configured], setUp⟩
  · obtain ⟨result, setUp⟩ := setUp_bindGrpc host hs
    exact ⟨result, _, by simp [State.own?, State.callStep?, hs], setUp⟩

section Step

variable (inv : Published config s.stage s.status) (h : Step config s t)

include inv h

theorem phase_of_step :
    t.status.phase = s.status.phase ∨ s.status.phase.Follows t.status.phase := by
  have phase := inv.phase_eq
  cases h with
  | act action => exact .inl (by rw [State.act_status])
  | own h =>
    cases effect_of_own h with
    | rests _ hstatus | stopsOn _ _ hstatus => exact .inl (by rw [hstatus])
    | mockBound _ _ _ hstatus => exact .inl (by rw [hstatus])
    | failed _ hf =>
      rw [phase, hf.stage_phase, hf.status_eq]
      exact .inr .fails
    | grpcBound _ hs _ hstatus =>
      rw [phase, hs, hstatus]
      exact .inr .serves
    | leaves hs _ hstatus =>
      rw [phase, hs, hstatus]
      exact .inr .leaves
    | finishes _ hs _ hstatus =>
      rw [phase, hs, hstatus]
      exact .inr .stops

-- A server that has never served is stopped by a failed set-up, and by nothing else.
theorem stopped_unserved_iff :
    s.status.phase = .created ∧ t.status.phase = .stopped ↔
      ∃ failure, SetUp config s (.error failure) t := by
  have phase := inv.phase_eq
  constructor
  · rintro ⟨created, stopped⟩
    cases h with
    | act action =>
      rw [State.act_status, created] at stopped
      cases stopped
    | own h =>
      rw [phase] at created
      cases effect_of_own h with
      | failed failure hf => exact ⟨failure, hf⟩
      | rests _ hstatus => simp [hstatus, phase, created] at stopped
      | mockBound _ _ _ hstatus => simp [hstatus, phase, created] at stopped
      | grpcBound _ _ _ hstatus => simp [hstatus] at stopped
      | leaves hs | finishes _ hs => simp [hs, Stage.phase] at created
      | stopsOn hs => cases hs.symm.trans created
  · rintro ⟨failure, hf⟩
    rw [phase, hf.stage_phase, hf.status_eq]
    exact ⟨rfl, rfl⟩

theorem keeps_of_step : s.status.Keeps t.status := by
  cases h with
  | act action =>
    rw [State.act_status]
    exact .refl _
  | own h =>
    cases effect_of_own h with
    | rests _ hstatus | stopsOn _ _ hstatus =>
      rw [hstatus]
      exact .refl _
    | failed _ hf =>
      rw [hf.status_eq]
      exact .publish _ _
    | leaves _ _ hstatus | finishes _ _ _ hstatus =>
      rw [hstatus]
      exact .publish _ _
    -- The address that a set-up publishes was not known before.
    | mockBound address hs _ hstatus =>
      rw [hs] at inv
      obtain ⟨_, created⟩ := inv.eq_of_bindingMock
      rw [hstatus, created]
      exact ⟨nofun, nofun⟩
    | grpcBound address hs _ hstatus =>
      rw [hs] at inv
      obtain ⟨mock, _, created⟩ := inv.eq_of_bindingGrpc
      rw [hstatus, created]
      exact ⟨nofun, fun _ => id⟩

end Step

theorem returned_of_step {result : Except Failure Unit} (h : Step config s t)
    (returned : s.stage = .returned result) : t.stage = .returned result := by
  cases h with
  | act action =>
    rcases s.act_stage action with ht | ⟨hs, _⟩
    · rw [ht, returned]
    · cases returned.symm.trans hs
  | own h =>
    cases effect_of_own h with
    | rests ht _ => rw [ht, returned]
    | failed _ hf =>
      have created := hf.stage_phase
      rw [returned] at created
      cases created
    | mockBound _ hs | grpcBound _ hs | leaves hs | finishes _ hs =>
      cases returned.symm.trans hs
    | stopsOn hs =>
      rw [returned] at hs
      cases hs

def Action.isCall : Action → Bool
  | .call => true
  | _ => false

-- What one call after another is told: the first is taken on, the others are turned away.
theorem Run.calls {files : Directory} {actions : List Action} {states : List State}
    (run : Run config (.initial files) actions states t) :
    (t.stage = .created ↔ actions.countP Action.isCall = 0) ∧
      t.refused = List.replicate (actions.countP Action.isCall - 1) alreadyStarted := by
  induction run with
  | start => exact ⟨by simp [State.initial], rfl⟩
  | own _ h ih => rwa [created_iff_of_own h, refused_of_own h]
  | @act actions states s action _ ih =>
    obtain ⟨created, refused⟩ := ih
    rw [List.countP_append, List.countP_singleton]
    cases action with
    | call =>
      by_cases first : s.stage = .created
      · have none : actions.countP Action.isCall = 0 := created.1 first
        rw [State.call_of_created first, none]
        constructor
        · dsimp only [Action.isCall]
          split <;> simp
        · simpa [none, Action.isCall] using refused
      · have some : actions.countP Action.isCall ≠ 0 := mt created.2 first
        rw [State.call_of_started first]
        constructor
        · simp [first, Action.isCall]
        · have once : actions.countP Action.isCall - 1 + 1 = actions.countP Action.isCall :=
            Nat.succ_pred some
          simp only [refused, Action.isCall, if_true, Nat.add_sub_cancel]
          rw [← List.replicate_succ', once]
    | fire | check | touch | pass => exact ⟨created, refused⟩

-- However calls, the token, clients and the host interleave with the call that serves, the
-- phases come in their order, and what a status says of the listeners is so.
theorem phases_in_order_once_started {files : Directory} {actions : List Action}
    {states : List State} (run : Run config (.initial files) actions states t) :
    states.IsChain (fun s u =>
      (u.status.phase = s.status.phase ∨ s.status.phase.Follows u.status.phase) ∧
      (s.status.phase = .created ∧ u.status.phase = .stopped ↔
        ∃ failure, SetUp config s (.error failure) u) ∧
      ∀ failure, SetUp config s (.error failure) u → u.stage = .returned (.error failure)) ∧
    states.Pairwise State.Settles ∧
    (∀ s ∈ states,
      (s.status.phase = .serving ∨ s.status.phase = .stopping →
        s.status.grpc.isSome ∧ s.status.mockBackend.isSome = config.mockBackend.isSome) ∧
      (∀ result, s.stage = .returned result → s.status.phase = .stopped) ∧
      (s.stage = .bindingMock ∨ s.stage = .bindingGrpc → ∀ host load, ∃ result u,
        s.own? config host load = some u ∧ SetUp config s result u) ∧
      (s.stage ≠ .created →
        s.act config .call = { s with refused := s.refused ++ [alreadyStarted] })) ∧
    (t.stage = .created ↔ actions.countP Action.isCall = 0) ∧
    t.refused = List.replicate (actions.countP Action.isCall - 1) alreadyStarted := by
  have published : ∀ s ∈ states, Published config s.stage s.status :=
    fun s mem => (run.reachable_of_mem s mem).published
  have settled : states.IsChain State.Settles :=
    run.isChain.imp_of_mem_imp fun s u mem _ step =>
      ⟨keeps_of_step (published s mem) step, fun _ => returned_of_step step⟩
  refine ⟨?_, settled.pairwise, ?_, run.calls⟩
  · refine run.isChain.imp_of_mem_imp fun s u mem _ step => ?_
    have inv := published s mem
    exact ⟨phase_of_step inv step, stopped_unserved_iff inv step, fun _ => SetUp.stage_eq⟩
  · intro s mem
    have inv := published s mem
    refine ⟨inv.listening, fun result returned => ?_,
      fun binding host load => inv.exists_setUp host load binding, State.call_of_started⟩
    rw [inv.phase_eq, returned]
    rfl

def backed : ServerSection := { ServerSection.default with mockBackend := some .default }

theorem backed_binds (s : State) (address : SocketAddress) :
    GrpcBinding backed s (.tcp address) s.files :=
  ⟨⟨address, rfl⟩, rfl⟩

theorem second_call_turned_away : ∃ states t,
    Run backed (.initial ⟨[]⟩) [.call, .call, .fire, .pass (.ofSecs 5)] states t ∧
      t.stage = .returned (.ok ()) ∧ t.refused = [alreadyStarted] ∧
      states.Pairwise State.Settles := by
  have called : Run backed (.initial ⟨[]⟩) [.call, .call] _ _ :=
    ((Run.start.act .call).own (.mockBound (.everywhere 8080) rfl)).act .call
  have serving := called.own (.grpcBound rfl (backed_binds _ (.everywhere 8081)))
  have stopping := (serving.act .fire).own (.leave rfl rfl)
  have drained := (stopping.own (.grpcEnds (.ok ()) rfl rfl)).own (.grpcDrained rfl rfl)
  have left := (drained.own (.leaveMock rfl)).own (.mockEnds (.ok ()) rfl rfl)
  have waited := (left.own (.mockDrained rfl rfl)).act (.pass (.ofSecs 5))
  have run := waited.own (.finish rfl (Nat.le_refl _))
  obtain ⟨_, settles, _, _, refused⟩ := phases_in_order_once_started run
  exact ⟨_, _, run, rfl, refused, settles⟩

end RoutingProcessor.Server
