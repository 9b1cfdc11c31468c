import RoutingProcessor.Proofs.Backend.AcceptLoop
import RoutingProcessor.Proofs.Server.Tasks

namespace RoutingProcessor.Server

open Net Files Relation

variable {config : ServerSection} {s t u : State}

-- A step that publishes the end of the call.
structure Publication (config : ServerSection) (s t : State) : Prop where
  reach : Reachable config s
  before : s.status.phase ≠ .stopped
  own : Own config s t
  after : t.status.phase = .stopped

theorem Reachable.exists_publication (reach : Reachable config u)
    (stopped : u.status.phase = .stopped) :
    ∃ s t, Publication config s t ∧ ReflTransGen (Step config) t u := by
  induction reach with
  | initial => cases stopped
  | @step s t reach step ih =>
    by_cases before : s.status.phase = .stopped
    · obtain ⟨first, published, publication, later⟩ := ih before
      exact ⟨first, published, publication, later.tail step⟩
    · cases step with
      | own h => exact ⟨s, t, ⟨reach, before, h, stopped⟩, .refl⟩
      | act action => exact absurd (State.act_status action ▸ stopped) before

-- The end is published by a set-up that failed, or when the waiting is over.
theorem Publication.tasks (p : Publication config s t) :
    s.stage = .bindingMock ∧ t.tasks = s.tasks ∨
      s.stage = .bindingGrpc ∧ t.tasks = { s.tasks with isMockTold := true } ∨
      s.stage = .waiting ∧ t.tasks = s.tasks := by
  obtain ⟨_, before, own, after⟩ := p
  cases own with
  | mockFailed _ hs => exact .inl ⟨hs, rfl⟩
  | grpcFailed _ hs _ => exact .inr (.inl ⟨hs, rfl⟩)
  | finish hs => exact .inr (.inr ⟨hs, rfl⟩)
  | grpcBound | leave => cases after
  | grpcDrained | grpcAborted =>
    obtain ⟨_, _, frame⟩ := s.settleGrpc_frame ‹_›
    rw [frame] at after
    exact absurd after before
  | leaveMock =>
    obtain ⟨_, _, _, _, frame, _⟩ := s.leaveMock_frame config
    rw [frame] at after
    exact absurd after before
  | mockDrained =>
    obtain ⟨_, _, frame⟩ := s.settleMock_frame config ‹_›
    rw [frame] at after
    exact absurd after before
  | mockBound | drainElapsed | graceElapsed | mockElapsed | grpcEnds | mockEnds =>
    exact absurd after before

theorem Publication.isDown (p : Publication config s t) :
    t.grpcTask.isDown ∧
      (t.mockTask.isDown ↔ ¬(s.stage = .bindingGrpc ∧ config.mockBackend.isSome)) := by
  have inv := p.reach.attended
  show t.tasks.grpc.isDown ∧ (t.tasks.mock.isDown ↔ _)
  rcases p.tasks with ⟨hs, tasks⟩ | ⟨hs, tasks⟩ | ⟨hs, tasks⟩
  · rw [hs] at inv
    have bare : s.tasks = .none := inv
    simp [tasks, bare, hs, Tasks.none, Task.isDown]
  · rw [hs] at inv
    have up : s.tasks = .mockUp config := inv
    cases configured : config.mockBackend.isSome <;>
      simp [tasks, up, hs, configured, Tasks.mockUp, Tasks.none, Task.isDown]
  · rw [hs] at inv
    have down : s.tasks.Down config := inv
    simp [tasks, hs, down.grpc.isDown, down.mock_isDown]

-- All that can still become of a task is that it ends by itself.
def Task.EndsAlone (before after : Task) : Prop :=
  after = before ∨ before = .running ∧ ∃ result, after = .ended result

theorem Task.EndsAlone.trans {first second third : Task} (h : first.EndsAlone second)
    (h' : second.EndsAlone third) : first.EndsAlone third := by
  rcases h with rfl | ⟨running, result, rfl⟩
  · exact h'
  · rcases h' with rfl | ⟨running', _⟩
    · exact .inr ⟨running, result, rfl⟩
    · cases running'

-- What the call has left behind when it returned is left to itself.
theorem own_of_stopped (reach : Reachable config s) (stopped : s.status.phase = .stopped)
    (h : Own config s t) :
    t.status = s.status ∧ t.grpcTask = s.grpcTask ∧ s.mockTask.EndsAlone t.mockTask := by
  have phase : s.stage.phase = .stopped := reach.published.phase_eq.symm.trans stopped
  cases h with
  | mockEnds result running told => exact ⟨rfl, rfl, .inr ⟨running, result, rfl⟩⟩
  | grpcEnds result running told =>
    rcases reach.attended.grpc_leaving running told with ⟨hs, _⟩ | ⟨hs, _⟩
    all_goals
      rw [hs] at phase
      cases phase
  | mockBound _ hs | mockFailed _ hs | grpcBound hs | grpcFailed _ hs | leave hs | grpcDrained hs
  | drainElapsed hs | grpcAborted hs | graceElapsed hs | leaveMock hs | mockDrained hs
  | mockElapsed hs | finish hs =>
    rw [hs] at phase
    cases phase

-- What stays so after the end of a call.
structure After (config : ServerSection) (t u : State) : Prop where
  reach : Reachable config u
  stopped : u.status.phase = .stopped
  grpc : u.grpcTask = t.grpcTask
  mock : t.mockTask.EndsAlone u.mockTask

theorem After.step {v : State} (a : After config t u) (step : Step config u v) :
    After config t v := by
  have reach := a.reach.step step
  cases step with
  | own h =>
    obtain ⟨status, grpc, mock⟩ := own_of_stopped a.reach a.stopped h
    exact ⟨reach, status ▸ a.stopped, grpc.trans a.grpc, a.mock.trans mock⟩
  | act action =>
    have grpc : (u.act config action).grpcTask = u.grpcTask :=
      congrArg Tasks.grpc (State.act_tasks action)
    have mock : (u.act config action).mockTask = u.mockTask :=
      congrArg Tasks.mock (State.act_tasks action)
    have stopped : (u.act config action).status.phase = .stopped := by
      rw [State.act_status, a.stopped]
    exact ⟨reach, stopped, grpc.trans a.grpc, mock ▸ a.mock⟩

theorem Publication.later (p : Publication config s t) (later : ReflTransGen (Step config) t u) :
    After config t u :=
  kept_later (P := After config t) After.step
    ⟨p.reach.step (.own p.own), p.after, rfl, .inl rfl⟩ later

-- A mock backend that was up when the gRPC server could not be set up.
theorem Publication.mock_running (p : Publication config s t) (binding : s.stage = .bindingGrpc)
    (configured : config.mockBackend.isSome) :
    t.mockTask = .running ∧ t.isMockCancelled = true := by
  have inv := p.reach.attended
  rw [binding] at inv
  have up : s.tasks = .mockUp config := inv
  show t.tasks.mock = .running ∧ t.tasks.isMockTold = true
  rcases p.tasks with ⟨hs, _⟩ | ⟨_, tasks⟩ | ⟨hs, _⟩
  · cases hs.symm.trans binding
  · simp [tasks, up, Tasks.mockUp, configured]
  · cases hs.symm.trans binding

-- Once the end of the call is published the gRPC server is down, and so is the mock
-- backend, with one exception: if the gRPC server could not be set up beside it, the backend
-- was told to end and nothing more. Nobody waits for it or gives it up, then or later.
theorem stopped_listeners_down_unless_set_up_failed (reach : Reachable config u)
    (stopped : u.status.phase = .stopped) :
    ∃ s t, Publication config s t ∧ ReflTransGen (Step config) t u ∧ u.grpcTask.isDown ∧
      (¬(s.stage = .bindingGrpc ∧ config.mockBackend.isSome) → u.mockTask.isDown) ∧
      (s.stage = .bindingGrpc → config.mockBackend.isSome →
        t.mockTask = .running ∧ t.isMockCancelled = true ∧
          (u.mockTask = .running ∨ ∃ result, u.mockTask = .ended result)) := by
  obtain ⟨s, t, publication, later⟩ := reach.exists_publication stopped
  obtain ⟨grpc, mock⟩ := publication.isDown
  have after := publication.later later
  refine ⟨s, t, publication, later, by rw [after.grpc]; exact grpc, fun apart => ?_,
    fun binding configured => ?_⟩
  · have down := mock.2 apart
    rcases after.mock with same | ⟨running, _⟩
    · rw [same]
      exact down
    · rw [running] at down
      cases down
  · obtain ⟨running, told⟩ := publication.mock_running binding configured
    refine ⟨running, told, ?_⟩
    rcases after.mock with same | ⟨_, ended⟩
    · exact .inl (same.trans running)
    · exact .inr ended

-- Streams outlive the drain, and the mock backend its timeout. Both listeners are down.
theorem listeners_down_after_timeouts : ∃ s, Reachable backed s ∧ s.status.phase = .stopped ∧
    s.areStreamsAborted = true ∧ s.mockTask = .abandoned ∧ s.grpcTask.isDown := by
  have called : Run backed (.initial ⟨[]⟩) [.call] _ _ :=
    (Run.start.act .call).own (.mockBound (.everywhere 8080) rfl)
  have serving := called.own (.grpcBound rfl (backed_binds _ (.everywhere 8081)))
  have stopping := (serving.act .fire).own (.leave rfl rfl)
  have aborted := (stopping.act (.pass backed.grpcDrainTimeout)).own
    (.drainElapsed rfl rfl (Nat.le_refl _))
  have drained := (aborted.own (.grpcEnds (.ok ()) rfl rfl)).own (.grpcAborted rfl rfl)
  have left := (drained.own (.leaveMock rfl)).act (.pass backed.httpShutdownTimeout)
  have waited := (left.own (.mockElapsed rfl rfl (Nat.le_refl _))).act (.pass backed.shutdownWait)
  have run := waited.own (.finish rfl (Nat.le_refl _))
  obtain ⟨_, _, _, _, down, _, _⟩ := stopped_listeners_down_unless_set_up_failed run.reachable rfl
  exact ⟨_, run.reachable, rfl, rfl, rfl, down⟩

-- The gRPC address is in use once the mock backend is up. The backend still runs when the end
-- of the call is published, and nobody ever gives it up. As long as a client holds on to
-- its connection, a backend that was told to end goes on, and so does its listener.
theorem mock_backend_outlives_failed_set_up :
    ¬(∀ config s, Reachable config s → s.status.phase = .stopped →
        s.grpcTask.isDown ∧ s.mockTask.isDown) ∧
      (∃ s, Reachable backed s ∧ s.status.phase = .stopped ∧ s.mockTask = .running ∧
        ∀ t, ReflTransGen (Step backed) s t → t.mockTask ≠ .abandoned) ∧
      ∃ b, Backend.Reachable b ∧ b.shutdown = true ∧ b.accepts = true ∧
        ∀ c, ReflTransGen Backend.HoldingStep b c → c.isReturned = false := by
  have called : Run backed (.initial ⟨[]⟩) [.call] _ _ :=
    (Run.start.act .call).own (.mockBound (.everywhere 8080) rfl)
  let inUse := (systemFailure addressInUse).context "cannot listen on tcp 0.0.0.0:8081"
  have failed := called.own (.grpcFailed inUse rfl fun _ => rfl)
  have publication : Publication backed _ _ :=
    ⟨called.reachable, nofun, .grpcFailed inUse rfl fun _ => rfl, rfl⟩
  refine ⟨fun down => ?_, ⟨_, failed.reachable, rfl, rfl, fun t later => ?_⟩, ?_⟩
  · have mock := (down _ _ failed.reachable rfl).2
    cases mock
  · intro abandoned
    rcases (publication.later later).mock with same | ⟨_, result, ended⟩
    · cases abandoned.symm.trans same
    · cases abandoned.symm.trans ended
  · let held : Backend.Visit := ⟨[], true, false⟩
    have taken := (Backend.Run.start.act (.arrive (.visit held))).own (.take rfl rfl)
    have told := taken.act .shutdown
    refine ⟨_, told.reachable, rfl, rfl, fun c later => ?_⟩
    refine (kept_later (P := Backend.Holding) Backend.Holding.step ?_ later).unreturned
    exact ⟨rfl, held, .head _, rfl⟩

end RoutingProcessor.Server
