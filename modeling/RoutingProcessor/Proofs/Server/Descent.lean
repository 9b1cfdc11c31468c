import RoutingProcessor.Proofs.Files.Directory
import RoutingProcessor.Proofs.Server.Tasks

namespace RoutingProcessor.Server

open Net Files

-- One stage of a stop and the next, and whether streams are aborted in either.
inductive Turn (config : ServerSection) : Stage → Bool → Stage → Bool → Prop where
  | leave : Turn config .serving false .drainingGrpc false
  | drained : Turn config .drainingGrpc false .removingSocket false
  | elapsed : Turn config .drainingGrpc false .abortingStreams true
  | aborted : Turn config .abortingStreams true .removingSocket true
  | mock (aborted : Bool) :
    config.mockBackend.isSome → Turn config .removingSocket aborted .drainingMock aborted
  | noMock (aborted : Bool) :
    config.mockBackend.isSome = false → Turn config .removingSocket aborted .waiting aborted
  | mockDown (aborted : Bool) :
    config.mockBackend.isSome → Turn config .drainingMock aborted .waiting aborted
  | finish (aborted : Bool) (result : Except Failure Unit) :
    Turn config .waiting aborted (.returned result) aborted

variable {config : ServerSection} {s t : State}

theorem Turn.ne {before after : Stage} {was is : Bool} (turn : Turn config before was after is) :
    before ≠ after := by
  cases turn <;> nofun

-- The socket is removed at one turn only.
theorem Turn.removing {before after : Stage} {was is : Bool}
    (turn : Turn config before was after is) (elsewhere : before ≠ .removingSocket) :
    Stage.removingSocket.distance ≤ before.distance ↔
      Stage.removingSocket.distance ≤ after.distance := by
  cases turn with
  | mock | noMock => exact absurd rfl elsewhere
  | _ => simp [Stage.distance]

-- A server that has served: its gRPC address is known.
structure Served (config : ServerSection) (s : State) : Prop where
  reach : Reachable config s
  known : s.status.grpc.isSome

namespace Served

theorem of_serving (reach : Reachable config s) (serving : s.stage = .serving) :
    Served config s := by
  have published := reach.published
  rw [serving] at published
  obtain ⟨grpc, mock, _, status⟩ := published.eq_of_up (.inl rfl)
  exact ⟨reach, by rw [status]; rfl⟩

theorem step (served : Served config s) (step : Step config s t) : Served config t := by
  refine ⟨served.reach.step step, ?_⟩
  obtain ⟨address, known⟩ := Option.isSome_iff_exists.1 served.known
  rw [(keeps_of_step served.reach.published step).grpc address known]
  rfl

theorem distance_le (served : Served config s) : s.stage.distance ≤ Stage.serving.distance := by
  have published := served.reach.published
  have known := served.known
  cases hs : s.stage with
  | created =>
    rw [hs] at published
    rw [published.eq_of_created] at known
    cases known
  | bindingMock =>
    rw [hs] at published
    rw [published.eq_of_bindingMock.2] at known
    cases known
  | bindingGrpc =>
    rw [hs] at published
    obtain ⟨_, _, status⟩ := published.eq_of_bindingGrpc
    rw [status] at known
    cases known
  | _ => simp [Stage.distance]

-- Nothing is set up any more.
theorem apart (served : Served config s) {stage : Stage}
    (early : Stage.serving.distance < stage.distance) : s.stage ≠ stage := by
  rintro rfl
  exact absurd served.distance_le (Nat.not_le.2 early)

theorem act_stage (served : Served config s) (action : Action) :
    (s.act config action).stage = s.stage := by
  rcases s.act_stage action with same | ⟨created, _⟩
  · exact same
  · exact absurd created (served.apart (by decide))

end Served

-- A step of the server itself stays at its stage or takes the next turn.
theorem turn_of_own (served : Served config s) (h : Own config s t) :
    t.stage = s.stage ∧ t.areStreamsAborted = s.areStreamsAborted ∨
      Turn config s.stage s.areStreamsAborted t.stage t.areStreamsAborted := by
  have inv := served.reach.attended
  cases h with
  | mockBound _ hs | mockFailed _ hs | grpcBound hs | grpcFailed _ hs =>
    exact absurd hs (served.apart (by decide))
  | leave hs _ =>
    rw [hs] at inv
    have unaborted : s.areStreamsAborted = false := congrArg Tasks.areStreamsAborted inv
    have same : s.leave.areStreamsAborted = s.areStreamsAborted := rfl
    rw [same, unaborted, hs]
    exact .inr .leave
  | grpcDrained hs _ =>
    rw [hs] at inv
    have unaborted : s.areStreamsAborted = false := inv.aborted
    obtain ⟨_, _, frame⟩ := s.settleGrpc_frame ‹_›
    rw [frame, hs, unaborted]
    exact .inr .drained
  | drainElapsed hs _ =>
    rw [hs] at inv
    have unaborted : s.areStreamsAborted = false := inv.aborted
    rw [hs, unaborted]
    exact .inr .elapsed
  | grpcAborted hs _ =>
    rw [hs] at inv
    have aborted : s.areStreamsAborted = true := inv.aborted
    obtain ⟨_, _, frame⟩ := s.settleGrpc_frame ‹_›
    rw [frame, hs, aborted]
    exact .inr .aborted
  | graceElapsed hs _ =>
    rw [hs] at inv
    have aborted : s.abandonGrpc.areStreamsAborted = true := inv.aborted
    have before : s.areStreamsAborted = true := inv.aborted
    rw [hs, aborted, before]
    exact .inr .aborted
  | leaveMock hs =>
    rw [hs] at inv
    obtain ⟨log, _, left⟩ := State.leaveMock_eq inv.2.1 inv.2.2.1
    rw [left, hs]
    right
    cases configured : config.mockBackend.isSome with
    | true => exact .mock _ configured
    | false => exact .noMock _ configured
  | mockDrained hs _ =>
    rw [hs] at inv
    obtain ⟨_, _, frame⟩ := s.settleMock_frame config ‹_›
    rw [frame, hs]
    exact .inr (.mockDown _ inv.2.1)
  | mockElapsed hs _ =>
    rw [hs] at inv
    have same : (s.abandonMock config).areStreamsAborted = s.areStreamsAborted := rfl
    rw [hs, same]
    exact .inr (.mockDown _ inv.2.1)
  | finish hs _ =>
    have same : s.finish.areStreamsAborted = s.areStreamsAborted := rfl
    rw [hs, same]
    exact .inr (.finish _ _)
  | grpcEnds | mockEnds => exact .inl ⟨rfl, rfl⟩

-- How a server stands on its way down, at whatever stage.
structure Descends (config : ServerSection) (s : State) : Prop where
  phase : s.status.phase = s.stage.phase
  grpcTold : s.isGrpcCancelled = decide (s.stage.distance < Stage.serving.distance)
  grpcDown : s.stage.distance ≤ Stage.removingSocket.distance → s.grpcTask.isSettled
  mockTold : s.isMockCancelled =
    (config.mockBackend.isSome && decide (s.stage.distance ≤ Stage.drainingMock.distance))
  mockDown : s.stage.distance ≤ Stage.waiting.distance → s.mockTask.isDown
  result : ∀ result, s.stage = .returned result → result = outcome config s.tasks

theorem Served.descends (served : Served config s) : Descends config s := by
  have inv := served.reach.attended
  have phase := served.reach.published.phase_eq
  cases hs : s.stage with
  | created | bindingMock | bindingGrpc => exact absurd hs (served.apart (by decide))
  | serving =>
    rw [hs] at inv
    have grpcTold : s.isGrpcCancelled = false := congrArg Tasks.isGrpcTold inv
    have mockTold : s.isMockCancelled = false := congrArg Tasks.isMockTold inv
    constructor <;> simp [hs, phase, grpcTold, mockTold, Stage.distance]
  | drainingGrpc | abortingStreams =>
    rw [hs] at inv
    have grpcTold : s.isGrpcCancelled = true := inv.told
    have mockTold : s.isMockCancelled = false := inv.untold
    constructor <;> simp [hs, phase, grpcTold, mockTold, Stage.distance]
  | removingSocket =>
    rw [hs] at inv
    obtain ⟨grpc, _, untold, _⟩ := inv
    have grpcDown : s.grpcTask.isSettled := grpc.settled
    have grpcTold : s.isGrpcCancelled = true := grpc.told
    have mockTold : s.isMockCancelled = false := untold
    constructor <;> simp [hs, phase, grpcDown, grpcTold, mockTold, Stage.distance]
  | drainingMock =>
    rw [hs] at inv
    obtain ⟨grpc, configured, _, told, _⟩ := inv
    have grpcDown : s.grpcTask.isSettled := grpc.settled
    have grpcTold : s.isGrpcCancelled = true := grpc.told
    have mockTold : s.isMockCancelled = true := told
    constructor <;> simp [hs, phase, grpcDown, grpcTold, mockTold, configured, Stage.distance]
  | waiting =>
    rw [hs] at inv
    have grpcDown : s.grpcTask.isSettled := inv.grpc.settled
    have grpcTold : s.isGrpcCancelled = true := inv.grpc.told
    have mockTold : s.isMockCancelled = config.mockBackend.isSome := inv.told
    have mockDown : s.mockTask.isDown := inv.mock_isDown
    constructor <;> simp [hs, phase, grpcDown, grpcTold, mockTold, mockDown, Stage.distance]
  | returned result =>
    rw [hs] at inv
    obtain ⟨down, concluded⟩ := inv.down served.known
    have grpcDown : s.grpcTask.isSettled := down.grpc.settled
    have grpcTold : s.isGrpcCancelled = true := down.grpc.told
    have mockTold : s.isMockCancelled = config.mockBackend.isSome := down.told
    have mockDown : s.mockTask.isDown := down.mock_isDown
    constructor <;>
      simp [hs, phase, grpcDown, grpcTold, mockTold, mockDown, concluded, Stage.distance]

-- The address of a server that is up is one that its configuration asks for.
theorem Reachable.exists_binding (reach : Reachable config s) {address : ListenAddress}
    (known : s.status.grpc = some address) :
    ∃ before files, GrpcBinding config before address files := by
  induction reach with
  | initial => cases known
  | @step s t reach step ih =>
    cases step with
    | act action => exact ih (by rwa [State.act_status] at known)
    | own h =>
      cases h with
      | @grpcBound bound files _ binding =>
        cases known
        exact ⟨s, files, binding⟩
      | grpcDrained | grpcAborted =>
        obtain ⟨_, _, frame⟩ := s.settleGrpc_frame ‹_›
        exact ih (by rwa [frame] at known)
      | leaveMock =>
        obtain ⟨_, _, _, _, frame, _⟩ := s.leaveMock_frame config
        exact ih (by rwa [frame] at known)
      | mockDrained =>
        obtain ⟨_, _, frame⟩ := s.settleMock_frame config ‹_›
        exact ih (by rwa [frame] at known)
      | _ => exact ih known

namespace Served

theorem grpc_of_unix (served : Served config s) (unix : config.grpc.network = .unix) :
    s.status.grpc = some (.unix config.grpc.address) := by
  obtain ⟨address, known⟩ := Option.isSome_iff_exists.1 served.known
  obtain ⟨before, files, binding⟩ := served.reach.exists_binding known
  have is_path : address = .unix config.grpc.address := by simpa [GrpcBinding, unix] using binding
  rw [known, is_path]

theorem grpc_of_tcp (served : Served config s) (tcp : config.grpc.network = .tcp) :
    ∃ socket, s.status.grpc = some (.tcp socket) := by
  obtain ⟨address, known⟩ := Option.isSome_iff_exists.1 served.known
  obtain ⟨before, files, binding⟩ := served.reach.exists_binding known
  have is_socket : (∃ socket, address = .tcp socket) ∧ files = before.files := by
    simpa [GrpcBinding, tcp] using binding
  obtain ⟨socket, rfl⟩ := is_socket.1
  exact ⟨socket, known⟩

end Served

-- What the log says of a socket that could not be removed.
def unremoved (path : String) (code : Int) : Log.Event :=
  .plain .warn "server"
    ("cannot remove socket " ++ path ++ ": " ++ (Failure.Cause.system code).message)

-- A socket is gone, or it could not be removed, which was logged.
inductive Unlinked (path : String) (before after : Directory) (log : List Log.Event) : Prop where
  | gone : after.find path = .error notFound → Unlinked path before after log
  | kept {code : Int} : code ≠ notFound → before.remove path = .error code → after = before →
    unremoved path code ∈ log → Unlinked path before after log

theorem State.removeSocket_of_tcp {socket : SocketAddress}
    (known : s.status.grpc = some (.tcp socket)) : s.removeSocket = s := by
  simp [State.removeSocket, known]

theorem State.removeSocket_of_unix {path : String} (known : s.status.grpc = some (.unix path)) :
    Unlinked path s.files s.removeSocket.files s.removeSocket.log := by
  simp only [State.removeSocket, known]
  split
  · next files removed => exact .gone (Directory.find_of_remove_ok removed)
  · next code refused =>
    split
    · next missing =>
      subst missing
      exact .gone (Directory.find_of_remove_notFound refused)
    · next other => exact .kept other refused rfl (by simp [State.logged, unremoved])

-- What the log says of a mock backend that was given up, and so does its failure.
def timedOut (config : ServerSection) : String :=
  "http server shutdown error: timed out after " ++ config.httpShutdownTimeout.compact

theorem message_context_ofText (context text : String) :
    ((Failure.ofText text).context context).message = context ++ ": " ++ text := rfl

theorem timedOut_message :
    ((Failure.ofText ("timed out after " ++ config.httpShutdownTimeout.compact)).context
      "http server shutdown error").message = timedOut config := by
  rw [message_context_ofText, ← String.append_assoc]
  rfl

-- When the call leaves a stage on the way down: once its task has ended or has had its time.
def Due (config : ServerSection) (s : State) : Prop :=
  match s.stage with
  | .serving => s.isFired
  | .drainingGrpc => s.grpcTask.isDown ∨ s.HasWaited config.grpcDrainTimeout
  | .abortingStreams => s.grpcTask.isDown ∨ s.HasWaited abortedGrace
  | .removingSocket => True
  | .drainingMock => s.mockTask.isDown ∨ s.HasWaited config.httpShutdownTimeout
  | .waiting => s.HasWaited config.shutdownWait
  | _ => False

-- Streams are aborted if the gRPC server still runs when its drain has taken too long, and
-- then only.
structure Aborts (config : ServerSection) (s t : State) : Prop where
  only : t.areStreamsAborted = s.areStreamsAborted ∨
    s.stage = .drainingGrpc ∧ t = s.abortStreams config
  iff : s.stage = .drainingGrpc → t.stage ≠ .drainingGrpc →
    (t.areStreamsAborted = true ↔ s.grpcTask = .running ∧ s.HasWaited config.grpcDrainTimeout)

-- The mock backend is given up if it still runs when it has had its time, and then only.
structure GivesUp (config : ServerSection) (s t : State) : Prop where
  only : t.mockTask = .abandoned → s.mockTask = .abandoned ∨
    s.stage = .drainingMock ∧ Log.Event.plain .error "server" (timedOut config) ∈ t.log
  iff : s.stage = .drainingMock → t.stage ≠ .drainingMock →
    (t.mockTask = .abandoned ↔ s.mockTask = .running ∧ s.HasWaited config.httpShutdownTimeout)

-- The socket is removed at its stage, and nothing else is. A removal that fails makes no
-- difference to anything but files and log.
structure Unlinks (config : ServerSection) (s t : State) : Prop where
  elsewhere : config.grpc.network = .tcp ∨ s.stage ≠ .removingSocket → t.files = s.files
  socket : s.stage = .removingSocket → ∃ files log,
    t = { s with
      stage := if config.mockBackend.isSome then .drainingMock else .waiting
      since := s.now
      isMockCancelled := config.mockBackend.isSome
      files, log } ∧
    (config.grpc.network = .unix → Unlinked config.grpc.address s.files files log)

-- What a step of the server itself does on the way down, beside taking a turn.
structure DescentStep (config : ServerSection) (s t : State) : Prop where
  streams : Aborts config s t
  mock : GivesUp config s t
  files : Unlinks config s t

theorem Unlinked.mono {path : String} {before after : Directory} {log more : List Log.Event}
    (unlinked : Unlinked path before after log) (grows : log <+: more) :
    Unlinked path before after more := by
  cases unlinked with
  | gone absent => exact .gone absent
  | kept other refused same logged => exact .kept other refused same (grows.subset logged)

-- Most steps leave streams, the mock backend and files alone.
theorem Aborts.of_eq (apart : s.stage = .drainingGrpc → t.stage = .drainingGrpc)
    (same : t.areStreamsAborted = s.areStreamsAborted) : Aborts config s t :=
  ⟨.inl same, fun draining moved => absurd (apart draining) moved⟩

theorem GivesUp.of_eq (apart : s.stage = .drainingMock → t.stage = .drainingMock)
    (same : t.mockTask = .abandoned → s.mockTask = .abandoned) : GivesUp config s t :=
  ⟨fun abandoned => .inl (same abandoned), fun draining moved => absurd (apart draining) moved⟩

theorem Unlinks.of_eq (apart : s.stage ≠ .removingSocket) (same : t.files = s.files) :
    Unlinks config s t :=
  ⟨fun _ => same, fun removing => absurd removing apart⟩

theorem Served.aborts (served : Served config s) (h : Own config s t) : Aborts config s t := by
  have inv := served.reach.attended
  cases h with
  | mockBound _ hs | mockFailed _ hs | grpcBound hs | grpcFailed _ hs =>
    exact absurd hs (served.apart (by decide))
  | leave hs | finish hs | graceElapsed hs | mockElapsed hs =>
    exact .of_eq (by rw [hs]; rintro ⟨⟩) rfl
  | grpcDrained hs ended =>
    rw [hs] at inv
    have unaborted : s.areStreamsAborted = false := inv.aborted
    obtain ⟨_, _, frame⟩ := s.settleGrpc_frame ‹_›
    rw [frame]
    exact ⟨.inl rfl, fun _ _ => by simp [unaborted, ended]⟩
  | grpcAborted hs =>
    obtain ⟨_, _, frame⟩ := s.settleGrpc_frame ‹_›
    rw [frame]
    exact .of_eq (by rw [hs]; rintro ⟨⟩) rfl
  | drainElapsed hs running waited =>
    exact ⟨.inr ⟨hs, rfl⟩, fun _ _ => by simp [running, waited, State.abortStreams]⟩
  | leaveMock hs =>
    obtain ⟨_, _, _, _, frame, _⟩ := s.leaveMock_frame config
    rw [frame]
    exact .of_eq (by rw [hs]; rintro ⟨⟩) rfl
  | mockDrained hs =>
    obtain ⟨_, _, frame⟩ := s.settleMock_frame config ‹_›
    rw [frame]
    exact .of_eq (by rw [hs]; rintro ⟨⟩) rfl
  | grpcEnds | mockEnds => exact .of_eq id rfl

theorem Served.givesUp (served : Served config s) (h : Own config s t) : GivesUp config s t := by
  cases h with
  | mockBound _ hs | mockFailed _ hs | grpcBound hs | grpcFailed _ hs =>
    exact absurd hs (served.apart (by decide))
  | leave hs | finish hs | drainElapsed hs | graceElapsed hs =>
    exact .of_eq (by rw [hs]; rintro ⟨⟩) id
  | grpcDrained hs | grpcAborted hs =>
    obtain ⟨_, _, frame⟩ := s.settleGrpc_frame ‹_›
    rw [frame]
    exact .of_eq (by rw [hs]; rintro ⟨⟩) id
  | leaveMock hs =>
    obtain ⟨_, _, _, _, frame, _⟩ := s.leaveMock_frame config
    rw [frame]
    exact .of_eq (by rw [hs]; rintro ⟨⟩) id
  | mockDrained hs ended =>
    obtain ⟨_, _, frame⟩ := s.settleMock_frame config ‹_›
    rw [frame]
    exact ⟨.inl, fun _ _ => by simp [ended]⟩
  | mockElapsed hs running waited =>
    refine ⟨fun _ => .inr ⟨hs, ?_⟩, fun _ _ => ?_⟩
    · rw [← timedOut_message]
      exact List.mem_append_left _ (List.mem_append_right _ (.head _))
    · simp [running, waited, State.abandonMock, State.startWaiting, State.enter, State.logged]
  | grpcEnds => exact .of_eq id id
  | mockEnds => exact .of_eq id (by rintro ⟨⟩)

theorem Served.unlinks (served : Served config s) (h : Own config s t) : Unlinks config s t := by
  have inv := served.reach.attended
  cases h with
  | mockBound _ hs | mockFailed _ hs | grpcBound hs | grpcFailed _ hs =>
    exact absurd hs (served.apart (by decide))
  | leave hs | finish hs | drainElapsed hs | graceElapsed hs | mockElapsed hs =>
    exact .of_eq (by rw [hs]; rintro ⟨⟩) rfl
  | grpcDrained hs | grpcAborted hs =>
    obtain ⟨_, _, frame⟩ := s.settleGrpc_frame ‹_›
    rw [frame]
    exact .of_eq (by rw [hs]; rintro ⟨⟩) rfl
  | mockDrained hs =>
    obtain ⟨_, _, frame⟩ := s.settleMock_frame config ‹_›
    rw [frame]
    exact .of_eq (by rw [hs]; rintro ⟨⟩) rfl
  | leaveMock hs =>
    rw [hs] at inv
    obtain ⟨log, grows, left⟩ := State.leaveMock_eq inv.2.1 inv.2.2.1
    rw [left]
    refine ⟨?_, fun _ => ⟨_, log, rfl, fun unix => ?_⟩⟩
    · rintro (tcp | elsewhere)
      · obtain ⟨socket, known⟩ := served.grpc_of_tcp tcp
        show s.removeSocket.files = s.files
        rw [State.removeSocket_of_tcp known]
      · exact absurd hs elsewhere
    · exact (State.removeSocket_of_unix (served.grpc_of_unix unix)).mono grows
  | grpcEnds result running told =>
    refine .of_eq ?_ rfl
    rcases inv.grpc_leaving running told with ⟨hs, _⟩ | ⟨hs, _⟩ <;> rw [hs] <;> rintro ⟨⟩
  | mockEnds result running told =>
    refine .of_eq ?_ rfl
    rcases inv.mock_leaving running told with ⟨hs, _⟩ | ⟨_, _, _, hs⟩ <;> rw [hs] <;> rintro ⟨⟩

theorem Served.descentStep (served : Served config s) (h : Own config s t) :
    DescentStep config s t :=
  ⟨served.aborts h, served.givesUp h, served.unlinks h⟩

-- The call leaves its stage when that is due, and not before.
theorem Served.exists_leaves_iff (served : Served config s) :
    (∃ t, Own config s t ∧ t.stage ≠ s.stage) ↔ Due config s := by
  have inv := served.reach.attended
  constructor
  · rintro ⟨t, h, moved⟩
    cases h with
    | mockBound _ hs | mockFailed _ hs | grpcBound hs | grpcFailed _ hs =>
      exact absurd hs (served.apart (by decide))
    | leave hs fired => simpa [Due, hs] using fired
    | grpcDrained hs ended | grpcAborted hs ended | mockDrained hs ended =>
      simp [Due, hs, ended, Task.isDown]
    | drainElapsed hs _ waited | graceElapsed hs _ waited | mockElapsed hs _ waited =>
      simp [Due, hs, waited]
    | leaveMock hs => simp [Due, hs]
    | finish hs waited => simpa [Due, hs] using waited
    | grpcEnds | mockEnds => exact absurd rfl moved
  · intro due
    cases hs : s.stage with
    | created | bindingMock | bindingGrpc | returned => simp [Due, hs] at due
    | serving =>
      have fired : s.isFired := by simpa [Due, hs] using due
      exact ⟨_, .leave hs fired, by rintro ⟨⟩⟩
    | drainingGrpc =>
      rw [hs] at inv
      rcases Task.eq_of_isKept inv.grpc with running | ⟨result, ended⟩
      · have grpc : s.grpcTask = .running := running
        have waited : s.HasWaited config.grpcDrainTimeout := by
          simpa [Due, hs, grpc, Task.isDown] using due
        exact ⟨_, .drainElapsed hs running waited, by rintro ⟨⟩⟩
      · exact ⟨_, .grpcDrained hs ended, by simp⟩
    | abortingStreams =>
      rw [hs] at inv
      rcases Task.eq_of_isKept inv.grpc with running | ⟨result, ended⟩
      · have grpc : s.grpcTask = .running := running
        have waited : s.HasWaited abortedGrace := by
          simpa [Due, hs, grpc, Task.isDown] using due
        exact ⟨_, .graceElapsed hs running waited, by rintro ⟨⟩⟩
      · exact ⟨_, .grpcAborted hs ended, by simp⟩
    | removingSocket =>
      obtain ⟨_, _, _, _, frame, stages⟩ := s.leaveMock_frame config
      refine ⟨_, .leaveMock hs, ?_⟩
      rw [frame]
      rcases stages with rfl | rfl <;> rintro ⟨⟩
    | drainingMock =>
      rw [hs] at inv
      rcases Task.eq_of_isKept inv.2.2.1 with running | ⟨result, ended⟩
      · have mock : s.mockTask = .running := running
        have waited : s.HasWaited config.httpShutdownTimeout := by
          simpa [Due, hs, mock, Task.isDown] using due
        exact ⟨_, .mockElapsed hs running waited, by rintro ⟨⟩⟩
      · exact ⟨_, .mockDrained hs ended, by simp⟩
    | waiting =>
      have waited : s.HasWaited config.shutdownWait := by simpa [Due, hs] using due
      exact ⟨_, .finish hs waited, by rintro ⟨⟩⟩

-- The log only grows.
theorem State.log_removeSocket (s : State) : s.log <+: s.removeSocket.log := by
  unfold State.removeSocket
  split
  · split
    · exact List.prefix_rfl
    · split
      · exact List.prefix_rfl
      · exact List.prefix_append _ _
  · exact List.prefix_rfl

theorem State.log_settleGrpc (s : State) (result : Except Failure Unit) :
    s.log <+: (s.settleGrpc result).log := by
  cases result with
  | ok => exact List.prefix_rfl
  | error => exact List.prefix_append _ _

theorem State.log_settleMock (config : ServerSection) (s : State) (result : Except Failure Unit) :
    s.log <+: (s.settleMock config result).log := by
  cases result with
  | ok => exact List.prefix_append _ _
  | error => exact (List.prefix_append _ _).trans (List.prefix_append _ _)

theorem Served.log_own (served : Served config s) (h : Own config s t) : s.log <+: t.log := by
  cases h with
  | mockBound | grpcBound | leave | drainElapsed | finish => exact List.prefix_append _ _
  | mockFailed | grpcFailed | grpcEnds | mockEnds => exact List.prefix_rfl
  | grpcDrained | grpcAborted => exact s.log_settleGrpc _
  | graceElapsed => exact List.prefix_append _ _
  | mockDrained => exact s.log_settleMock config _
  | mockElapsed => exact (List.prefix_append _ _).trans (List.prefix_append _ _)
  | leaveMock hs =>
    have inv := served.reach.attended
    rw [hs] at inv
    obtain ⟨log, grows, left⟩ := State.leaveMock_eq inv.2.1 inv.2.2.1
    rw [left]
    exact s.log_removeSocket.trans grows

theorem State.log_act (s : State) (action : Action) : s.log <+: (s.act config action).log := by
  cases action with
  | call =>
    simp only [State.act, State.call]
    split <;> exact List.prefix_rfl
  | check => exact List.prefix_append _ _
  | fire | touch | pass => exact List.prefix_rfl

end RoutingProcessor.Server
