import RoutingProcessor.Proofs.Server.Lifecycle

namespace RoutingProcessor.Server

open Net Files

def failure? : Except Failure Unit → Option Failure
  | .ok () => none
  | .error failure => some failure

namespace Task

-- A task that its owner has not given up.
def isKept : Task → Bool
  | running | ended _ => true
  | absent | abandoned => false

-- A task whose end is known, one way or the other.
def isSettled : Task → Bool
  | ended _ | abandoned => true
  | absent | running => false

-- What the end of the gRPC server adds to what went wrong.
def grpcFailure? : Task → Option Failure
  | ended result => failure? result
  | abandoned => some (.ofText "grpc server did not stop after its streams were cancelled")
  | absent | running => none

-- What the end of the mock backend adds to it.
def mockFailure? (config : ServerSection) (task : Task) : Option Failure :=
  let cause? :=
    match task with
    | ended result => failure? result
    | abandoned => some (.ofText ("timed out after " ++ config.httpShutdownTimeout.compact))
    | absent | running => none
  cause?.map (·.context "http server shutdown error")

theorem eq_of_isKept {task : Task} (kept : task.isKept) :
    task = .running ∨ ∃ result, task = .ended result := by
  cases task with
  | absent | abandoned => cases kept
  | running => exact .inl rfl
  | ended result => exact .inr ⟨result, rfl⟩

theorem running_of_isKept {task : Task} (kept : task.isKept)
    (unended : ∀ result, task ≠ .ended result) : task = .running := by
  rcases eq_of_isKept kept with running | ⟨result, ended⟩
  · exact running
  · exact absurd ended (unended result)

theorem isDown_of_isSettled {task : Task} (h : task.isSettled) : task.isDown := by
  cases task <;> simp_all [isSettled, isDown]

end Task

-- The tasks of a server, what they were told, and what went wrong with them on the way down.
structure Tasks where
  grpc : Task
  mock : Task
  isGrpcTold : Bool
  isMockTold : Bool
  areStreamsAborted : Bool
  failures : List Failure

def State.tasks (s : State) : Tasks :=
  ⟨s.grpcTask, s.mockTask, s.isGrpcCancelled, s.isMockCancelled, s.areStreamsAborted, s.failures⟩

namespace Tasks

-- Before any listener is up.
def none : Tasks := ⟨.absent, .absent, false, false, false, []⟩

-- The mock backend is up if there is to be one.
def mockUp (config : ServerSection) : Tasks :=
  { none with mock := if config.mockBackend.isSome then .running else .absent }

-- The gRPC server was told to end, and the call waits for it.
structure Leaving (config : ServerSection) (tasks : Tasks) (aborted : Bool) : Prop where
  grpc : tasks.grpc.isKept
  told : tasks.isGrpcTold = true
  aborted : tasks.areStreamsAborted = aborted
  mock : tasks.mock = (mockUp config).mock
  untold : tasks.isMockTold = false
  failures : tasks.failures = []

-- The gRPC server is down. It is given up only after its streams were aborted.
structure GrpcDown (tasks : Tasks) : Prop where
  settled : tasks.grpc.isSettled
  told : tasks.isGrpcTold = true
  abandoned : tasks.grpc = .abandoned → tasks.areStreamsAborted = true

-- Both listeners are down, and what went wrong with either was kept.
structure Down (config : ServerSection) (tasks : Tasks) : Prop where
  grpc : tasks.GrpcDown
  mock : if config.mockBackend.isSome then tasks.mock.isSettled else tasks.mock = .absent
  told : tasks.isMockTold = config.mockBackend.isSome
  failures : tasks.failures =
    tasks.grpc.grpcFailure?.toList ++ (tasks.mock.mockFailure? config).toList

-- The call has given up before it served. A mock backend that was up by then was told to
-- end, and that is all.
structure GivenUp (config : ServerSection) (tasks : Tasks) : Prop where
  grpc : tasks.grpc = .absent
  mock : tasks.mock = .absent ∨
    config.mockBackend.isSome ∧ tasks.mock.isKept ∧ tasks.isMockTold = true

end Tasks

-- What a stop comes to: the first failure, that of the gRPC server before the other.
def outcome (config : ServerSection) (tasks : Tasks) : Except Failure Unit :=
  match tasks.grpc.grpcFailure?.or (tasks.mock.mockFailure? config) with
  | none => .ok ()
  | some failure => .error failure

-- How a call ends: with a stop, or before it served.
inductive Concluded (config : ServerSection) (tasks : Tasks) :
    Option ListenAddress → Except Failure Unit → Prop where
  | stopped (address : ListenAddress) :
    tasks.Down config → Concluded config tasks (some address) (outcome config tasks)
  | givenUp (failure : Failure) :
    tasks.GivenUp config → Concluded config tasks none (.error failure)

theorem Concluded.down {config : ServerSection} {tasks : Tasks} {grpc : Option ListenAddress}
    {result : Except Failure Unit} (concluded : Concluded config tasks grpc result)
    (known : grpc.isSome) : tasks.Down config ∧ result = outcome config tasks := by
  cases concluded with
  | stopped address down => exact ⟨down, rfl⟩
  | givenUp => cases known

-- How the tasks stand at every stage.
def Attended (config : ServerSection) (grpc : Option ListenAddress) (tasks : Tasks) :
    Stage → Prop
  | .created | .bindingMock => tasks = .none
  | .bindingGrpc => tasks = .mockUp config
  | .serving => tasks = { Tasks.mockUp config with grpc := .running }
  | .drainingGrpc => tasks.Leaving config false
  | .abortingStreams => tasks.Leaving config true
  | .removingSocket =>
    tasks.GrpcDown ∧ tasks.mock = (Tasks.mockUp config).mock ∧ tasks.isMockTold = false ∧
      tasks.failures = tasks.grpc.grpcFailure?.toList
  | .drainingMock =>
    tasks.GrpcDown ∧ config.mockBackend.isSome ∧ tasks.mock.isKept ∧ tasks.isMockTold = true ∧
      tasks.failures = tasks.grpc.grpcFailure?.toList
  | .waiting => tasks.Down config
  | .returned result => Concluded config tasks grpc result

variable {config : ServerSection} {s t : State}

@[simp] theorem State.act_tasks (action : Action) : (s.act config action).tasks = s.tasks := by
  cases action with
  | call =>
    simp only [State.act, State.call]
    split <;> rfl
  | fire | check | touch | pass => rfl

theorem attended_of_act (action : Action) (inv : Attended config s.status.grpc s.tasks s.stage) :
    Attended config (s.act config action).status.grpc (s.act config action).tasks
      (s.act config action).stage := by
  rw [State.act_tasks, State.act_status]
  rcases s.act_stage action with stage | ⟨created, stage⟩
  · rw [stage]
    exact inv
  · rw [created] at inv
    rw [stage]
    split
    · exact inv
    · next unconfigured =>
      have bare : Tasks.mockUp config = .none := by simp [Tasks.mockUp, unconfigured, Tasks.none]
      exact inv.trans bare.symm

theorem State.tasks_settleGrpc (s : State) (result : Except Failure Unit) :
    (s.settleGrpc result).tasks =
      { s.tasks with failures := s.failures ++ (failure? result).toList } := by
  cases result <;> simp [State.settleGrpc, State.enter, State.tasks, State.logged, failure?]

theorem State.tasks_settleMock (config : ServerSection) (s : State) (result : Except Failure Unit) :
    (s.settleMock config result).tasks =
      { s.tasks with failures := s.failures ++
          ((failure? result).map (·.context "http server shutdown error")).toList } := by
  cases result <;>
    simp [State.startWaiting, State.enter, State.tasks, State.logged, failure?]

namespace Tasks

variable {tasks : Tasks} {aborted : Bool}

theorem GrpcDown.isDown (down : tasks.GrpcDown) : tasks.grpc.isDown :=
  Task.isDown_of_isSettled down.settled

theorem Down.mock_isDown (down : tasks.Down config) : tasks.mock.isDown := by
  have mock := down.mock
  split at mock
  · exact Task.isDown_of_isSettled mock
  · rw [mock]
    rfl

theorem GivenUp.none : Tasks.none.GivenUp config := ⟨rfl, .inl rfl⟩

theorem GivenUp.mockUp : { Tasks.mockUp config with isMockTold := true }.GivenUp config := by
  refine ⟨rfl, ?_⟩
  cases configured : config.mockBackend.isSome with
  | true => exact .inr ⟨rfl, by simp [Tasks.mockUp, configured, Task.isKept], rfl⟩
  | false => exact .inl (by simp [Tasks.mockUp, configured])

end Tasks

-- The step that removes the socket turns to the mock backend if there is one, whatever came
-- of the removal.
theorem State.leaveMock_eq (mock : s.mockTask = (Tasks.mockUp config).mock)
    (untold : s.isMockCancelled = false) :
    ∃ log, s.removeSocket.log <+: log ∧ s.leaveMock config =
      { s with
        stage := if config.mockBackend.isSome then .drainingMock else .waiting
        since := s.now
        isMockCancelled := config.mockBackend.isSome
        files := s.removeSocket.files
        log } := by
  obtain ⟨files, log, removed⟩ := s.removeSocket_frame
  cases configured : config.mockBackend.isSome with
  | true =>
    have running : s.mockTask = .running := by simpa [Tasks.mockUp, configured] using mock
    refine ⟨(s.removeSocket.logged .info "stopping http server").log, List.prefix_append _ _, ?_⟩
    simp [State.leaveMock, State.enter, State.logged, removed, running]
  | false =>
    have absent : s.mockTask = .absent := by simpa [Tasks.mockUp, Tasks.none, configured] using mock
    refine ⟨(s.removeSocket.startWaiting config).log, List.prefix_append _ _, ?_⟩
    simp [State.leaveMock, State.startWaiting, State.enter, removed, absent, untold]

theorem State.finish_stage (s : State) (down : s.tasks.Down config) :
    s.finish.stage = .returned (outcome config s.tasks) := by
  have failures : s.failures = _ := down.failures
  unfold State.finish State.enter outcome
  rw [State.logged, State.publish, failures]
  cases s.tasks.grpc.grpcFailure? <;> cases s.tasks.mock.mockFailure? config <;> rfl

section Told

variable {tasks : Tasks} {grpc : Option ListenAddress} {stage : Stage}
  (inv : Attended config grpc tasks stage)

include inv

-- A gRPC server that runs although it was told to end is waited for.
theorem Attended.grpc_leaving (running : tasks.grpc = .running) (told : tasks.isGrpcTold = true) :
    stage = .drainingGrpc ∧ tasks.Leaving config false ∨
      stage = .abortingStreams ∧ tasks.Leaving config true := by
  have not_down : ¬tasks.grpc.isDown := by simp [running, Task.isDown]
  cases stage with
  | drainingGrpc => exact .inl ⟨rfl, inv⟩
  | abortingStreams => exact .inr ⟨rfl, inv⟩
  | created | bindingMock | bindingGrpc | serving =>
    rw [inv] at told
    cases told
  | removingSocket | drainingMock => exact absurd inv.1.isDown not_down
  | waiting => exact absurd inv.grpc.isDown not_down
  | returned result =>
    cases inv with
    | stopped address down => exact absurd down.grpc.isDown not_down
    | givenUp failure up => cases running.symm.trans up.grpc

-- Only a stop waits for a mock backend that does so.
theorem Attended.mock_leaving (running : tasks.mock = .running) (told : tasks.isMockTold = true) :
    (stage = .drainingMock ∧ tasks.GrpcDown ∧ config.mockBackend.isSome ∧
        tasks.failures = tasks.grpc.grpcFailure?.toList) ∨
      grpc = none ∧ tasks.GivenUp config ∧ ∃ failure, stage = .returned (.error failure) := by
  have not_down : ¬tasks.mock.isDown := by simp [running, Task.isDown]
  cases stage with
  | drainingMock => exact .inl ⟨rfl, inv.1, inv.2.1, inv.2.2.2.2⟩
  | created | bindingMock | bindingGrpc | serving =>
    rw [inv] at told
    cases told
  | drainingGrpc | abortingStreams => cases told.symm.trans inv.untold
  | removingSocket => cases told.symm.trans inv.2.2.1
  | waiting => exact absurd inv.mock_isDown not_down
  | returned result =>
    cases inv with
    | stopped address down => exact absurd down.mock_isDown not_down
    | givenUp failure up => exact .inr ⟨rfl, up, failure, rfl⟩

end Told

theorem attended_settleGrpc {result : Except Failure Unit} {aborted : Bool}
    {grpc : Option ListenAddress} (leaving : s.tasks.Leaving config aborted)
    (ended : s.grpcTask = .ended result) :
    Attended config grpc (s.settleGrpc result).tasks (s.settleGrpc result).stage := by
  have none_yet : s.failures = [] := leaving.failures
  rw [s.stage_settleGrpc, s.tasks_settleGrpc]
  refine ⟨⟨?_, leaving.told, ?_⟩, leaving.mock, leaving.untold, ?_⟩
  · simp [State.tasks, ended, Task.isSettled]
  · simp [State.tasks, ended]
  · simp [State.tasks, ended, none_yet, Task.grpcFailure?]

theorem attended_abandonGrpc {grpc : Option ListenAddress} (leaving : s.tasks.Leaving config true) :
    Attended config grpc s.abandonGrpc.tasks s.abandonGrpc.stage := by
  have none_yet : s.failures = [] := leaving.failures
  refine ⟨⟨rfl, leaving.told, fun _ => leaving.aborted⟩, leaving.mock, leaving.untold, ?_⟩
  simp [State.abandonGrpc, State.settleGrpc, State.enter, State.tasks, State.logged, none_yet,
    Task.grpcFailure?]

theorem attended_leaveMock {grpc : Option ListenAddress}
    (inv : Attended config grpc s.tasks .removingSocket) :
    Attended config grpc (s.leaveMock config).tasks (s.leaveMock config).stage := by
  obtain ⟨down, up, untold, failures⟩ := inv
  have mock : s.mockTask = (Tasks.mockUp config).mock := up
  obtain ⟨log, _, left⟩ := State.leaveMock_eq mock untold
  rw [left]
  have down : { s.tasks with isMockTold := config.mockBackend.isSome }.GrpcDown :=
    ⟨down.settled, down.told, down.abandoned⟩
  cases configured : config.mockBackend.isSome with
  | true =>
    have kept : s.mockTask.isKept := by simp [mock, Tasks.mockUp, configured, Task.isKept]
    exact ⟨configured ▸ down, configured, kept, rfl, failures⟩
  | false =>
    have absent : s.mockTask = .absent := by
      simpa [Tasks.mockUp, Tasks.none, configured] using mock
    refine ⟨configured ▸ down, ?_, configured.symm, ?_⟩
    · rw [configured]
      exact absent
    · have first : s.failures = s.grpcTask.grpcFailure?.toList := failures
      simp [State.tasks, absent, first, Task.mockFailure?]

-- The mock backend is the last to go down.
theorem attended_mockDown {grpc : Option ListenAddress} {tasks : Tasks}
    (inv : Attended config grpc s.tasks .drainingMock) (settled : tasks.mock.isSettled)
    (rest : tasks = { s.tasks with
      mock := tasks.mock
      failures := s.failures ++ (tasks.mock.mockFailure? config).toList }) :
    Attended config grpc tasks .waiting := by
  obtain ⟨down, configured, _, told, failures⟩ := inv
  have first : s.failures = s.tasks.grpc.grpcFailure?.toList := failures
  rw [rest]
  refine ⟨⟨down.settled, down.told, down.abandoned⟩, ?_, told.trans configured.symm, ?_⟩
  · rw [if_pos configured]
    exact settled
  · rw [first]

theorem attended_settleMock {result : Except Failure Unit} {grpc : Option ListenAddress}
    (inv : Attended config grpc s.tasks .drainingMock) (ended : s.mockTask = .ended result) :
    Attended config grpc (s.settleMock config result).tasks (s.settleMock config result).stage := by
  rw [s.stage_settleMock, s.tasks_settleMock]
  refine attended_mockDown inv ?_ ?_
  · simp [State.tasks, ended, Task.isSettled]
  · simp [State.tasks, ended, Task.mockFailure?]

theorem attended_abandonMock {grpc : Option ListenAddress}
    (inv : Attended config grpc s.tasks .drainingMock) :
    Attended config grpc (s.abandonMock config).tasks (s.abandonMock config).stage :=
  attended_mockDown inv rfl rfl

theorem attended_of_own (h : Own config s t) (published : Published config s.stage s.status)
    (inv : Attended config s.status.grpc s.tasks s.stage) :
    Attended config t.status.grpc t.tasks t.stage := by
  cases h with
  | mockBound address hs =>
    rw [hs] at inv published
    have tasks : (s.mockBound address).tasks = { s.tasks with mock := .running } := rfl
    have bare : s.tasks = .none := inv
    have up : (s.mockBound address).tasks = .mockUp config := by
      rw [tasks, bare, Tasks.mockUp, if_pos published.eq_of_bindingMock.1]
    exact up
  | mockFailed failure hs =>
    rw [hs] at inv published
    have tasks : (s.fail failure).tasks = .none := inv
    have unserved : (s.fail failure).status.grpc = none := by
      simp [State.fail, State.publish, State.enter, published.eq_of_bindingMock.2, Status.created]
    rw [tasks, unserved]
    exact .givenUp failure .none
  | @grpcBound address files hs _ =>
    rw [hs] at inv
    have tasks : (s.grpcBound address files).tasks = { s.tasks with grpc := .running } := rfl
    have up : s.tasks = .mockUp config := inv
    rw [tasks, up]
    rfl
  | @grpcFailed failure files hs _ =>
    rw [hs] at inv published
    obtain ⟨mock, _, status⟩ := published.eq_of_bindingGrpc
    have tasks : (s.grpcFailed failure files).tasks = { s.tasks with isMockTold := true } := rfl
    have up : s.tasks = .mockUp config := inv
    have unserved : (s.grpcFailed failure files).status.grpc = none := by
      simp [State.grpcFailed, State.fail, State.publish, State.enter, status]
    rw [tasks, up, unserved]
    exact .givenUp failure .mockUp
  | leave hs _ =>
    rw [hs] at inv
    have tasks : s.leave.tasks = { s.tasks with isGrpcTold := true } := rfl
    have up : s.tasks = { Tasks.mockUp config with grpc := .running } := inv
    have leaving : s.leave.tasks.Leaving config false := by
      rw [tasks, up]
      exact ⟨rfl, rfl, rfl, rfl, rfl, rfl⟩
    exact leaving
  | grpcDrained hs ended | grpcAborted hs ended =>
    rw [hs] at inv
    exact attended_settleGrpc inv ended
  | drainElapsed hs running =>
    rw [hs] at inv
    have leaving : s.tasks.Leaving config false := inv
    have aborted : (s.abortStreams config).tasks.Leaving config true :=
      ⟨leaving.grpc, leaving.told, rfl, leaving.mock, leaving.untold, leaving.failures⟩
    exact aborted
  | graceElapsed hs running =>
    rw [hs] at inv
    exact attended_abandonGrpc inv
  | leaveMock hs =>
    rw [hs] at inv
    exact attended_leaveMock inv
  | mockDrained hs ended =>
    rw [hs] at inv
    exact attended_settleMock inv ended
  | mockElapsed hs running =>
    rw [hs] at inv
    exact attended_abandonMock inv
  | finish hs _ =>
    rw [hs] at inv published
    obtain ⟨grpc, mock, _, status⟩ := published.eq_of_up (.inr rfl)
    have down : s.tasks.Down config := inv
    have served : s.finish.status.grpc = some grpc := by
      simp [State.finish, State.publish, State.logged, State.enter, status]
    rw [s.finish_stage down, served]
    exact .stopped grpc down
  | grpcEnds result running told =>
    rcases inv.grpc_leaving running told with ⟨hs, leaving⟩ | ⟨hs, leaving⟩
    all_goals
      rw [hs]
      exact { leaving with grpc := rfl }
  | mockEnds result running told =>
    rcases inv.mock_leaving running told with
      ⟨hs, grpc, configured, failures⟩ | ⟨unserved, up, failure, hs⟩
    · rw [hs]
      exact ⟨⟨grpc.settled, grpc.told, grpc.abandoned⟩, configured, rfl, told, failures⟩
    · rw [hs, unserved]
      refine .givenUp failure ⟨up.grpc, .inr ?_⟩
      rcases up.mock with absent | ⟨configured, _, _⟩
      · cases running.symm.trans absent
      · exact ⟨configured, rfl, told⟩

theorem Reachable.attended (h : Reachable config s) :
    Attended config s.status.grpc s.tasks s.stage := by
  induction h with
  | initial => rfl
  | step reach h ih =>
    cases h with
    | own h => exact attended_of_own h reach.published ih
    | act action => exact attended_of_act action ih

end RoutingProcessor.Server
