import RoutingProcessor.Server.Host

namespace RoutingProcessor.Server

open Net Files

-- How far a stage is from the end of the call.
def Stage.distance : Stage → Nat
  | .created => 9
  | .bindingMock => 8
  | .bindingGrpc => 7
  | .serving => 6
  | .drainingGrpc => 5
  | .abortingStreams => 4
  | .removingSocket => 3
  | .drainingMock => 2
  | .waiting => 1
  | .returned _ => 0

-- A task that runs has one more step to take.
def Task.work : Task → Nat
  | .running => 1
  | _ => 0

theorem Task.work_le (task : Task) : task.work ≤ 1 := by cases task <;> simp [Task.work]

theorem Task.eq_running {task : Task} (h : task.isRunning) : task = .running := by
  cases task <;> simp_all [Task.isRunning, Task.isDown]

namespace State

-- Every step of the server brings it closer to standing still.
def work (s : State) : Nat := 3 * s.stage.distance + s.grpcTask.work + s.mockTask.work

theorem work_settleGrpc_le (s : State) (result : Except Failure Unit) :
    (s.settleGrpc result).work ≤ 9 + s.grpcTask.work + s.mockTask.work := by
  cases result <;> simp [settleGrpc, work, enter, logged, Stage.distance]

theorem work_settleMock_le (config : ServerSection) (s : State) (result : Except Failure Unit) :
    (s.settleMock config result).work ≤ 3 + s.grpcTask.work + s.mockTask.work := by
  cases result <;> simp [work, startWaiting, enter, logged, Stage.distance]

theorem grpcTask_removeSocket (s : State) : s.removeSocket.grpcTask = s.grpcTask := by
  unfold removeSocket
  repeat' split
  all_goals simp [logged]

theorem mockTask_removeSocket (s : State) : s.removeSocket.mockTask = s.mockTask := by
  unfold removeSocket
  repeat' split
  all_goals simp [logged]

theorem work_leaveMock_le (config : ServerSection) (s : State) :
    (s.leaveMock config).work ≤ 6 + s.grpcTask.work + s.mockTask.work := by
  have hg := grpcTask_removeSocket s
  have hm := mockTask_removeSocket s
  unfold leaveMock
  simp only
  split <;> simp [work, startWaiting, enter, logged, Stage.distance, hg, hm]

theorem work_lt_of_own {config : ServerSection} {s t : State} (h : Own config s t) :
    t.work < s.work := by
  have hg := Task.work_le s.grpcTask
  have hm := Task.work_le s.mockTask
  cases h with
  | mockBound _ hs => simp [work, mockBound, enter, hs, Stage.distance, Task.work]; omega
  | mockFailed _ hs => simp [work, fail, publish, enter, hs, Stage.distance]
  | grpcBound hs _ => simp [work, grpcBound, enter, hs, Stage.distance, Task.work]; omega
  | grpcFailed _ hs _ => simp [work, grpcFailed, fail, publish, enter, hs, Stage.distance]
  | leave hs _ => simp [work, leave, publish, logged, enter, hs, Stage.distance]
  | grpcDrained hs _ =>
    have := work_settleGrpc_le s ‹_›
    simp only [work, hs, Stage.distance] at this ⊢
    omega
  | drainElapsed hs _ => simp [work, abortStreams, logged, enter, hs, Stage.distance]
  | grpcAborted hs _ =>
    have := work_settleGrpc_le s ‹_›
    simp only [work, hs, Stage.distance] at this ⊢
    omega
  | graceElapsed hs _ =>
    simp [work, abandonGrpc, settleGrpc, logged, enter, hs, Stage.distance, Task.work]
    omega
  | leaveMock hs =>
    have := work_leaveMock_le config s
    simp only [work, hs, Stage.distance] at this ⊢
    omega
  | mockDrained hs _ =>
    have := work_settleMock_le config s ‹_›
    simp only [work, hs, Stage.distance] at this ⊢
    omega
  | mockElapsed hs _ =>
    simp [work, abandonMock, startWaiting, logged, enter, hs, Stage.distance, Task.work]
    omega
  | finish hs _ => simp [work, finish, publish, logged, enter, hs, Stage.distance]
  | grpcEnds _ hs _ => simp [work, hs, Task.work]
  | mockEnds _ hs _ => simp [work, hs, Task.work]

end State

-- What clients still keep open.
structure Load where
  streams : Bool
  connections : Bool

namespace State

-- What the call that serves does next if it need not wait.
def callStep? (config : ServerSection) (host : Host) (s : State) : Option State :=
  match s.stage with
  | .bindingMock => config.mockBackend.map fun mock => s.bindMock host mock.address
  | .bindingGrpc => some (s.bindGrpc host config.grpc)
  | .serving => if s.isFired then some s.leave else none
  | .drainingGrpc | .abortingStreams =>
    match s.grpcTask with
    | .ended result => some (s.settleGrpc result)
    | _ => none
  | .removingSocket => some (s.leaveMock config)
  | .drainingMock =>
    match s.mockTask with
    | .ended result => some (s.settleMock config result)
    | _ => none
  | .created | .waiting | .returned _ => none

-- A task that was told to end does so as soon as nothing is open any more.
def taskStep? (load : Load) (s : State) : Option State :=
  if s.grpcTask.isRunning && s.isGrpcCancelled && !load.streams then
    some { s with grpcTask := .ended (.ok ()) }
  else if s.mockTask.isRunning && s.isMockCancelled && !load.connections then
    some { s with mockTask := .ended (.ok ()) }
  else none

-- What the call does if it still waits when the time for it is over.
def expire? (config : ServerSection) (s : State) : Option State :=
  match s.stage with
  | .drainingGrpc => if s.grpcTask.isRunning then some (s.abortStreams config) else none
  | .abortingStreams => if s.grpcTask.isRunning then some s.abandonGrpc else none
  | .drainingMock => if s.mockTask.isRunning then some (s.abandonMock config) else none
  | .waiting => some s.finish
  | _ => none

def elapse? (config : ServerSection) (s : State) : Option State :=
  match s.stage.limit? config with
  | some limit => if s.HasWaited limit then s.expire? config else none
  | none => none

theorem own_of_bindMock {config : ServerSection} {host : Host} {s : State}
    {address : SocketAddress} (hs : s.stage = .bindingMock) :
    Own config s (s.bindMock host address) := by
  unfold bindMock
  split
  · exact .mockBound _ hs
  · exact .mockFailed _ hs

theorem own_of_bindGrpc {config : ServerSection} {host : Host} {s : State}
    (hs : s.stage = .bindingGrpc) : Own config s (s.bindGrpc host config.grpc) := by
  unfold bindGrpc
  split
  · next hn =>
    unfold bindTcp
    split
    · exact .grpcBound hs (by simp [GrpcBinding, hn])
    · exact .grpcFailed _ hs fun _ => rfl
  · next hn =>
    unfold bindUnix
    split
    · exact .grpcFailed _ hs fun _ => rfl
    · split
      · exact .grpcFailed _ hs fun h => by simp [hn] at h
      · exact .grpcBound hs (by simp [GrpcBinding, hn])

theorem own_of_callStep? {config : ServerSection} {host : Host} {s t : State}
    (h : s.callStep? config host = some t) : Own config s t := by
  unfold callStep? at h
  split at h
  · next hs =>
    obtain ⟨mock, _, rfl⟩ := Option.map_eq_some_iff.1 h
    exact own_of_bindMock hs
  · next hs => cases h; exact own_of_bindGrpc hs
  · next hs =>
    split at h
    · next hf => cases h; exact .leave hs hf
    · cases h
  · next hs =>
    split at h
    · next ht => cases h; exact .grpcDrained hs ht
    · cases h
  · next hs =>
    split at h
    · next ht => cases h; exact .grpcAborted hs ht
    · cases h
  · next hs => cases h; exact .leaveMock hs
  · next hs =>
    split at h
    · next ht => cases h; exact .mockDrained hs ht
    · cases h
  · cases h
  · cases h
  · cases h

theorem own_of_taskStep? {config : ServerSection} {load : Load} {s t : State}
    (h : s.taskStep? load = some t) : Own config s t := by
  unfold taskStep? at h
  split at h
  · next hc =>
    simp only [Bool.and_eq_true] at hc
    cases h
    exact .grpcEnds _ (Task.eq_running hc.1.1) hc.1.2
  split at h
  · next hc =>
    simp only [Bool.and_eq_true] at hc
    cases h
    exact .mockEnds _ (Task.eq_running hc.1.1) hc.1.2
  · cases h

theorem elapse?_eq_some_iff {config : ServerSection} {s t : State} :
    s.elapse? config = some t ↔
      ∃ limit, s.stage.limit? config = some limit ∧ s.HasWaited limit ∧
        s.expire? config = some t := by
  unfold elapse?
  cases s.stage.limit? config <;> simp

theorem own_of_elapse? {config : ServerSection} {s t : State}
    (h : s.elapse? config = some t) : Own config s t := by
  obtain ⟨limit, waits, waited, expired⟩ := elapse?_eq_some_iff.1 h
  unfold expire? at expired
  split at expired
  · next hs =>
    cases hs ▸ waits
    split at expired
    · next running => cases expired; exact .drainElapsed hs (Task.eq_running running) waited
    · cases expired
  · next hs =>
    cases hs ▸ waits
    split at expired
    · next running => cases expired; exact .graceElapsed hs (Task.eq_running running) waited
    · cases expired
  · next hs =>
    cases hs ▸ waits
    split at expired
    · next running => cases expired; exact .mockElapsed hs (Task.eq_running running) waited
    · cases expired
  · next hs =>
    cases hs ▸ waits
    cases expired
    exact .finish hs waited
  · cases expired

-- The next step: the call goes on as far as it can before its tasks do, and only then are
-- its timeouts looked at.
def own? (config : ServerSection) (host : Host) (load : Load) (s : State) : Option State :=
  ((s.callStep? config host).or (s.taskStep? load)).or (s.elapse? config)

theorem own_of_own? {config : ServerSection} {host : Host} {load : Load} {s t : State}
    (h : s.own? config host load = some t) : Own config s t := by
  rcases Option.or_eq_some_iff.1 h with h | ⟨_, h⟩
  · rcases Option.or_eq_some_iff.1 h with h | ⟨_, h⟩
    · exact own_of_callStep? h
    · exact own_of_taskStep? h
  · exact own_of_elapse? h

-- Whether the call lets others run before its next step, so that they see the phase.
def isPaused (s : State) : Bool :=
  match s.stage with
  | .bindingMock | .bindingGrpc | .removingSocket => false
  | .serving => !s.isFired
  | _ => true

-- The phases that a watcher has seen, each once.
def watch (s : State) (seen : List Phase) : List Phase :=
  if s.isPaused && seen.getLast? ≠ some s.status.phase then seen ++ [s.status.phase] else seen

-- Lets the server run until it has to wait, and somebody watch it.
def advance (config : ServerSection) (host : Host) (load : Load) (s : State)
    (seen : List Phase) : State × List Phase :=
  match _h : s.own? config host load with
  | some t => t.advance config host load (t.watch seen)
  | none => (s, seen)
termination_by s.work
decreasing_by exact work_lt_of_own (own_of_own? ‹_›)

end State

end RoutingProcessor.Server
