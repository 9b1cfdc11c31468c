import RoutingProcessor.Proofs.Server.Descent
import RoutingProcessor.Proofs.Steps

namespace RoutingProcessor.Server

open Relation

-- How many timeouts may still have to elapse before a stop ends.
def Stage.timeouts : Stage → Nat
  | .returned _ => 0
  | .waiting => 1
  | .drainingMock | .removingSocket => 2
  | .abortingStreams => 3
  | _ => 4

theorem Turn.timeouts_le {config : ServerSection} {before after : Stage} {was is : Bool}
    (turn : Turn config before was after is) : after.timeouts ≤ before.timeouts := by
  cases turn <;> simp [Stage.timeouts]

section Time

variable {config : ServerSection} {host : Host} {load : Load} {s t : State}

-- Whether the call has been at its stage no longer than it had to.
def OnTime (config : ServerSection) (s : State) : Prop :=
  ∀ limit, s.stage.limit? config = some limit → s.now.nanos ≤ s.since.nanos + limit.nanos

-- The nanoseconds for the mock backend and the last wait.
def mockAllowance (config : ServerSection) : Nat :=
  (if config.mockBackend.isSome then config.httpShutdownTimeout.nanos else 0) +
    config.shutdownWait.nanos

-- The nanoseconds that a call which is on time takes at most from the beginning of a stage to
-- its end, or from when it is told to stop serving.
def Stage.allowance (config : ServerSection) : Stage → Nat
  | .serving | .drainingGrpc =>
    config.grpcDrainTimeout.nanos + abortedGrace.nanos + mockAllowance config
  | .abortingStreams => abortedGrace.nanos + mockAllowance config
  | .removingSocket => mockAllowance config
  | .drainingMock => config.httpShutdownTimeout.nanos + config.shutdownWait.nanos
  | .waiting => config.shutdownWait.nanos
  | _ => 0

-- When a call that is on time has come to its end, unless it goes on serving.
def State.deadline (config : ServerSection) (s : State) : Nat :=
  (if s.stage = .serving then s.now.nanos else s.since.nanos) + s.stage.allowance config

theorem State.deadline_of_left (left : s.stage ≠ .serving) :
    s.deadline config = s.since.nanos + s.stage.allowance config := by
  rw [State.deadline, if_neg left]

theorem Turn.exists_limit {before after : Stage} {was is : Bool}
    (turn : Turn config before was after is) (left : before ≠ .serving) :
    ∃ limit, before.limit? config = some limit ∧
      limit.nanos + after.allowance config ≤ before.allowance config := by
  cases turn with
  | leave => exact absurd rfl left
  | drained | elapsed | aborted | mockDown | finish =>
    exact ⟨_, rfl, by simp only [Stage.allowance]; omega⟩
  | mock _ configured =>
    exact ⟨_, rfl, by simp [Stage.allowance, mockAllowance, configured, Duration.zero]⟩
  | noMock _ unconfigured =>
    exact ⟨_, rfl, by simp [Stage.allowance, mockAllowance, unconfigured, Duration.zero]⟩

theorem Turn.ne_serving {before after : Stage} {was is : Bool}
    (turn : Turn config before was after is) : after ≠ .serving := by
  cases turn <;> rintro ⟨⟩

theorem Turn.of_serving {before after : Stage} {was is : Bool}
    (turn : Turn config before was after is) (serving : before = .serving) :
    after = .drainingGrpc := by
  cases turn with
  | leave => rfl
  | _ => cases serving

-- A step that is on time puts the end off no further.
theorem Served.deadline_own_le (served : Served config s) (onTime : OnTime config s)
    (h : Own config s t) : t.deadline config ≤ s.deadline config := by
  obtain ⟨now, ⟨stage, since⟩ | ⟨moved, since⟩⟩ := State.clock_of_own h
  · rw [State.deadline, State.deadline, stage, since, now]
  · have turn := (turn_of_own served h).resolve_left fun same => moved same.1
    rw [State.deadline_of_left turn.ne_serving, since]
    by_cases serving : s.stage = .serving
    · simp [State.deadline, serving, turn.of_serving serving, Stage.allowance]
    · obtain ⟨limit, given, enough⟩ := turn.exists_limit serving
      have early := onTime limit given
      rw [State.deadline_of_left serving]
      omega

theorem OnTime.own (onTime : OnTime config s) (h : Own config s t) : OnTime config t := by
  intro limit given
  obtain ⟨now, ⟨stage, since⟩ | ⟨_, since⟩⟩ := State.clock_of_own h
  · rw [stage] at given
    rw [now, since]
    exact onTime limit given
  · rw [now, since]
    exact Nat.le_add_right _ _

-- A server that has come from another state without any delay.
structure Prompt (config : ServerSection) (s t : State) : Prop where
  served : Served config t
  onTime : OnTime config t
  deadline : t.deadline config ≤ s.deadline config

theorem Prompt.own {u : State} (prompt : Prompt config s t) (h : Own config t u) :
    Prompt config s u where
  served := prompt.served.step (.own h)
  onTime := prompt.onTime.own h
  deadline := (prompt.served.deadline_own_le prompt.onTime h).trans prompt.deadline

theorem Prompt.advance (prompt : Prompt config s t) (seen : List Phase) :
    Prompt config s (t.advance config host load seen).1 := by
  fun_induction State.advance config host load t seen with
  | case1 _ _ _ next ih => exact ih (prompt.own (State.own_of_own? next))
  | case2 => exact prompt

-- A wait up to the end of what is allowed at a stage is no delay.
theorem Prompt.pass (prompt : Prompt config s t) {limit : Duration}
    (given : t.stage.limit? config = some limit) :
    Prompt config s (t.act config (.pass ⟨t.since.nanos + limit.nanos - t.now.nanos⟩)) where
  served := prompt.served.step (.act _)
  onTime other same := by
    cases given.symm.trans same
    have early := prompt.onTime limit given
    simp only [State.act]
    omega
  deadline := by
    have left : t.stage ≠ .serving := by
      intro serving
      rw [serving] at given
      cases given
    have still : (t.act config (.pass ⟨t.since.nanos + limit.nanos - t.now.nanos⟩)).stage ≠
        .serving := left
    rw [State.deadline_of_left still]
    exact (State.deadline_of_left left).symm.trans_le prompt.deadline

end Time

-- A server that was told to stop, some time after it has served.
structure Stopping (config : ServerSection) (s : State) : Prop where
  served : Served config s
  fired : s.isFired = true

namespace State

variable {config : ServerSection} {host : Host} {load : Load} {s t : State}

theorem own?_advance (s : State) (seen : List Phase) :
    (s.advance config host load seen).1.own? config host load = none := by
  fun_induction advance config host load s seen with
  | case1 _ _ _ _ ih => exact ih
  | case2 _ _ standing => exact standing

-- Time that passes lets nobody go on who waits for something else.
theorem callStep?_pass (time : Duration) (called : s.callStep? config host = none) :
    (s.act config (.pass time)).callStep? config host = none := by
  cases hs : s.stage with
  | drainingGrpc | abortingStreams | drainingMock =>
    simp only [callStep?, act, hs] at called ⊢
    split at called
    · cases called
    · rfl
  | _ => simp_all [callStep?, act]

-- Where the call waits for a task it goes on as soon as the task has ended.
theorem grpcTask_ne_ended (called : s.callStep? config host = none)
    (draining : s.stage = .drainingGrpc ∨ s.stage = .abortingStreams)
    (result : Except Failure Unit) : s.grpcTask ≠ .ended result := by
  intro ended
  rcases draining with hs | hs
  · simp [callStep?, hs, ended] at called
  · simp [callStep?, hs, ended] at called

theorem mockTask_ne_ended (called : s.callStep? config host = none)
    (draining : s.stage = .drainingMock) (result : Except Failure Unit) :
    s.mockTask ≠ .ended result := by
  intro ended
  simp [callStep?, draining, ended] at called

theorem taskStep?_eq_none_iff : s.taskStep? load = none ↔
    (s.grpcTask.isRunning && s.isGrpcCancelled && !load.streams) = false ∧
      (s.mockTask.isRunning && s.isMockCancelled && !load.connections) = false := by
  unfold taskStep?
  cases s.grpcTask.isRunning && s.isGrpcCancelled && !load.streams <;>
    cases s.mockTask.isRunning && s.isMockCancelled && !load.connections <;> simp

theorem taskStep?_pass (time : Duration) (tasked : s.taskStep? load = none) :
    (s.act config (.pass time)).taskStep? load = none := by
  rw [taskStep?_eq_none_iff] at tasked ⊢
  exact tasked

-- The call that still waits for its task gets on when its time is over.
theorem own?_pass (time : Duration) (standing : s.own? config host load = none) :
    (s.act config (.pass time)).own? config host load =
      (s.act config (.pass time)).elapse? config := by
  obtain ⟨still, -⟩ := Option.or_eq_none_iff.1 standing
  obtain ⟨called, tasked⟩ := Option.or_eq_none_iff.1 still
  simp [own?, callStep?_pass time called, taskStep?_pass time tasked]

theorem advance_of_own? (next : s.own? config host load = some t) (seen : List Phase) :
    s.advance config host load seen = t.advance config host load (t.watch seen) := by
  rw [advance]
  split
  · next u same => rw [Option.some.inj (next.symm.trans same)]
  · next standing => cases next.symm.trans standing

theorem isFired_of_own (h : Own config s t) : t.isFired = s.isFired := by
  cases h with
  | grpcDrained | grpcAborted =>
    obtain ⟨_, _, frame⟩ := s.settleGrpc_frame ‹_›
    rw [frame]
  | leaveMock =>
    obtain ⟨_, _, _, _, frame, _⟩ := s.leaveMock_frame config
    rw [frame]
  | mockDrained =>
    obtain ⟨_, _, frame⟩ := s.settleMock_frame config ‹_›
    rw [frame]
  | _ => rfl

end State

namespace Stopping

variable {config : ServerSection} {host : Host} {load : Load} {s t : State}

theorem step (stopping : Stopping config s) (step : Step config s t) :
    Stopping config t ∧ t.stage.timeouts ≤ s.stage.timeouts := by
  cases step with
  | own h =>
    refine ⟨⟨stopping.served.step (.own h), (State.isFired_of_own h).trans stopping.fired⟩, ?_⟩
    rcases turn_of_own stopping.served h with ⟨stage, _⟩ | turn
    · rw [stage]
    · exact turn.timeouts_le
  | act action =>
    refine ⟨⟨stopping.served.step (.act action), ?_⟩, by rw [stopping.served.act_stage]⟩
    cases action with
    | call => simp [State.call_of_started (stopping.served.apart (by decide)), stopping.fired]
    | fire => rfl
    | check | touch | pass => exact stopping.fired

theorem later (stopping : Stopping config s) (later : ReflTransGen (Step config) s t) :
    Stopping config t ∧ t.stage.timeouts ≤ s.stage.timeouts := by
  refine kept_later (P := fun t => Stopping config t ∧ t.stage.timeouts ≤ s.stage.timeouts) ?_
    ⟨stopping, Nat.le_refl _⟩ later
  rintro t u ⟨stopping, fewer⟩ step
  obtain ⟨still, less⟩ := stopping.step step
  exact ⟨still, less.trans fewer⟩

-- Where it stands still before its end, it waits for something with a timeout.
theorem exists_expire (stopping : Stopping config s) (standing : s.own? config host load = none)
    (unreturned : ∀ result, s.stage ≠ .returned result) :
    ∃ limit, s.stage.limit? config = some limit ∧ ∀ time,
      ∃ t, (s.act config (.pass time)).expire? config = some t ∧
        t.stage.timeouts < s.stage.timeouts := by
  have inv := stopping.served.reach.attended
  have called : s.callStep? config host = none :=
    (Option.or_eq_none_iff.1 (Option.or_eq_none_iff.1 standing).1).1
  cases hs : s.stage with
  | created | bindingMock | bindingGrpc => exact absurd hs (stopping.served.apart (by decide))
  | serving => simp [State.callStep?, hs, stopping.fired] at called
  | removingSocket => simp [State.callStep?, hs] at called
  | drainingGrpc =>
    rw [hs] at inv
    have running : s.grpcTask = .running :=
      Task.running_of_isKept inv.grpc (State.grpcTask_ne_ended called (.inl hs))
    refine ⟨_, rfl, fun time => ⟨(s.act config (.pass time)).abortStreams config, ?_, ?_⟩⟩
    · simp [State.expire?, State.act, hs, running, Task.isRunning, Task.isDown]
    · show Stage.abortingStreams.timeouts < Stage.drainingGrpc.timeouts
      decide
  | abortingStreams =>
    rw [hs] at inv
    have running : s.grpcTask = .running :=
      Task.running_of_isKept inv.grpc (State.grpcTask_ne_ended called (.inr hs))
    refine ⟨_, rfl, fun time => ⟨(s.act config (.pass time)).abandonGrpc, ?_, ?_⟩⟩
    · simp [State.expire?, State.act, hs, running, Task.isRunning, Task.isDown]
    · show Stage.removingSocket.timeouts < Stage.abortingStreams.timeouts
      decide
  | drainingMock =>
    rw [hs] at inv
    have running : s.mockTask = .running :=
      Task.running_of_isKept inv.2.2.1 (State.mockTask_ne_ended called hs)
    refine ⟨_, rfl, fun time => ⟨(s.act config (.pass time)).abandonMock config, ?_, ?_⟩⟩
    · simp [State.expire?, State.act, hs, running, Task.isRunning, Task.isDown]
    · show Stage.waiting.timeouts < Stage.drainingMock.timeouts
      decide
  | waiting =>
    refine ⟨_, rfl, fun time => ⟨(s.act config (.pass time)).finish, ?_, ?_⟩⟩
    · simp [State.expire?, State.act, hs]
    · exact Nat.zero_lt_one
  | returned result => exact absurd hs (unreturned result)

-- As long as the time it is given is not over it stays there, and then it goes on.
theorem exists_limit (stopping : Stopping config s) (standing : s.own? config host load = none)
    (unreturned : ∀ result, s.stage ≠ .returned result) :
    ∃ limit, s.stage.limit? config = some limit ∧ ∀ time,
      if (s.act config (.pass time)).HasWaited limit then
        ∃ t, (s.act config (.pass time)).own? config host load = some t ∧
          t.stage.timeouts < s.stage.timeouts
      else (s.act config (.pass time)).own? config host load = none := by
  obtain ⟨limit, waits, expires⟩ := stopping.exists_expire standing unreturned
  refine ⟨limit, waits, fun time => ?_⟩
  have stage : (s.act config (.pass time)).stage.limit? config = some limit := waits
  rw [State.own?_pass time standing]
  unfold State.elapse?
  rw [stage]
  split
  · next waited => simpa [waited] using expires time
  · next early => simp [early]

end Stopping

namespace Session

variable {setup : Setup} {s t : Session}

-- A session whose server was told to stop and has to wait.
structure Standing (setup : Setup) (s : Session) : Prop where
  stopping : Stopping setup.config.server s.server
  still : s.server.own? setup.config.server setup.host s.load = none

theorem standing_settle (stopping : Stopping setup.config.server s.server) :
    (s.settle setup).Standing setup ∧
      (s.settle setup).server.stage.timeouts ≤ s.server.stage.timeouts := by
  obtain ⟨stopping, fewer⟩ := stopping.later (leads_settle s)
  exact ⟨⟨stopping, State.own?_advance _ _⟩, fewer⟩

theorem settle_of_own? {server : State}
    (next : s.server.own? setup.config.server setup.host s.load = some server) :
    s.settle setup = { s with server, seen := server.watch s.seen }.settle setup := by
  have first : s.settleServer setup =
      { s with server, seen := server.watch s.seen }.settleServer setup := by
    unfold settleServer
    rw [State.advance_of_own? next]
    rfl
  unfold settle
  rw [first]

theorem prompt_settle {first : State} (prompt : Prompt setup.config.server first s.server) :
    Prompt setup.config.server first (s.settle setup).server :=
  (prompt.advance s.seen).advance _

-- What a stop waits for has a timeout, and once that has elapsed there is one less to wait for.
theorem Standing.exists_rest (standing : s.Standing setup)
    (unreturned : ∀ result, s.server.stage ≠ .returned result) :
    ∃ rest, s.rest? setup = some rest ∧ (s.wait setup rest).Standing setup ∧
      (s.wait setup rest).server.stage.timeouts < s.server.stage.timeouts := by
  obtain ⟨limit, waits, goes⟩ := standing.stopping.exists_limit standing.still unreturned
  let rest : Duration := ⟨s.server.since.nanos + limit.nanos - s.server.now.nanos⟩
  let later : Session := { s with server := s.server.act setup.config.server (.pass rest) }
  have waited : later.server.HasWaited limit := by
    show s.server.since.nanos + limit.nanos ≤ s.server.now.nanos + rest.nanos
    simp only [rest]
    omega
  obtain ⟨server, next, fewer⟩ : ∃ t,
      later.server.own? setup.config.server setup.host later.load = some t ∧
        t.stage.timeouts < s.server.stage.timeouts := by
    have gone := goes rest
    rwa [if_pos waited] at gone
  have stopping : Stopping setup.config.server server :=
    ((standing.stopping.step (.act (.pass rest))).1.step (.own (State.own_of_own? next))).1
  obtain ⟨settled, less⟩ := standing_settle
    (s := { later with server, seen := server.watch later.seen }) stopping
  rw [← settle_of_own? next] at settled less
  exact ⟨rest, by simp [rest?, waits, rest], settled, less.trans_lt fewer⟩

theorem prompt_wait {first : State} (prompt : Prompt setup.config.server first s.server)
    {rest : Duration} (given : s.rest? setup = some rest) :
    Prompt setup.config.server first (s.wait setup rest).server := by
  obtain ⟨limit, waits, rfl⟩ := Option.map_eq_some_iff.1 given
  exact prompt_settle
    (s := { s with server := s.server.act setup.config.server (.pass _) }) (prompt.pass waits)

-- Time that passes without limit gets a stop to its end if there are enough timeouts for it.
theorem exists_returned_pass (rounds : Nat) (standing : s.Standing setup)
    (enough : s.server.stage.timeouts ≤ rounds) :
    ∃ result, (s.pass setup none rounds).server.stage = .returned result := by
  induction rounds generalizing s with
  | zero =>
    cases hs : s.server.stage with
    | returned result => exact ⟨result, hs⟩
    | _ => simp [hs, Stage.timeouts] at enough
  | succ rounds ih =>
    by_cases returned : ∃ result, s.server.stage = .returned result
    · obtain ⟨result, hs⟩ := returned
      exact ⟨result, by simp [pass, rest?, hs, Stage.limit?]⟩
    · obtain ⟨rest, waits, standing, fewer⟩ :=
        standing.exists_rest fun result hs => returned ⟨result, hs⟩
      have ended := ih standing (Nat.le_of_lt_succ (fewer.trans_le enough))
      simpa [pass, waits] using ended

-- A session goes from one timeout to the next.
theorem prompt_pass {first : State} (prompt : Prompt setup.config.server first s.server)
    (rounds : Nat) : Prompt setup.config.server first (s.pass setup none rounds).server := by
  induction rounds generalizing s with
  | zero => exact prompt
  | succ rounds ih =>
    cases given : s.rest? setup with
    | none => simpa [pass, given] using prompt
    | some rest => simpa [pass, given] using ih (prompt_wait prompt given)

-- Whoever stops the server of a session is told how its call ended. A call that was on time
-- until then has ended by its deadline.
def Stops (setup : Setup) (s : Session) : Prop :=
  ∃ result, (s.stop setup).2 = .stopped result (s.stop setup).1.server.status ∧
    (s.stop setup).1.server.stage = .returned result ∧
    (OnTime setup.config.server s.server →
      (s.stop setup).1.server.since.nanos ≤ s.server.deadline setup.config.server)

theorem stops (started : s.isStarted = true) (served : Served setup.config.server s.server) :
    s.Stops setup := by
  let told := { s with server := s.server.act setup.config.server .fire, isStarted := false }
  have stopping : Stopping setup.config.server told.server := ⟨served.step (.act .fire), rfl⟩
  obtain ⟨standing, _⟩ := standing_settle stopping
  have enough (stage : Stage) : stage.timeouts ≤ timeouts := by
    cases stage <;> simp [Stage.timeouts, timeouts]
  obtain ⟨result, returned⟩ := exists_returned_pass timeouts standing (enough _)
  have ended : s.stop setup = ((told.settle setup).pass setup none timeouts,
      .stopped result ((told.settle setup).pass setup none timeouts).server.status) := by
    unfold stop
    rw [if_pos started]
    dsimp only
    split
    · next other hs =>
      cases hs.symm.trans returned
      rfl
    · next unreturned => exact absurd returned (unreturned result)
  refine ⟨result, by rw [ended], by rw [ended]; exact returned, fun onTime => ?_⟩
  have first : Prompt setup.config.server s.server told.server :=
    ⟨stopping.served, onTime, Nat.le_refl _⟩
  have last := (prompt_pass (prompt_settle first) timeouts).deadline
  rw [ended]
  rw [State.deadline_of_left (by rw [returned]; nofun)] at last
  exact (Nat.le_add_right _ _).trans last

end Session

end RoutingProcessor.Server
