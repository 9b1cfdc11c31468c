import RoutingProcessor.Proofs.Server.Timeouts

namespace RoutingProcessor.Server

open Net Files

-- The drain of the gRPC server, with the abort of its streams if it came to that.
def drain (aborted : Bool) : List Stage :=
  [.serving, .drainingGrpc] ++ if aborted then [.abortingStreams] else []

-- All that a stop passes through before it waits for the end.
def descent (config : ServerSection) (aborted : Bool) : List Stage :=
  drain aborted ++ [.removingSocket] ++ if config.mockBackend.isSome then [.drainingMock] else []

-- The way of a stop to a stage, each stage once.
def Stage.way (config : ServerSection) (aborted : Bool) : Stage → List Stage
  | .drainingGrpc => [.serving, .drainingGrpc]
  | .abortingStreams => [.serving, .drainingGrpc, .abortingStreams]
  | .removingSocket => drain aborted ++ [.removingSocket]
  | .drainingMock => drain aborted ++ [.removingSocket, .drainingMock]
  | .waiting => descent config aborted ++ [.waiting]
  | .returned result => descent config aborted ++ [.waiting, .returned result]
  | stage => [stage]

variable {config : ServerSection} {s t u : State} {actions : List Action} {states : List State}

theorem Turn.way {before after : Stage} {was is : Bool} (turn : Turn config before was after is) :
    after.way config is = before.way config was ++ [after] := by
  cases turn with
  | leave | drained | elapsed | aborted => rfl
  | mock aborted configured => simp [Stage.way]
  | noMock aborted unconfigured => simp [Stage.way, descent, unconfigured]
  | mockDown aborted configured => simp [Stage.way, descent, configured]
  | finish aborted result => simp [Stage.way]

theorem Run.served (run : Run config s actions states t) (served : Served config s) :
    Served config t := by
  induction run with
  | start => exact served
  | own _ h ih => exact ih.step (.own h)
  | act action _ ih => exact ih.step (.act action)

theorem Run.served_of_mem (run : Run config s actions states t) (served : Served config s) :
    ∀ u ∈ states, Served config u := by
  induction run with
  | start => simpa using served
  | own run h ih => simpa [or_imp, forall_and] using ⟨ih, (run.own h).served served⟩
  | act action run ih => simpa [or_imp, forall_and] using ⟨ih, (run.act action).served served⟩

-- A stop passes through its stages in turn and leaves none out.
theorem Run.way (run : Run config s actions states t) (served : Served config s)
    (serving : s.stage = .serving) :
    (states.map State.stage).destutter (· ≠ ·) = t.stage.way config t.areStreamsAborted := by
  induction run with
  | start => simp [serving, Stage.way]
  | @own actions states u v run h ih =>
    have ends : (states.map State.stage).getLast? = some u.stage := by
      rw [List.getLast?_map, run.getLast?_eq, Option.map_some]
    rw [List.map_append, List.map_singleton, destutter_concat ends, ih]
    rcases turn_of_own (run.served served) h with ⟨stage, aborted⟩ | turn
    · rw [if_pos stage.symm, stage, aborted]
    · rw [if_neg turn.ne, turn.way]
  | @act actions states u action run ih =>
    have ends : (states.map State.stage).getLast? = some u.stage := by
      rw [List.getLast?_map, run.getLast?_eq, Option.map_some]
    have aborted : (u.act config action).areStreamsAborted = u.areStreamsAborted :=
      congrArg Tasks.areStreamsAborted (State.act_tasks action)
    rw [List.map_append, List.map_singleton, destutter_concat ends, ih,
      (run.served served).act_stage, if_pos rfl, aborted]

-- Other actions do not keep the server from its end.
theorem State.work_act_le (s : State) (action : Action) : (s.act config action).work ≤ s.work := by
  have grpc : (s.act config action).grpcTask = s.grpcTask :=
    congrArg Tasks.grpc (State.act_tasks action)
  have mock : (s.act config action).mockTask = s.mockTask :=
    congrArg Tasks.mock (State.act_tasks action)
  have stages : (s.act config action).stage = s.stage ∨ s.stage = .created ∧ _ := s.act_stage action
  rcases stages with stage | ⟨created, stage⟩
  · simp [State.work, grpc, mock, stage]
  · simp only [State.work, grpc, mock, stage, created]
    split <;> simp [Stage.distance]

theorem Run.length_add_work_le (run : Run config s actions states t) :
    states.length + t.work ≤ actions.length + s.work + 1 := by
  induction run with
  | start => simp; omega
  | own run h ih =>
    have less := State.work_lt_of_own h
    rw [List.length_append, List.length_singleton]
    omega
  | @act _ _ u action run ih =>
    have less : (u.act config action).work ≤ u.work := u.work_act_le action
    simp only [List.length_append, List.length_singleton]
    omega

-- Whatever its tasks do, the call that serves goes on until it has returned: after the time
-- it is given at a stage it leaves it.
theorem Served.exists_leaves_later (served : Served config s) (fired : s.isFired = true)
    (unreturned : ∀ result, s.stage ≠ .returned result) :
    ∃ t, Own config (s.act config (.pass ((s.stage.limit? config).getD .zero))) t ∧
      t.stage ≠ s.stage := by
  let later := s.act config (.pass ((s.stage.limit? config).getD .zero))
  have waited : ∀ limit, s.stage.limit? config = some limit → later.HasWaited limit := by
    intro limit given
    show s.since.nanos + limit.nanos ≤ s.now.nanos + ((s.stage.limit? config).getD .zero).nanos
    rw [given]
    exact Nat.add_le_add_right served.reach.since_le _
  refine (served.step (.act (.pass _))).exists_leaves_iff.2 ?_
  show Due config later
  have stage : later.stage = s.stage := rfl
  have still : later.isFired = true := fired
  cases hs : s.stage with
  | created | bindingMock | bindingGrpc => exact absurd hs (served.apart (by decide))
  | serving => simp [Due, stage, hs, still]
  | drainingGrpc | abortingStreams | drainingMock | waiting =>
    simp [Due, stage, hs, waited _ (by rw [hs]; rfl)]
  | removingSocket => simp [Due, stage, hs]
  | returned result => exact absurd hs (unreturned result)

-- From one state to a later one a stop takes no more than the time allowed for it.
def InTime (config : ServerSection) (s t : State) : Prop :=
  s.stage ≠ .serving → t.stage ≠ .serving ∧ t.deadline config ≤ s.deadline config

instance : Trans (InTime config) (InTime config) (InTime config) where
  trans first second left :=
    let ⟨leaving, before⟩ := first left
    let ⟨gone, later⟩ := second leaving
    ⟨gone, later.trans before⟩

theorem Served.since_act (served : Served config s) (action : Action) :
    (s.act config action).since = s.since := by
  cases action with
  | call => rw [State.call_of_started (served.apart (by decide))]
  | fire | check | touch | pass => rfl

theorem Served.inTime (served : Served config s) (onTime : OnTime config s)
    (step : Step config s t) : InTime config s t := by
  intro left
  cases step with
  | own h =>
    refine ⟨?_, served.deadline_own_le onTime h⟩
    rcases turn_of_own served h with ⟨stage, _⟩ | turn
    · rw [stage]
      exact left
    · exact turn.ne_serving
  | act action =>
    have stage := served.act_stage action
    refine ⟨stage ▸ left, ?_⟩
    rw [State.deadline_of_left (stage ▸ left), State.deadline_of_left left, stage,
      served.since_act action]

theorem Run.inTime (run : Run config s actions states t) (served : Served config s)
    (onTime : ∀ u ∈ states, OnTime config u) : states.Pairwise (InTime config) :=
  List.IsChain.pairwise <| run.isChain.imp_of_mem_imp fun u _ mem _ step =>
    (run.served_of_mem served u mem).inTime (onTime u mem) step

-- Until the socket is removed nothing happens to the files, and afterwards nothing else.
structure FilesKept (config : ServerSection) (s t : State) : Prop where
  before : Stage.removingSocket.distance ≤ t.stage.distance → t.files = s.files
  tcp : config.grpc.network = .tcp → t.files = s.files
  unix : config.grpc.network = .unix → t.stage.distance < Stage.removingSocket.distance →
    Unlinked config.grpc.address s.files t.files t.log

-- A step elsewhere leaves the files, and where it leads the socket is as it was.
theorem FilesKept.of_eq (kept : FilesKept config s t) (files : u.files = t.files)
    (grows : t.log <+: u.log) (stays : Stage.removingSocket.distance ≤ t.stage.distance ↔
      Stage.removingSocket.distance ≤ u.stage.distance) :
    FilesKept config s u where
  before early := files.trans (kept.before (stays.2 early))
  tcp tcp := files.trans (kept.tcp tcp)
  unix unix late := by
    rw [files]
    refine (kept.unix unix ?_).mono grows
    rwa [← Nat.not_le, stays, Nat.not_le]

theorem FilesKept.own (kept : FilesKept config s t) (served : Served config t)
    (h : Own config t u) : FilesKept config s u := by
  have step := served.unlinks h
  by_cases removing : t.stage = .removingSocket
  · have untouched : t.files = s.files := kept.before (by rw [removing])
    obtain ⟨files, log, rfl, unlinked⟩ := step.socket removing
    refine ⟨fun early => ?_, fun tcp => (step.elsewhere (.inl tcp)).trans untouched,
      fun unix _ => untouched ▸ unlinked unix⟩
    split at early
    · simp [Stage.distance] at early
    · simp [Stage.distance] at early
  · refine kept.of_eq (step.elsewhere (.inr removing)) (served.log_own h) ?_
    rcases turn_of_own served h with ⟨stage, _⟩ | turn
    · rw [stage]
    · exact turn.removing removing

theorem FilesKept.act (kept : FilesKept config s t) (served : Served config t) {action : Action}
    (alone : ∀ files, action ≠ .touch files) : FilesKept config s (t.act config action) := by
  have files : (t.act config action).files = t.files := by
    cases action with
    | call => rw [State.call_of_started (served.apart (by decide))]
    | touch files => exact absurd rfl (alone files)
    | fire | check | pass => rfl
  exact kept.of_eq files (t.log_act action) (by rw [served.act_stage])

theorem Run.kept (run : Run config s actions states t) (served : Served config s)
    (serving : s.stage = .serving) (alone : ∀ files, .touch files ∉ actions) :
    FilesKept config s t := by
  induction run with
  | start =>
    refine ⟨fun _ => rfl, fun _ => rfl, fun _ late => ?_⟩
    simp [serving, Stage.distance] at late
  | own run h ih => exact (ih alone).own (run.served served) h
  | @act actions states u action run ih =>
    have earlier : ∀ files, .touch files ∉ actions := fun files mem =>
      alone files (List.mem_append_left _ mem)
    refine (ih earlier).act (run.served served) fun files same => ?_
    exact alone files (by simp [same])

theorem outcome_eq_ok_iff {tasks : Tasks} : outcome config tasks = .ok () ↔
    tasks.grpc.grpcFailure? = none ∧ tasks.mock.mockFailure? config = none := by
  unfold outcome
  cases tasks.grpc.grpcFailure? <;> cases tasks.mock.mockFailure? config <;> simp

def behindSocket : ServerSection := { backed with grpc := ⟨.unix, "ext.sock"⟩ }

end RoutingProcessor.Server
