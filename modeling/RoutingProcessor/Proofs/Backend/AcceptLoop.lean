import Mathlib.Data.List.Basic
import RoutingProcessor.Backend.Session
import RoutingProcessor.Proofs.Steps

namespace RoutingProcessor.Backend

open Http Relation

namespace Visit

@[simp] theorem requests_released (visit : Visit) : visit.released.requests = visit.requests := rfl

@[simp] theorem requests_told (visit : Visit) : visit.told.requests = visit.requests := rfl

@[simp] theorem isTold_released (visit : Visit) : visit.released.isTold = visit.isTold := rfl

@[simp] theorem isTold_told (visit : Visit) : visit.told.isTold = true := rfl

@[simp] theorem isHeld_told (visit : Visit) : visit.told.isHeld = visit.isHeld := rfl

end Visit

-- What a connection brings. A failed accept brings nothing.
def Arrival.requests? : Arrival → Option (List Request)
  | visit v => some v.requests
  | failure _ => none

-- The warning about a failed accept. A connection gives none.
def Arrival.warning? : Arrival → Option Log.Event
  | visit _ => none
  | failure message => some (event .warn ("failed to accept a connection: " ++ message))

@[simp] theorem Arrival.released_released (arrival : Arrival) :
    arrival.released.released = arrival.released := by
  cases arrival <;> rfl

-- Warnings about headers name the header beside the message.
def isAcceptWarning (event : Log.Event) : Bool := event.level = .warn && event.fields.isEmpty

theorem isAcceptWarning_respond (r : Request) :
    ∀ event ∈ (respond r).2, isAcceptWarning event = false := by
  have skips (pairs : Table) :
      ∀ event ∈ pairs.filterMap skipped, isAcceptWarning event = false := by
    intro event logged
    obtain ⟨pair, _, skip⟩ := List.mem_filterMap.1 logged
    unfold skipped at skip
    split at skip
    · cases skip
    · cases skip
      rfl
  unfold respond
  split
  · simp
  split
  · unfold sendHeaders
    dsimp only
    split
    · simp
    · exact skips _
  · simp

-- The requests of a connection give no such warning.
theorem filter_serve (requests : List Request) :
    (serve requests).2.filter isAcceptWarning = [] := by
  have silent : ∀ event ∈ (serve requests).2, isAcceptWarning event = false := by
    induction requests with
    | nil => simp [serve]
    | cons r rest ih =>
      rw [serve]
      dsimp only
      split
      · exact isAcceptWarning_respond _
      · simp only [List.mem_append]
        rintro event (logged | logged)
        · exact isAcceptWarning_respond _ event logged
        · exact ih event logged
  simpa using silent

-- Why the accept loop was left, once it was.
def Stage.ending? : Stage → Option Ending
  | .listening | .pausing => none
  | .draining ending | .returned ending => some ending

-- What the listener takes in with one action.
def State.gains (s : State) : Action → List Arrival
  | .arrive arrival => if s.accepts then [arrival] else []
  | _ => []

-- The backend's own steps interleaved with what others do: all that has arrived, in order,
-- and the state in which that ends.
inductive Run : List Arrival → State → Prop where
  | start : Run [] .initial
  | own {came : List Arrival} {s t : State} : Run came s → Own s t → Run came t
  | act {came : List Arrival} {s : State} (action : Action) :
    Run came s → Run (came ++ s.gains action) (s.act action)

variable {came : List Arrival} {s t : State}

theorem Run.step (run : Run came s) (step : Step s t) : ∃ more, Run (came ++ more) t := by
  cases step with
  | own h => exact ⟨[], by simpa using run.own h⟩
  | act action => exact ⟨_, run.act action⟩

theorem Run.later (run : Run came s) (later : ReflTransGen Step s t) :
    ∃ more, Run (came ++ more) t := by
  refine kept_later (P := fun s => ∃ more, Run (came ++ more) s) ?_ ⟨[], by simpa using run⟩ later
  rintro s t ⟨before, run⟩ step
  obtain ⟨more, run⟩ := run.step step
  exact ⟨before ++ more, by simpa using run⟩

theorem Run.reachable (run : Run came s) : Reachable s := by
  induction run with
  | start => exact .initial
  | own _ h ih => exact .step ih (.own h)
  | act action _ ih => exact .step ih (.act action)

-- The states that steps lead to are those in which runs end.
theorem reachable_iff_run : Reachable s ↔ ∃ came, Run came s := by
  constructor
  · intro h
    induction h with
    | initial => exact ⟨[], .start⟩
    | step _ step ih =>
      obtain ⟨came, run⟩ := ih
      obtain ⟨more, run⟩ := run.step step
      exact ⟨_, run⟩
  · rintro ⟨came, run⟩
    exact run.reachable

-- What came of all that has arrived. What the loop has taken comes first, up to whether
-- clients have let go since. Of that, every connection is open or was answered, and every
-- failure was logged.
structure Accounts (came : List Arrival) (s : State) : Prop where
  segment : (s.taken ++ s.incoming).map Arrival.released = came.map Arrival.released
  served : ∃ done : List (List Request),
    (done ++ s.active.map Visit.requests).Perm (s.taken.filterMap Arrival.requests?) ∧
      s.answered = done.map fun requests => (serve requests).1
  warned : s.log.filter isAcceptWarning = s.taken.filterMap Arrival.warning?

namespace Accounts

theorem initial : Accounts [] .initial where
  segment := rfl
  served := ⟨[], .nil, rfl⟩
  warned := rfl

theorem take {arrival : Arrival} {rest : List Arrival} (a : Accounts came s)
    (next : s.incoming = arrival :: rest) : Accounts came (s.take arrival rest) := by
  obtain ⟨segment, ⟨done, served, answered⟩, warned⟩ := a
  rw [next, List.append_cons] at segment
  cases arrival with
  | visit visit =>
    refine ⟨segment, ⟨done, ?_, answered⟩, ?_⟩
    · simpa [State.take, Arrival.requests?, List.filterMap_cons] using
        served.append_right [visit.requests]
    · simpa [State.take, Arrival.warning?, List.filterMap_cons] using warned
  | failure message =>
    refine ⟨segment, ⟨done, ?_, answered⟩, ?_⟩
    · simpa [State.take, Arrival.requests?, List.filterMap_cons] using served
    · simp [State.take, Arrival.warning?, List.filter_append, warned, isAcceptWarning, event,
        Log.Event.plain]

theorem leave (a : Accounts came s) (ending : Ending) : Accounts came (s.leave ending) := by
  obtain ⟨segment, ⟨done, served, answered⟩, warned⟩ := a
  refine ⟨segment, ⟨done, ?_, answered⟩, ?_⟩
  · simpa [State.leave, Function.comp_def] using served
  · simp [State.leave, List.filter_append, warned, isAcceptWarning, event, Log.Event.plain]

theorem finish {before after : List Visit} {visit : Visit} (a : Accounts came s)
    (open_eq : s.active = before ++ visit :: after) :
    Accounts came (s.finish before visit after) := by
  obtain ⟨segment, ⟨done, served, answered⟩, warned⟩ := a
  refine ⟨segment, ⟨done ++ [visit.requests], ?_, ?_⟩, ?_⟩
  · refine List.Perm.trans ?_ served
    simp only [State.finish, open_eq, List.map_append, List.map_cons, List.append_assoc,
      List.singleton_append]
    exact List.perm_middle.symm.append_left done
  · simp [State.finish, answered]
  · simp [State.finish, List.filter_append, warned, filter_serve]

theorem own (a : Accounts came s) (h : Own s t) : Accounts came t := by
  cases h with
  | take _ next => exact a.take next
  | stop | dry => exact a.leave _
  | resume | done => exact ⟨a.segment, a.served, a.warned⟩
  | finish open_eq _ => exact a.finish open_eq

theorem act (a : Accounts came s) (action : Action) :
    Accounts (came ++ s.gains action) (s.act action) := by
  obtain ⟨segment, ⟨done, served, answered⟩, warned⟩ := a
  cases action with
  | arrive arrival =>
    simp only [State.gains, State.act]
    split
    · refine ⟨?_, ⟨done, served, answered⟩, warned⟩
      rw [← List.append_assoc, List.map_append, segment, List.map_append]
    · exact ⟨by simpa using segment, ⟨done, served, answered⟩, warned⟩
  | exhaust | shutdown =>
    exact ⟨by simpa [State.gains, State.act] using segment, ⟨done, served, answered⟩, warned⟩
  | release =>
    refine ⟨?_, ⟨done, ?_, answered⟩, warned⟩
    · simpa [State.gains, State.act, Function.comp_def] using segment
    · simpa [State.act, Function.comp_def] using served

end Accounts

theorem Run.accounts (run : Run came s) : Accounts came s := by
  induction run with
  | start => exact .initial
  | own _ h ih => exact ih.own h
  | act action _ ih => exact ih.act action

-- What is so once the accept loop was left.
structure Left (ending : Ending) (s : State) : Prop where
  stage : s.stage.ending? = some ending
  reason : ending = .stopped ∧ s.shutdown = true ∨
    ending = .listenerClosed ∧ s.exhausted = true ∧ s.incoming = []
  told : ∀ visit ∈ s.active, visit.isTold = true
  done : s.isReturned = true → s.active = []

theorem State.left_leave {ending : Ending}
    (reason : ending = .stopped ∧ s.shutdown = true ∨
      ending = .listenerClosed ∧ s.exhausted = true ∧ s.incoming = []) :
    Left ending (s.leave ending) where
  stage := rfl
  reason := reason
  told := by simp [State.leave]
  done := nofun

namespace Left

variable {ending : Ending}

theorem own (l : Left ending s) (h : Own s t) : Left ending t ∧ t.taken = s.taken := by
  obtain ⟨stage, reason, told, done⟩ := l
  cases h with
  | take hs | stop hs | dry hs | resume hs =>
    rw [hs] at stage
    cases stage
  | @finish before after visit open_eq _ =>
    rw [open_eq] at told done
    have told : ∀ other ∈ before ++ after, other.isTold = true := by
      intro other mem
      refine told other ?_
      simp only [List.mem_append, List.mem_cons] at mem ⊢
      tauto
    exact ⟨⟨stage, reason, told, fun returned => absurd (done returned) (by simp)⟩, rfl⟩
  | done hs none_open =>
    rw [hs] at stage
    exact ⟨⟨stage, reason, told, fun _ => none_open⟩, rfl⟩

theorem act (l : Left ending s) (action : Action) :
    Left ending (s.act action) ∧ (s.act action).taken = s.taken := by
  obtain ⟨stage, reason, told, done⟩ := l
  cases action with
  | arrive arrival =>
    simp only [State.act]
    split
    · next accepts =>
      refine ⟨⟨stage, ?_, told, done⟩, rfl⟩
      rcases reason with stopped | ⟨_, exhausted, _⟩
      · exact .inl stopped
      · simp [State.accepts, exhausted] at accepts
    · exact ⟨⟨stage, reason, told, done⟩, rfl⟩
  | exhaust => exact ⟨⟨stage, reason.imp_right fun h => ⟨h.1, rfl, h.2.2⟩, told, done⟩, rfl⟩
  | shutdown => exact ⟨⟨stage, reason.imp_left fun h => ⟨h.1, rfl⟩, told, done⟩, rfl⟩
  | release =>
    refine ⟨⟨stage, reason.imp_right fun h => ⟨h.1, h.2.1, ?_⟩, ?_, ?_⟩, rfl⟩
    · simp [State.act, h.2.2]
    · simpa [State.act] using told
    · intro returned
      simp [State.act, done returned]

theorem step (l : Left ending s) (step : Step s t) : Left ending t ∧ t.taken = s.taken := by
  cases step with
  | own h => exact l.own h
  | act action => exact l.act action

-- Nothing is taken any more.
theorem taken_later (l : Left ending s) (later : ReflTransGen Step s t) : t.taken = s.taken := by
  have kept : Left ending t ∧ t.taken = s.taken := by
    refine kept_later (P := fun t => Left ending t ∧ t.taken = s.taken) ?_ ⟨l, rfl⟩ later
    rintro t u ⟨left, taken⟩ step
    obtain ⟨left', taken'⟩ := left.step step
    exact ⟨left', taken'.trans taken⟩
  exact kept.2

end Left

theorem State.act_stage (s : State) (action : Action) : (s.act action).stage = s.stage := by
  cases action with
  | arrive arrival => simp only [State.act]; split <;> rfl
  | exhaust | release | shutdown => rfl

theorem Run.left (run : Run came s) : ∀ ending, s.stage.ending? = some ending → Left ending s := by
  induction run with
  | start => nofun
  | @act _ s action _ ih =>
    intro ending left
    rw [s.act_stage action] at left
    exact ((ih ending left).act action).1
  | @own _ s t _ h ih =>
    intro ending left
    cases before : s.stage.ending? with
    | some other =>
      obtain ⟨l, _⟩ := (ih other before).own h
      cases l.stage.symm.trans left
      exact l
    | none =>
      -- Only the two steps that leave the loop lead out of it.
      cases h with
      | @take arrival rest hs _ =>
        cases arrival with
        | visit visit => rw [State.take, hs] at left; cases left
        | failure message => cases left
      | stop _ fired => cases left; exact State.left_leave (.inl ⟨rfl, fired⟩)
      | dry _ empty exhausted => cases left; exact State.left_leave (.inr ⟨rfl, exhausted, empty⟩)
      | resume => cases left
      | finish => cases left.symm.trans before
      | done hs _ => rw [hs] at before; cases before

-- A failed accept pauses the loop and touches no connection.
theorem own_failure {message : String} (h : Own s t)
    (taken : t.taken = s.taken ++ [.failure message]) :
    t.stage = .pausing ∧ t.active = s.active ∧ t.answered = s.answered := by
  cases h with
  | @take arrival rest _ _ =>
    cases arrival with
    | visit visit => simp [State.take] at taken
    | failure other => exact ⟨rfl, rfl, rfl⟩
  | stop | dry | resume | finish | done => simp [State.leave, State.finish] at taken

theorem step_pausing (pausing : s.stage = .pausing) (step : Step s t) :
    t.stage = .pausing ∨ t.stage = .listening := by
  cases step with
  | act action => exact .inl ((s.act_stage action).trans pausing)
  | own h =>
    cases h with
    | take hs | stop hs | dry hs | done hs => cases hs.symm.trans pausing
    | resume => exact .inr rfl
    | finish => exact .inl pausing

-- A step other than that clients let go of what they keep open.
inductive HoldingStep : State → State → Prop where
  | own {s t : State} : Own s t → HoldingStep s t
  | act {s : State} {action : Action} : action ≠ .release → HoldingStep s (s.act action)

structure Holding (s : State) : Prop where
  unreturned : s.isReturned = false
  held : ∃ visit ∈ s.active, visit.isHeld = true

theorem Holding.step (h : Holding s) (step : HoldingStep s t) : Holding t := by
  obtain ⟨unreturned, visit, active, held⟩ := h
  cases step with
  | own h =>
    cases h with
    | @take arrival rest hs _ =>
      cases arrival with
      | visit other => exact ⟨unreturned, visit, List.mem_append_left _ active, held⟩
      | failure message => exact ⟨rfl, visit, active, held⟩
    | stop | dry => exact ⟨rfl, visit.told, List.mem_map_of_mem active, held⟩
    | resume => exact ⟨rfl, visit, active, held⟩
    | @finish before after other open_eq idle =>
      have apart : visit ≠ other := by
        rintro rfl
        simp [held] at idle
      rw [open_eq] at active
      exact ⟨unreturned, visit, by simpa [State.finish, apart] using active, held⟩
    | done _ none_open => simp [none_open] at active
  | @act action clings =>
    cases action with
    | arrive arrival =>
      simp only [State.act]
      split <;> exact ⟨unreturned, visit, active, held⟩
    | exhaust | shutdown => exact ⟨unreturned, visit, active, held⟩
    | release => exact absurd rfl clings

namespace State

theorem later_advance (s : State) : ReflTransGen Step s s.advance := by
  fun_induction advance s with
  | case1 s t h ih => exact .head (.own (own_of_own? h)) ih
  | case2 => exact .refl

theorem later_act_advance (s : State) (action : Action) :
    ReflTransGen Step s (s.act action).advance :=
  .head (.act action) (later_advance _)

theorem later_perform (s : State) (command : Command) :
    ReflTransGen Step s (s.perform command).1 := by
  cases command with
  | settle => exact later_advance s
  | connect | hold | release | fail | shutdown | exhaust => exact later_act_advance s _

theorem later_performAll (s : State) (commands : List Command) :
    ReflTransGen Step s (s.performAll commands).1 := by
  induction commands generalizing s with
  | nil => exact .refl
  | cons command commands ih => exact (later_perform s command).trans (ih _)

-- What a script does to a backend is one of its runs, to the very end.
theorem exists_run_performAll (commands : List Command) :
    ∃ came, Run came (State.initial.performAll commands).1.conclude := by
  have scripted := later_performAll .initial commands
  have concluded := (scripted.tail (.act .release)).trans (later_act_advance _ .exhaust)
  exact Run.start.later concluded

end State

-- However connections, failures, a shutdown and the end of the listener interleave with the
-- loop: nothing that it has taken is lost, a failure stops it for a pause only, and it is
-- left for a reason, with everything open told to end. The backend returns for that reason
-- and only once nothing is open, and a client that holds on keeps it from that.
theorem loop_left_for_a_reason (run : Run came s) :
    Accounts came s ∧
    (∀ t message, Own s t → t.taken = s.taken ++ [.failure message] →
      t.stage = .pausing ∧ t.active = s.active ∧ t.answered = s.answered) ∧
    (s.stage = .pausing → Own s { s with stage := .listening } ∧
      ∀ t, Step s t → t.stage = .pausing ∨ t.stage = .listening) ∧
    (∀ ending, s.stage.ending? = some ending →
      (s.shutdown = true ∨ s.exhausted = true ∧ s.incoming = []) ∧
      (∀ visit ∈ s.active, visit.isTold = true) ∧
      ∀ t, ReflTransGen Step s t → t.taken = s.taken) ∧
    (∀ ending, s.stage = .returned ending →
      s.active = [] ∧ (ending.result = .ok () → s.shutdown = true) ∧
      ∀ message, ending.result = .error message →
        message = "mock http server listener closed" ∧ s.exhausted = true ∧
        s.taken.map Arrival.released = came.map Arrival.released) ∧
    ((∃ visit ∈ s.active, visit.isHeld = true) →
      ∀ t, ReflTransGen HoldingStep s t → t.isReturned = false) := by
  have accounts := run.accounts
  refine ⟨accounts, fun t message => own_failure, fun pausing => ?_, fun ending left => ?_,
    fun ending returned => ?_, fun held t later => ?_⟩
  · exact ⟨.resume pausing, fun t => step_pausing pausing⟩
  · have l := run.left ending left
    exact ⟨l.reason.imp (·.2) (·.2), l.told, fun t => l.taken_later⟩
  · have l := run.left ending (by rw [returned]; rfl)
    refine ⟨l.done (by rw [State.isReturned, returned]), ?_, ?_⟩
    · intro fine
      rcases l.reason with ⟨_, fired⟩ | ⟨rfl, _⟩
      · exact fired
      · cases fine
    · intro message failed
      rcases l.reason with ⟨rfl, _⟩ | ⟨rfl, exhausted, empty⟩
      · cases failed
      · cases failed
        exact ⟨rfl, exhausted, by simpa [empty] using accounts.segment⟩
  · obtain ⟨visit, active, isHeld⟩ := held
    have unreturned : s.isReturned = false := by
      cases returned : s.stage with
      | returned ending =>
        have l := run.left ending (by rw [returned]; rfl)
        have none_open := l.done (by rw [State.isReturned, returned])
        simp [none_open] at active
      | listening | pausing | draining => rw [State.isReturned, returned]
    have holding : Holding s := ⟨unreturned, visit, active, isHeld⟩
    exact (kept_later (P := Holding) Holding.step holding later).unreturned

-- One client holds on to its connection while an accept fails. The shutdown comes in the
-- pause after that, and one more connection is taken before it is seen.
theorem held_visit_outlasts_shutdown :
    let held : Visit := ⟨[], true, false⟩
    let brief : Visit := ⟨[], false, false⟩
    ∃ s, Run [.visit held, .failure "too many open files", .visit brief] s ∧
      s.stage = .draining .stopped ∧ s.active = [held.told, brief.told] ∧
      (s.log.filter isAcceptWarning).length = 1 ∧
      ∀ t, ReflTransGen HoldingStep s t → t.isReturned = false := by
  intro held brief
  have first := (Run.start.act (.arrive (.visit held))).own (.take rfl rfl)
  have failed := (first.act (.arrive (.failure "too many open files"))).own (.take rfl rfl)
  have told := (failed.act .shutdown).act (.arrive (.visit brief))
  have run := ((told.own (.resume rfl)).own (.take rfl rfl)).own (.stop rfl rfl)
  obtain ⟨accounts, _, _, _, _, clings⟩ := loop_left_for_a_reason run
  refine ⟨_, run, rfl, rfl, ?_, clings ⟨held.told, .head _, rfl⟩⟩
  rw [accounts.warned]
  rfl

end RoutingProcessor.Backend
