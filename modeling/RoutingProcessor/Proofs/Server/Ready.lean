import Mathlib.Order.Monotone.Basic
import RoutingProcessor.Proofs.Steps
import RoutingProcessor.Server.Session

namespace RoutingProcessor.Server

open Relation

namespace Wait

variable {probe : Duration → Probe} {deadline : Duration} {w t : Wait} {result : Bool} {n : Nat}

-- A wait after a number of questions.
def polled (probe : Duration → Probe) : Nat → Wait
  | 0 => initial
  | n + 1 => (polled probe n).ask probe

-- When each question is put if the wait gets so far.
def question (probe : Duration → Probe) (n : Nat) : Duration := (polled probe n).next

theorem question_strictMono (probe : Duration → Probe) :
    StrictMono fun n => (question probe n).nanos :=
  strictMono_nat_of_lt_succ fun n => next_lt_next_ask probe (polled probe n)

-- Answers that come within the interval put no question off.
theorem question_of_prompt (prompt : ∀ time, (probe time).takes.nanos ≤ pollInterval.nanos) (n : Nat) :
    (question probe n).nanos = (n + 1) * pollInterval.nanos := by
  have schedule : (polled probe n).due.nanos = (n + 1) * pollInterval.nanos ∧
      (polled probe n).now.nanos ≤ (polled probe n).due.nanos := by
    induction n with
    | zero => simp [polled, initial, Duration.zero]
    | succ n ih =>
      have next : (polled probe n).next.nanos = (polled probe n).due.nanos := Nat.max_eq_right ih.2
      have now : (polled probe (n + 1)).now.nanos =
          (polled probe n).next.nanos + (probe (polled probe n).next).takes.nanos := rfl
      have due : (polled probe (n + 1)).due.nanos =
          (polled probe n).due.nanos + pollInterval.nanos := by
        simp [polled, ask, next]
      have takes := prompt (polled probe n).next
      rw [Nat.add_mul, Nat.one_mul, ← ih.1]
      omega
  rw [← schedule.1]
  exact Nat.max_eq_right schedule.2

theorem result_polled (unready : ∀ k < n, (probe (question probe k)).isReady = false) :
    (polled probe n).result = none := by
  cases n with
  | zero => rfl
  | succ n =>
    have last : (probe (polled probe n).next).isReady = false := unready n (Nat.lt_succ_self n)
    simp [polled, ask, last]

theorem asked_polled (probe : Duration → Probe) (n : Nat) :
    (polled probe n).asked = (List.range n).map (question probe) := by
  induction n with
  | zero => rfl
  | succ n ih =>
    rw [List.range_succ, List.map_append, ← ih]
    rfl

-- Nothing happens once a wait is over.
theorem Step.going (step : Step probe deadline w t) : w.result = none := by
  cases step with
  | ask going _ | expire going _ => exact going

theorem due_or_late (w : Wait) (deadline : Duration) :
    w.due.nanos ≤ max w.now.nanos deadline.nanos ∨ deadline.nanos < w.next.nanos := by
  simp only [next]
  omega

-- How a wait can stand: no question has found the server to be ready, or the last one has, or
-- none was due before the deadline any more.
inductive Course (probe : Duration → Probe) (deadline : Duration) : Wait → Prop where
  | asking {n : Nat} (unready : ∀ k < n, (probe (question probe k)).isReady = false) :
    Course probe deadline (polled probe n)
  | found {n : Nat} (ready : (probe (question probe n)).isReady = true) :
    Course probe deadline (polled probe (n + 1))
  | expired {n : Nat} (unready : ∀ k < n, (probe (question probe k)).isReady = false)
    (late : deadline.nanos ≤ (question probe n).nanos) :
    Course probe deadline ((polled probe n).expire deadline)

theorem result_of_found (ready : (probe (question probe n)).isReady = true) :
    (polled probe (n + 1)).result = some true := by
  have last : (probe (polled probe n).next).isReady = true := ready
  simp [polled, ask, last]

theorem Course.step (course : Course probe deadline w) (step : Step probe deadline w t) :
    Course probe deadline t := by
  cases course with
  | @asking n unready =>
    cases step with
    | ask _ _ =>
      cases answer : (probe (question probe n)).isReady with
      | true => exact .found answer
      | false =>
        refine .asking (n := n + 1) fun k before => ?_
        rcases Nat.lt_succ_iff_lt_or_eq.1 before with earlier | rfl
        · exact unready k earlier
        · exact answer
    | expire _ late => exact .expired unready late
  | found ready => cases step.going.symm.trans (result_of_found ready)
  | expired => cases step.going

theorem Course.later (later : ReflTransGen (Step probe deadline) initial w) :
    Course probe deadline w :=
  kept_later (P := Course probe deadline) Course.step (.asking (n := 0) nofun) later

-- A wait that is given up has put every question that was due before the deadline.
theorem Course.of_expired (course : Course probe deadline w) (expired : w.result = some false) :
    (∀ time ∈ w.asked, (probe time).isReady = false) ∧
      ∀ n, (question probe n).nanos < deadline.nanos → question probe n ∈ w.asked := by
  cases course with
  | asking unready => cases (result_polled unready).symm.trans expired
  | found ready => cases (result_of_found ready).symm.trans expired
  | @expired n unready late =>
    have asked : ((polled probe n).expire deadline).asked = (List.range n).map (question probe) :=
      asked_polled probe n
    rw [asked]
    constructor
    · simpa using unready
    · intro k due
      have before : k < n := (question_strictMono probe).lt_iff_lt.1 (due.trans_le late)
      exact List.mem_map_of_mem (List.mem_range.2 before)

theorem Course.of_ready (course : Course probe deadline w) (seen : w.result = some true) :
    ∃ time ∈ w.asked, (probe time).isReady = true := by
  cases course with
  | asking unready => cases (result_polled unready).symm.trans seen
  | @found n ready =>
    refine ⟨question probe n, ?_, ready⟩
    rw [asked_polled]
    exact List.mem_map_of_mem List.self_mem_range_succ
  | expired => cases seen

theorem exists_step (going : w.result = none) : ∃ t, Step probe deadline w t := by
  rcases w.due_or_late deadline with due | late
  · exact ⟨_, .ask going due⟩
  · exact ⟨_, .expire going late.le⟩

-- The wait ends with this result, whatever happens.
inductive Returns (probe : Duration → Probe) (deadline : Duration) (result : Bool) : Wait → Prop where
  | done {w : Wait} : w.result = some result → Returns probe deadline result w
  | goes {w : Wait} : (∃ t, Step probe deadline w t) →
    (∀ t, Step probe deadline w t → Returns probe deadline result t) →
    Returns probe deadline result w

theorem Returns.of_step (returns : Returns probe deadline result w) (step : Step probe deadline w t) :
    Returns probe deadline result t := by
  cases returns with
  | done ended => cases step.going.symm.trans ended
  | goes _ next => exact next t step

theorem Returns.result_eq (returns : Returns probe deadline result w) {other : Bool}
    (ended : w.result = some other) : other = result := by
  cases returns with
  | done known => exact Option.some.inj (ended.symm.trans known)
  | goes can _ =>
    obtain ⟨t, step⟩ := can
    cases step.going.symm.trans ended

theorem result_ask_initial (ready : ∀ time, (probe time).isReady = true) :
    (initial.ask probe).result = some true :=
  result_of_found (n := 0) (ready _)

theorem returns_true_iff (ready : ∀ time, (probe time).isReady = true) :
    Returns probe deadline true initial ↔ pollInterval.nanos < deadline.nanos := by
  constructor
  · intro returns
    by_contra short
    have expires := returns.of_step (.expire rfl (Nat.le_of_not_lt short))
    cases expires.result_eq rfl
  · intro long
    refine .goes (exists_step rfl) fun t step => .done ?_
    cases step with
    | ask => exact result_ask_initial ready
    | expire _ late => exact absurd late (Nat.not_le.2 long)

-- A wait that is shorter than the interval asks nothing.
theorem returns_false_of_short (short : deadline.nanos < pollInterval.nanos) :
    Returns probe deadline false initial := by
  refine .goes (exists_step rfl) fun t step => .done ?_
  cases step with
  | ask _ due =>
    have none_due : initial.due.nanos ≤ deadline.nanos := by simpa [initial, Duration.zero] using due
    exact absurd none_due (Nat.not_le.2 short)
  | expire => rfl

theorem returns_false_iff (ready : ∀ time, (probe time).isReady = true) :
    Returns probe deadline false initial ↔ deadline.nanos < pollInterval.nanos := by
  constructor
  · intro returns
    by_contra long
    have due : initial.due.nanos ≤ max initial.now.nanos deadline.nanos :=
      (Nat.le_of_not_lt long).trans (Nat.le_max_right _ _)
    cases (returns.of_step (.ask rfl due)).result_eq (result_ask_initial ready)
  · exact returns_false_of_short

-- The schedule of the program is one of the ways in which a wait can end.
theorem later_finish (going : w.result = none) :
    ReflTransGen (Step probe deadline) w (w.finish probe deadline) ∧
      (w.finish probe deadline).result ≠ none := by
  fun_induction finish probe deadline w with
  | case1 w late => exact ⟨.single (.expire going late.le), nofun⟩
  | case2 w before ready =>
    have due := (w.due_or_late deadline).resolve_right before
    exact ⟨.single (.ask going due), by simp [ask, ready]⟩
  | case3 w before unready ih =>
    have due := (w.due_or_late deadline).resolve_right before
    obtain ⟨later, ended⟩ := ih (by simp [ask, unready])
    exact ⟨.head (.ask going due) later, ended⟩

theorem result_finish_of_ready (ready : ∀ time, (probe time).isReady = true) :
    (initial.finish probe deadline).result = some (decide (pollInterval.nanos ≤ deadline.nanos)) := by
  have first : initial.next = pollInterval := rfl
  rw [finish, first]
  by_cases short : deadline.nanos < pollInterval.nanos
  · simp [short, expire]
  · rw [if_neg short, if_pos (ready _), result_ask_initial ready]
    simp [Nat.le_of_not_lt short]

end Wait

namespace Session

-- Without a mock backend a server is ready at all times.
theorem isReady_probe_of_unbacked (setup : Setup)
    (unbacked : setup.config.server.mockBackend = none) (s : Session) (time : Duration) :
    (s.probe setup time).isReady = true := by
  simp [probe, isReady, unbacked]

theorem report_waitReady {setup : Setup} {s : Session} (wait : Duration)
    (ready : ∀ time, ((s.settle setup).probe setup time).isReady = true) :
    (s.perform setup (.waitReady wait)).2 =
      if pollInterval.nanos ≤ wait.nanos then .ready true
      else .failed (lifecycleFailure (.notReady wait)) := by
  simp only [perform, waitReport, Wait.result_finish_of_ready ready, Option.some.injEq,
    decide_eq_true_eq]

end Session

-- A server that is ready throughout is found to be so if the wait is longer than one interval,
-- and is not if it is shorter; if it is as long, both can happen. A wait finds a server to be
-- ready only if it is told so. One that is given up has asked whenever that was due before the
-- deadline, which is once in an interval if the answers are prompt, and was told no each
-- time. The waits of a session are among these, and go on with a question that is due at the
-- deadline.
theorem ready_server_found_iff (probe : Duration → Probe) (wait : Duration) :
    ((∀ time, (probe time).isReady = true) →
      (Wait.Returns probe wait true .initial ↔ pollInterval.nanos < wait.nanos) ∧
        (Wait.Returns probe wait false .initial ↔ wait.nanos < pollInterval.nanos)) ∧
      (∀ w, ReflTransGen (Wait.Step probe wait) .initial w →
        (w.result = some true → ∃ time ∈ w.asked, (probe time).isReady = true) ∧
          (w.result = some false → (∀ time ∈ w.asked, (probe time).isReady = false) ∧
            ∀ n, (Wait.question probe n).nanos < wait.nanos → Wait.question probe n ∈ w.asked)) ∧
      ((∀ time, (probe time).takes.nanos ≤ pollInterval.nanos) →
        ∀ n, (Wait.question probe n).nanos = (n + 1) * pollInterval.nanos) ∧
      ∀ (setup : Setup) (s : Session),
        (∃ w, ReflTransGen (Wait.Step ((s.settle setup).probe setup) wait) .initial w ∧
          w.result ≠ none ∧ (s.perform setup (.waitReady wait)).2 = Session.waitReport wait w) ∧
        ((∀ time, ((s.settle setup).probe setup time).isReady = true) ∨
            setup.config.server.mockBackend = none →
          (s.perform setup (.waitReady wait)).2 =
            if pollInterval.nanos ≤ wait.nanos then .ready true
            else .failed (Session.lifecycleFailure (.notReady wait))) := by
  refine ⟨fun ready => ⟨Wait.returns_true_iff ready, Wait.returns_false_iff ready⟩,
    fun w later => ⟨(Wait.Course.later later).of_ready, (Wait.Course.later later).of_expired⟩,
    Wait.question_of_prompt, fun setup s => ⟨?_, ?_⟩⟩
  · obtain ⟨later, ended⟩ := Wait.later_finish (w := .initial) rfl
    exact ⟨_, later, ended, rfl⟩
  · rintro (ready | unbacked)
    · exact Session.report_waitReady wait ready
    · exact Session.report_waitReady wait (Session.isReady_probe_of_unbacked setup unbacked _)

-- A server without a mock backend.
def unbacked : Setup := ⟨.default, ⟨[], 49152, fun _ => false⟩, fun _ => .unreachable⟩

-- It is ready as it is, before anybody has started it, and a wait of 700 ms finds that out.
theorem unstarted_found_after_interval :
    let s := Session.initial ⟨[]⟩
    (∀ time, (s.probe unbacked time).isReady = true) ∧
      Wait.Returns (s.probe unbacked) (.ofMillis 700) true .initial ∧
      (s.perform unbacked (.waitReady (.ofMillis 700))).2 = .ready true := by
  intro s
  have ready := Session.isReady_probe_of_unbacked unbacked rfl s
  obtain ⟨found, -, -, sessions⟩ := ready_server_found_iff (s.probe unbacked) (.ofMillis 700)
  exact ⟨ready, (found ready).1.2 (by decide), (sessions unbacked s).2 (.inr rfl)⟩

-- A wait of 300 ms is given up without having asked it.
theorem unstarted_missed_by_short_wait :
    ¬(∀ (probe : Duration → Probe) (wait : Duration), (∀ time, (probe time).isReady = true) →
        0 < wait.nanos → Wait.Returns probe wait true .initial) ∧
      let s := Session.initial ⟨[]⟩
      (s.perform unbacked .isReady).2 = .ready true ∧
        (s.perform unbacked (.waitReady (.ofMillis 300))).2 =
          .failed (Session.lifecycleFailure (.notReady (.ofMillis 300))) := by
  have ready := Session.isReady_probe_of_unbacked unbacked rfl
  refine ⟨fun law => ?_, rfl, Session.report_waitReady _ (ready _)⟩
  have returns := law _ (.ofMillis 300) (ready (.initial ⟨[]⟩)) (by decide)
  exact absurd ((Wait.returns_true_iff (ready _)).1 returns) (by decide)

end RoutingProcessor.Server
