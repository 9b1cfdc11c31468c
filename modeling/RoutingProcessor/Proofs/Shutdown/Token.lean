import Mathlib.Data.List.Induction
import RoutingProcessor.Shutdown.Bridge

namespace RoutingProcessor.Shutdown

-- The signals of a script that are broadcast: nobody can do so once the senders are gone.
def signals : List Command → List Signal
  | [] => []
  | .broadcast signal :: commands => signal :: signals commands
  | .drop :: _ => []
  | .settle :: commands => signals commands

-- Whenever the bridge ran, nothing had happened before.
def Unnoticed (commands : List Command) : Prop :=
  ∀ before later, commands = before ++ .settle :: later → ∀ command ∈ before, command = .settle

-- What the bridge logs when it receives a signal.
def signalEvent (signal : Signal) : Log.Event :=
  event .info ("Shutting down on " ++ signal.name)

theorem signalEvent_ne_closedEvent (signal : Signal) (reason : String) :
    signalEvent signal ≠ Bridge.closedEvent reason := by
  simp [signalEvent, Bridge.closedEvent, event, Log.Event.plain]

section Scripts

variable {commands : List Command} {command : Command}

theorem signals_append_of_dropped (dropped : .drop ∈ commands) (later : List Command) :
    signals (commands ++ later) = signals commands := by
  induction commands with
  | nil => cases dropped
  | cons first commands ih =>
    cases first with
    | drop => rfl
    | broadcast | settle => simp_all [signals]

theorem signals_append_of_kept (kept : .drop ∉ commands) (later : List Command) :
    signals (commands ++ later) = signals commands ++ signals later := by
  induction commands with
  | nil => rfl
  | cons first commands ih =>
    cases first with
    | drop => simp at kept
    | broadcast | settle => simp_all [signals]

-- The signals of a script begin with those of a part of it.
theorem signals_prefix_append (commands later : List Command) :
    signals commands <+: signals (commands ++ later) := by
  by_cases dropped : .drop ∈ commands
  · simp [signals_append_of_dropped dropped]
  · simp [signals_append_of_kept dropped]

-- Without a signal and without a drop, the bridge has only run.
theorem eq_settle_of_silent (none_sent : signals commands = []) (kept : .drop ∉ commands) :
    ∀ command ∈ commands, command = .settle := by
  induction commands with
  | nil => simp
  | cons first commands ih =>
    cases first with
    | drop => simp at kept
    | broadcast => simp [signals] at none_sent
    | settle =>
      rw [List.forall_mem_cons]
      exact ⟨rfl, ih none_sent (List.not_mem_of_not_mem_cons kept)⟩

theorem signals_of_eq_settle (only : ∀ command ∈ commands, command = .settle) :
    signals commands = [] := by
  induction commands with
  | nil => rfl
  | cons first commands ih =>
    rw [List.forall_mem_cons] at only
    rw [only.1]
    exact ih only.2

theorem unnoticed_concat_iff : Unnoticed (commands ++ [command]) ↔
    Unnoticed commands ∧ (command = .settle → ∀ earlier ∈ commands, earlier = .settle) := by
  constructor
  · intro unnoticed
    refine ⟨?_, ?_⟩
    · rintro before later rfl
      exact unnoticed before (later ++ [command]) (by simp)
    · rintro rfl
      exact unnoticed commands [] rfl
  · rintro ⟨unnoticed, last⟩ before later split
    rcases List.eq_nil_or_concat later with rfl | ⟨rest, final, rfl⟩
    · obtain ⟨rfl, same⟩ := List.append_inj' split rfl
      exact last (by simpa using same)
    · have same : commands ++ [command] = (before ++ .settle :: rest) ++ [final] := by
        simpa using split
      exact unnoticed before rest (List.append_inj' same rfl).1

-- What has been noticed was noticed at a first time.
theorem exists_noticed (noticed : ¬Unnoticed commands) :
    ∃ before later, commands = before ++ .settle :: later ∧ Unnoticed before ∧
      ∃ command ∈ before, command ≠ .settle := by
  induction commands using List.reverseRecOn with
  | nil =>
    refine absurd ?_ noticed
    intro before later split
    simp at split
  | append_singleton commands last ih =>
    by_cases unnoticed : Unnoticed commands
    · have final : last = .settle ∧ ∃ command ∈ commands, command ≠ .settle := by
        simpa [unnoticed_concat_iff, unnoticed] using noticed
      obtain ⟨rfl, stirred⟩ := final
      exact ⟨commands, [], rfl, unnoticed, stirred⟩
    · obtain ⟨before, later, rfl, first, stirred⟩ := ih unnoticed
      exact ⟨before, later ++ [last], by simp, first, stirred⟩

end Scripts

namespace Bridge

-- What a script of commands leads to.
def after (b : Bridge) (commands : List Command) : Bridge := (b.history commands).getLastD b

variable {b : Bridge} {capacity : Nat} {commands : List Command} {command : Command}

theorem after_cons (b : Bridge) (command : Command) (commands : List Command) :
    b.after (command :: commands) = (b.perform command).after commands :=
  List.getLastD_cons

theorem after_append (b : Bridge) (commands later : List Command) :
    b.after (commands ++ later) = (b.after commands).after later := by
  induction commands generalizing b with
  | nil => rfl
  | cons first commands ih => rw [List.cons_append, after_cons, after_cons, ih]

-- A token that has fired stays so, and nothing is logged any more.
theorem perform_of_fired (fired : b.isFired) (command : Command) :
    (b.perform command).isFired ∧ (b.perform command).log = b.log := by
  cases command with
  | broadcast | settle => simp [perform, broadcast, run, fired]
  | drop => exact ⟨fired, rfl⟩

theorem after_of_fired (fired : b.isFired) (commands : List Command) :
    (b.after commands).isFired ∧ (b.after commands).log = b.log := by
  induction commands generalizing b with
  | nil => exact ⟨fired, rfl⟩
  | cons first commands ih =>
    obtain ⟨still, same⟩ := perform_of_fired fired first
    rw [after_cons, ← same]
    exact ih still

-- The bridge of a script during which it has received nothing.
structure Waits (capacity : Nat) (commands : List Command) (b : Bridge) : Prop where
  capacity : b.capacity = capacity
  sent : b.sent = signals commands
  isClosed : b.isClosed ↔ .drop ∈ commands
  unfired : b.isFired = false
  silent : b.log = []

theorem Waits.broadcast (w : Waits capacity commands b) (signal : Signal) :
    Waits capacity (commands ++ [.broadcast signal]) (b.broadcast signal) := by
  have closed : b.isClosed = true ↔ .drop ∈ commands ++ [.broadcast signal] := by
    simpa using w.isClosed
  by_cases dropped : .drop ∈ commands
  · have refused : b.broadcast signal = b := by simp [Bridge.broadcast, w.isClosed.2 dropped]
    rw [refused]
    refine ⟨w.capacity, ?_, closed, w.unfired, w.silent⟩
    rw [w.sent, signals_append_of_dropped dropped]
  · have accepted : b.broadcast signal = { b with sent := b.sent ++ [signal] } := by
      simp [Bridge.broadcast, w.unfired, mt w.isClosed.1 dropped]
    rw [accepted]
    refine ⟨w.capacity, ?_, closed, w.unfired, w.silent⟩
    rw [signals_append_of_kept dropped, ← w.sent]
    rfl

theorem Waits.drop (w : Waits capacity commands b) : Waits capacity (commands ++ [.drop]) b.drop := by
  refine ⟨w.capacity, ?_, by simp [Bridge.drop], w.unfired, w.silent⟩
  have same : signals (commands ++ [.drop]) = signals commands := by
    by_cases dropped : .drop ∈ commands
    · exact signals_append_of_dropped dropped _
    · simp [signals_append_of_kept dropped, signals]
  rw [same]
  exact w.sent

theorem Waits.run (w : Waits capacity commands b) (only : ∀ command ∈ commands, command = .settle) :
    Waits capacity (commands ++ [.settle]) b.run := by
  have kept : .drop ∉ commands := fun dropped => by cases only _ dropped
  have nothing : b.reception? = none := by
    simp [reception?, w.sent, signals_of_eq_settle only, mt w.isClosed.1 kept]
  have same : b.run = b := by simp [Bridge.run, w.unfired, nothing]
  rw [same]
  refine ⟨w.capacity, ?_, by simpa using w.isClosed, w.unfired, w.silent⟩
  rw [w.sent, signals_append_of_kept kept]
  simp [signals]

theorem waits_of_unnoticed (capacity : Nat) (unnoticed : Unnoticed commands) :
    Waits capacity commands ((initial capacity).after commands) := by
  induction commands using List.reverseRecOn with
  | nil => exact ⟨rfl, rfl, by simp [after, history, initial], rfl, rfl⟩
  | append_singleton commands last ih =>
    obtain ⟨earlier, only⟩ := unnoticed_concat_iff.1 unnoticed
    have waits := ih earlier
    rw [after_append]
    cases last with
    | broadcast signal => exact waits.broadcast signal
    | drop => exact waits.drop
    | settle => exact waits.run (only rfl)

-- What is logged of the signals that were sent before the bridge ran. What does not fit into the
-- channel hides even the first of them.
inductive Notice (capacity : Nat) : List Signal → Log.Event → Prop where
  | named {first : Signal} {rest : List Signal} (fits : rest.length + 1 ≤ capacity) :
    Notice capacity (first :: rest) (signalEvent first)
  | closed : Notice capacity [] (closedEvent "channel closed")
  | lagged {sent : List Signal} (more : capacity < sent.length) :
    Notice capacity sent
      (closedEvent ("channel lagged by " ++ toString (sent.length - capacity)))

theorem Notice.names_iff {sent all : List Signal} {logged : Log.Event} (notice : Notice capacity sent logged)
    (starts : sent <+: all) : (∃ first, all.head? = some first ∧ logged = signalEvent first) ↔
      0 < sent.length ∧ sent.length ≤ capacity := by
  cases notice with
  | named fits =>
    obtain ⟨later, rfl⟩ := starts
    exact iff_of_true ⟨_, rfl, rfl⟩ ⟨Nat.succ_pos _, fits⟩
  | closed =>
    refine iff_of_false ?_ fun ⟨some_sent, _⟩ => absurd some_sent (Nat.lt_irrefl 0)
    rintro ⟨first, -, named⟩
    exact signalEvent_ne_closedEvent first _ named.symm
  | lagged more =>
    refine iff_of_false ?_ fun ⟨_, fits⟩ => absurd more (Nat.not_lt.2 fits)
    rintro ⟨first, -, named⟩
    exact signalEvent_ne_closedEvent first _ named.symm

theorem Notice.eq_closed {logged : Log.Event} (notice : Notice capacity [] logged) :
    logged = closedEvent "channel closed" := by
  cases notice with
  | closed => rfl
  | lagged more => exact absurd more (Nat.not_lt_zero _)

theorem Notice.eq_lagged {sent : List Signal} {logged : Log.Event} (notice : Notice capacity sent logged)
    (more : capacity < sent.length) :
    logged = closedEvent ("channel lagged by " ++ toString (sent.length - capacity)) := by
  cases notice with
  | named fits => exact absurd more (Nat.not_lt.2 fits)
  | closed => exact absurd more (Nat.not_lt_zero _)
  | lagged => rfl

-- Once something has happened there is something to receive.
theorem Waits.exists_reception (w : Waits capacity commands b)
    (stirred : ∃ command ∈ commands, command ≠ .settle) :
    ∃ received, b.reception? = some received ∧ Notice capacity (signals commands) received := by
  by_cases more : capacity < (signals commands).length
  · exact ⟨_, by simp [reception?, w.sent, w.capacity, more], .lagged more⟩
  cases sent : signals commands with
  | nil =>
    have dropped : .drop ∈ commands := by
      by_contra kept
      obtain ⟨command, among, moved⟩ := stirred
      exact moved (eq_settle_of_silent sent kept command among)
    exact ⟨_, by simp [reception?, w.sent, sent, w.isClosed.2 dropped], .closed⟩
  | cons first rest =>
    have fits : rest.length + 1 ≤ capacity := by simpa [sent] using more
    refine ⟨signalEvent first, ?_, .named fits⟩
    simp [reception?, w.sent, w.capacity, sent, signalEvent, Nat.not_lt.2 fits]

-- The run that notices something, and what the token and the log are from then on.
theorem exists_moment (capacity : Nat) (noticed : ¬Unnoticed commands) :
    ∃ before later logged, commands = before ++ .settle :: later ∧
      (∃ command ∈ before, command ≠ .settle) ∧
      ((initial capacity).after before).isFired = false ∧
      Notice capacity (signals before) logged ∧
      ((initial capacity).after (before ++ [.settle])).isFired ∧
      ((initial capacity).after (before ++ [.settle])).log = [logged] ∧
      ((initial capacity).after commands).isFired ∧
      ((initial capacity).after commands).log = [logged] := by
  obtain ⟨before, later, split, first, stirred⟩ := exists_noticed noticed
  have waits : Waits capacity before ((initial capacity).after before) :=
    waits_of_unnoticed capacity first
  obtain ⟨logged, received, notice⟩ := waits.exists_reception stirred
  have runs : (initial capacity).after (before ++ [.settle]) =
      ((initial capacity).after before).run := after_append ..
  obtain ⟨fires, logs⟩ : ((initial capacity).after (before ++ [.settle])).isFired ∧
      ((initial capacity).after (before ++ [.settle])).log = [logged] := by
    simp [runs, run, waits.unfired, received, waits.silent]
  have whole : (initial capacity).after commands =
      ((initial capacity).after (before ++ [.settle])).after later := by
    rw [split, ← after_append, List.append_assoc, List.singleton_append]
  obtain ⟨fired, kept⟩ := after_of_fired fires later
  rw [← whole] at fired kept
  exact ⟨before, later, logged, split, stirred, waits.unfired, notice, fires, logs, fired,
    kept.trans logs⟩

-- The token fires when the bridge first runs after a signal or the end of the channel, and
-- stays fired. Until then nothing is logged; then one event is, which names the first of
-- all signals if those sent by then fit into the channel, whether or not the senders are
-- gone. If there were none, or too many, it is a warning that the channel is closed.
theorem token_fires_once (capacity : Nat) (commands : List Command) :
    let bridge := (initial capacity).after commands
    (bridge.isFired ↔ ∃ before later, commands = before ++ .settle :: later ∧
      ∃ command ∈ before, command ≠ .settle) ∧
    (bridge.isFired = false → bridge.log = []) ∧
    (bridge.isFired →
      (∀ later, (bridge.after later).isFired ∧ (bridge.after later).log = bridge.log) ∧
      ∃ before later, commands = before ++ .settle :: later ∧
        ((initial capacity).after before).isFired = false ∧
        ((initial capacity).after (before ++ [.settle])).isFired ∧
        ((initial capacity).after (before ++ [.settle])).log = bridge.log ∧
        ((∃ first, (signals commands).head? = some first ∧ bridge.log = [signalEvent first]) ↔
          0 < (signals before).length ∧ (signals before).length ≤ capacity) ∧
        ((signals before).length = 0 → bridge.log = [closedEvent "channel closed"]) ∧
        (capacity < (signals before).length → bridge.log = [closedEvent
          ("channel lagged by " ++ toString ((signals before).length - capacity))])) := by
  intro bridge
  by_cases unnoticed : Unnoticed commands
  · have waits : Waits capacity commands bridge := waits_of_unnoticed capacity unnoticed
    refine ⟨?_, fun _ => waits.silent, fun fired => by simp [waits.unfired] at fired⟩
    simp only [waits.unfired, Bool.false_eq_true, false_iff]
    rintro ⟨before, later, split, command, among, moved⟩
    exact moved (unnoticed before later split command among)
  obtain ⟨before, later, logged, split, stirred, unfired, notice, fires, logs, fired, log⟩ :=
    exists_moment capacity unnoticed
  have starts : signals before <+: signals commands :=
    split ▸ signals_prefix_append before (.settle :: later)
  refine ⟨iff_of_true fired ⟨before, later, split, stirred⟩, by simp [fired, bridge], fun _ =>
    ⟨after_of_fired fired, before, later, split, unfired, fires, logs.trans log.symm, ?_, ?_, ?_⟩⟩
  · simpa [bridge, log] using notice.names_iff starts
  · intro empty
    rw [List.length_eq_zero_iff.1 empty] at notice
    exact log.trans (by rw [notice.eq_closed])
  · intro more
    exact log.trans (by rw [notice.eq_lagged more])

-- Two signals and the end of the channel before the bridge runs: with room for both the
-- first is named, and with room for one the second drives it out.
example : ((initial 2).after [.broadcast .terminate, .broadcast .interrupt, .drop, .settle]).log =
      [signalEvent .terminate] ∧
    ((initial 1).after [.broadcast .terminate, .broadcast .interrupt, .drop, .settle]).log =
      [closedEvent "channel lagged by 1"] := ⟨rfl, rfl⟩

end Bridge

end RoutingProcessor.Shutdown
