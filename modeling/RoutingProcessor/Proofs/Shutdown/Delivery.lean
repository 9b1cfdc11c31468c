import RoutingProcessor.Proofs.Steps
import RoutingProcessor.Shutdown.Handler

namespace RoutingProcessor.Shutdown

open Relation

namespace Handler

-- The token has fired, or the bridge has the signal or the end of the channel still to
-- receive.
def Keeps (h : Handler) (signal : Signal) : Prop :=
  ∃ bridge, h.bridge = some bridge ∧
    (bridge.isFired = true ∨ signal ∈ bridge.sent ∨ bridge.isClosed = true)

-- Nobody has subscribed, or the subscriber has received nothing and nothing waits for it.
def IsQuiet (h : Handler) : Prop :=
  h.bridge = none ∨ h.bridge = some (.initial defaultCapacity)

end Handler

-- What the handler logs of a signal that it could give to nobody.
def lossEvent : Log.Event := event .warn "Failed to send shutdown signal: channel closed"

theorem receivedEvent_ne_lossEvent (signal : Signal) :
    event .info ("Received " ++ signal.name ++ " signal, initiating shutdown...") ≠ lossEvent := by
  simp [event, lossEvent, Log.Event.plain]

-- Whatever there is to receive fires the token.
theorem Bridge.isFired_run {bridge : Bridge} {signal : Signal}
    (h : bridge.isFired = true ∨ signal ∈ bridge.sent ∨ bridge.isClosed = true) :
    bridge.run.isFired = true := by
  have receives : bridge.isFired = false → bridge.reception?.isSome := by
    intro unfired
    unfold reception?
    split
    · rfl
    split
    · rfl
    next nothing =>
      have closed : bridge.isClosed = true := by simpa [unfired, nothing] using h
      simp [closed]
  cases fired : bridge.isFired with
  | true => simp [run, fired]
  | false =>
    obtain ⟨event, received⟩ := Option.isSome_iff_exists.1 (receives fired)
    simp [run, fired, received]

variable {h t : Handler} {signal : Signal}

-- The signal was broadcast to the bridge, which may have received it since.
structure Delivered (signal : Signal) (h : Handler) : Prop where
  finished : h.stage = .finished signal
  bridge : let held := (Bridge.initial defaultCapacity).broadcast signal
    h.bridge = some held ∨ h.bridge = some held.run
  unlogged : lossEvent ∉ h.log

-- The signal was broadcast to nobody.
structure Lost (signal : Signal) (h : Handler) : Prop where
  finished : h.stage = .finished signal
  quiet : h.IsQuiet
  logged : lossEvent ∈ h.log

theorem Delivered.step (d : Delivered signal h) (step : Step h t) : Delivered signal t := by
  have finished := d.finished
  cases step with
  | install hs | receive _ hs | broadcast hs =>
    rw [finished] at hs
    cases hs
  | subscribe unsubscribed =>
    rcases d.bridge with held | received
    · cases unsubscribed.symm.trans held
    · cases unsubscribed.symm.trans received
  | run subscribed =>
    refine ⟨finished, ?_, d.unlogged⟩
    rcases d.bridge with held | received
    · cases subscribed.symm.trans held
      exact .inr rfl
    · cases subscribed.symm.trans received
      exact .inr rfl

theorem Lost.step (l : Lost signal h) (step : Step h t) : Lost signal t := by
  have finished := l.finished
  cases step with
  | install hs | receive _ hs | broadcast hs =>
    rw [finished] at hs
    cases hs
  | subscribe => exact ⟨finished, .inr rfl, l.logged⟩
  | run subscribed =>
    refine ⟨finished, ?_, l.logged⟩
    rcases l.quiet with unsubscribed | fresh
    · cases subscribed.symm.trans unsubscribed
    · cases subscribed.symm.trans fresh
      exact .inr rfl

theorem Delivered.later (d : Delivered signal h) (later : ReflTransGen Step h t) :
    Delivered signal t :=
  kept_later (P := Delivered signal) Delivered.step d later

theorem Lost.later (l : Lost signal h) (later : ReflTransGen Step h t) : Lost signal t :=
  kept_later (P := Lost signal) Lost.step l later

theorem Delivered.keeps (d : Delivered signal h) : h.Keeps signal := by
  have waits : signal ∈ ((Bridge.initial defaultCapacity).broadcast signal).sent := by
    simp [Bridge.broadcast, Bridge.initial]
  rcases d.bridge with held | received
  · exact ⟨_, held, .inr (.inl waits)⟩
  · exact ⟨_, received, .inl (Bridge.isFired_run (.inr (.inl waits)))⟩

theorem Lost.not_fired (l : Lost signal h) : h.isFired = false := by
  rcases l.quiet with unsubscribed | fresh
  · simp [Handler.isFired, unsubscribed]
  · simp [Handler.isFired, fresh, Bridge.initial]

theorem Lost.not_keeps (l : Lost signal h) : ¬h.Keeps signal := by
  rintro ⟨bridge, subscribed, kept⟩
  rcases l.quiet with unsubscribed | fresh
  · cases subscribed.symm.trans unsubscribed
  · cases subscribed.symm.trans fresh
    simp [Bridge.initial] at kept

-- Until the handler has broadcast, nothing has happened on the channel.
theorem Reachable.quiet (reach : Reachable h) (busy : ∀ signal, h.stage ≠ .finished signal) :
    h.IsQuiet ∧ lossEvent ∉ h.log := by
  induction reach with
  | initial => exact ⟨.inl rfl, by simp [Handler.initial]⟩
  | @step s t _ step ih =>
    cases step with
    | install hs => exact ih (by simp [hs])
    | receive signal hs =>
      obtain ⟨quiet, unlogged⟩ := ih (by simp [hs])
      refine ⟨quiet, ?_⟩
      simpa [Handler.receive, unlogged] using (receivedEvent_ne_lossEvent signal).symm
    | @broadcast signal hs =>
      have finished : (s.broadcast signal).stage = .finished signal := by
        unfold Handler.broadcast
        split <;> rfl
      exact absurd finished (busy signal)
    | subscribe => exact ⟨.inr rfl, (ih busy).2⟩
    | run subscribed =>
      obtain ⟨unsubscribed | fresh, unlogged⟩ := ih busy
      · cases subscribed.symm.trans unsubscribed
      · cases subscribed.symm.trans fresh
        exact ⟨.inr rfl, unlogged⟩

-- What becomes of the signal is settled when it is broadcast.
theorem delivered_or_lost (reach : Reachable h) (about : h.stage = .broadcasting signal) :
    (h.bridge.isSome → Delivered signal (h.broadcast signal)) ∧
      (h.bridge = none → Lost signal (h.broadcast signal)) := by
  obtain ⟨quiet, unlogged⟩ := reach.quiet (by simp [about])
  constructor
  · intro subscribed
    rcases quiet with unsubscribed | fresh
    · simp [unsubscribed] at subscribed
    · simp only [Handler.broadcast, fresh]
      exact ⟨rfl, .inl rfl, unlogged⟩
  · intro unsubscribed
    simp only [Handler.broadcast, unsubscribed]
    exact ⟨rfl, .inl rfl, by simp [lossEvent]⟩

theorem Reachable.exists_broadcast (reach : Reachable t) (finished : t.stage = .finished signal) :
    ∃ h, Reachable h ∧ h.stage = .broadcasting signal ∧
      ReflTransGen Step (h.broadcast signal) t := by
  induction reach with
  | initial => cases finished
  | @step s t reach step ih =>
    cases step with
    | install hs | receive _ hs => cases finished
    | @broadcast other hs =>
      have same : (s.broadcast other).stage = .finished other := by
        unfold Handler.broadcast
        split <;> rfl
      cases same.symm.trans finished
      exact ⟨s, reach, hs, .refl⟩
    | subscribe unsubscribed =>
      obtain ⟨h, reached, about, later⟩ := ih finished
      exact ⟨h, reached, about, later.tail (.subscribe unsubscribed)⟩
    | run subscribed =>
      obtain ⟨h, reached, about, later⟩ := ih finished
      exact ⟨h, reached, about, later.tail (.run subscribed)⟩

-- A handler that has finished has broadcast its signal once. If the program had subscribed
-- by then, the signal stays with the bridge and fires the token as soon as the bridge runs.
-- Otherwise a warning is all that is left of it, and the token never fires.
theorem signal_kept_iff_subscribed (reach : Reachable t) (finished : t.stage = .finished signal) :
    ∃ h, Reachable h ∧ h.stage = .broadcasting signal ∧
      ReflTransGen Step (h.broadcast signal) t ∧
      (t.Keeps signal ↔ h.bridge.isSome) ∧ (t.Keeps signal ↔ lossEvent ∉ t.log) ∧
      (t.Keeps signal → ∀ bridge, t.bridge = some bridge → bridge.run.isFired) ∧
      (¬t.Keeps signal → ∀ u, ReflTransGen Step t u → u.isFired = false) := by
  obtain ⟨h, reached, about, later⟩ := reach.exists_broadcast finished
  obtain ⟨delivers, loses⟩ := delivered_or_lost reached about
  refine ⟨h, reached, about, later, ?_⟩
  cases subscribed : h.bridge with
  | some bridge =>
    have delivered : Delivered signal t := (delivers (by simp [subscribed])).later later
    refine ⟨iff_of_true delivered.keeps rfl, iff_of_true delivered.keeps delivered.unlogged,
      ?_, absurd delivered.keeps⟩
    rintro ⟨kept, known, receives⟩ bridge same
    cases same.symm.trans known
    exact Bridge.isFired_run receives
  | none =>
    have lost : Lost signal t := (loses subscribed).later later
    exact ⟨iff_of_false lost.not_keeps nofun,
      iff_of_false lost.not_keeps fun unlogged => unlogged lost.logged,
      fun kept => absurd kept lost.not_keeps, fun _ u further => (lost.later further).not_fired⟩

-- A signal that comes after the subscription stays, also while the bridge has not run.
theorem terminate_kept_by_bridge : ∃ t, Reachable t ∧ t.stage = .finished .terminate ∧
    t.isFired = false ∧ lossEvent ∉ t.log ∧ t.Keeps .terminate := by
  have subscribed : Reachable Handler.initial.install.subscribe :=
    (Reachable.initial.step (.install rfl)).step (.subscribe rfl)
  have reach := (subscribed.step (.receive .terminate rfl)).step (.broadcast rfl)
  have unlogged : lossEvent ∉ (Handler.initial.install.subscribe.receive .terminate).log := by
    decide
  obtain ⟨_, _, _, _, _, kept, _⟩ := signal_kept_iff_subscribed reach rfl
  exact ⟨_, reach, rfl, rfl, unlogged, kept.2 unlogged⟩

-- A signal that comes before the subscription is gone: the handler has finished and will
-- send nothing any more, and the bridge waits for good.
theorem terminate_lost_before_subscription :
    ¬(∀ h signal, Reachable h → h.stage = .finished signal → h.Keeps signal) ∧
      ∃ t, Reachable t ∧ t.stage = .finished .terminate ∧
        t.bridge = some (.initial defaultCapacity) ∧ ¬t.Keeps .terminate ∧
        ∀ u, ReflTransGen Step t u → u.isFired = false := by
  have received : Reachable (Handler.initial.install.receive .terminate) :=
    (Reachable.initial.step (.install rfl)).step (.receive .terminate rfl)
  have lost := (delivered_or_lost received rfl).2 rfl
  have reach := (received.step (.broadcast rfl)).step (.subscribe rfl)
  have stays : Lost .terminate _ := lost.step (.subscribe rfl)
  exact ⟨fun kept => stays.not_keeps (kept _ _ reach rfl),
    _, reach, rfl, rfl, stays.not_keeps, fun u later => (stays.later later).not_fired⟩

end RoutingProcessor.Shutdown
