import RoutingProcessor.Decision.Engine

namespace RoutingProcessor

open Text

namespace HeaderSet

variable {headers : HeaderSet} {name value : String}

-- No header has the name, in whatever case.
def Lacks (headers : HeaderSet) (name : String) : Prop :=
  ∀ header ∈ headers.toList, sameLetters header.key name = false

-- The first header with the name, in whatever case, has the value. What follows it does not
-- matter.
def FirstValue (headers : HeaderSet) (name value : String) : Prop :=
  ∃ before key after, headers.toList = before ++ ⟨key, value⟩ :: after ∧
    sameLetters key name = true ∧ ∀ header ∈ before, sameLetters header.key name = false

theorem get?_eq_none_iff : headers.get? name = none ↔ headers.Lacks name := by
  simp [get?, Lacks]

theorem get?_eq_some_iff : headers.get? name = some value ↔ headers.FirstValue name value := by
  simp only [get?, FirstValue, Option.map_eq_some_iff, List.find?_eq_some_iff_append]
  constructor
  · rintro ⟨⟨key, _⟩, ⟨same, before, after, split, earlier⟩, rfl⟩
    exact ⟨before, key, after, split, same, by simpa using earlier⟩
  · rintro ⟨before, key, after, split, same, earlier⟩
    exact ⟨⟨key, value⟩, ⟨same, before, after, split, by simpa using earlier⟩, rfl⟩

end HeaderSet

namespace Decision.Engine

open Http

-- The first header with the preferred name is absent or empty.
def Unnamed (engine : Engine) (headers : HeaderSet) : Prop :=
  headers.Lacks engine.preferredHeader ∨ headers.FirstValue engine.preferredHeader ""

-- What has to come of a request. The list holds what the client answered, once for each call
-- it was given.
inductive Decides (engine : Engine) (headers : HeaderSet) :
    List (Except Error String) → Except Error Outcome → Prop where
  | preferred {service : String} (named : headers.FirstValue engine.preferredHeader service)
      (nonempty : service ≠ "") :
      Decides engine headers []
        (.ok ⟨true, ⟨[⟨engine.decisionHeader, service, .appendIfExistsOrAdd⟩],
          [engine.preferredHeader]⟩⟩)
  | failed {error : Error} (unnamed : engine.Unnamed headers) :
      Decides engine headers [.error error] (.error error)
  | undecided (unnamed : engine.Unnamed headers) :
      Decides engine headers [.ok ""] (.ok ⟨false, ⟨[], []⟩⟩)
  | added {decision : String} (lacks : headers.Lacks engine.preferredHeader)
      (nonempty : decision ≠ "") :
      Decides engine headers [.ok decision]
        (.ok ⟨true, ⟨[⟨engine.decisionHeader, decision, .appendIfExistsOrAdd⟩], []⟩⟩)
  | replaced {decision : String} (empty : headers.FirstValue engine.preferredHeader "")
      (nonempty : decision ≠ "") :
      Decides engine headers [.ok decision]
        (.ok ⟨true, ⟨[⟨engine.decisionHeader, decision, .appendIfExistsOrAdd⟩],
          [engine.preferredHeader]⟩⟩)

-- The decision as a program that knows its client by the calls only.
def decideBy {m : Type → Type} [Monad m] (engine : Engine) (call : m (Except Error String))
    (headers : HeaderSet) : m (Except Error Outcome) := do
  match engine.preferred? headers with
  | some service => return .ok (engine.outcome headers service)
  | none =>
    let answer ← call
    return engine.ofAnswer headers answer

-- A client that answers from a script, one line for a call.
def nextLine : StateT (List (Except Error String)) Option (Except Error String)
  | [] => none
  | answer :: rest => some (answer, rest)

variable {engine : Engine} {headers : HeaderSet} {exchange : Exchange}
  {result : Except Error Outcome}

theorem preferred?_eq_none_iff :
    engine.preferred? headers = none ↔
      headers.get? engine.preferredHeader = none ∨
        headers.get? engine.preferredHeader = some "" := by
  unfold preferred?
  cases headers.get? engine.preferredHeader with
  | none => simp
  | some value => simp [Option.filter]

theorem preferred?_eq_some_iff {service : String} :
    engine.preferred? headers = some service ↔
      headers.get? engine.preferredHeader = some service ∧ service ≠ "" := by
  simp [preferred?, Option.filter_eq_some_iff]

theorem unnamed_iff : engine.Unnamed headers ↔ engine.preferred? headers = none := by
  rw [preferred?_eq_none_iff, HeaderSet.get?_eq_none_iff, HeaderSet.get?_eq_some_iff]
  rfl

-- A preferred header is used up by a decision, and only where there is one.
theorem outcome_of_firstValue {value : String} (decision : String)
    (named : headers.FirstValue engine.preferredHeader value) :
    engine.outcome headers decision =
      ⟨true, ⟨[⟨engine.decisionHeader, decision, .appendIfExistsOrAdd⟩],
        [engine.preferredHeader]⟩⟩ := by
  have found := HeaderSet.get?_eq_some_iff.2 named
  simp [outcome, HeaderSet.contains, found, HeaderMutation.withSet, HeaderMutation.withRemove,
    HeaderMutation.empty]

theorem outcome_of_lacks (decision : String) (lacks : headers.Lacks engine.preferredHeader) :
    engine.outcome headers decision =
      ⟨true, ⟨[⟨engine.decisionHeader, decision, .appendIfExistsOrAdd⟩], []⟩⟩ := by
  have missing := HeaderSet.get?_eq_none_iff.2 lacks
  simp [outcome, HeaderSet.contains, missing, HeaderMutation.withSet, HeaderMutation.empty]

-- The answer of the client decides a request without a preferred service.
theorem decides_ofAnswer (unnamed : engine.Unnamed headers) (answer : Except Error String) :
    Decides engine headers [answer] (engine.ofAnswer headers answer) := by
  cases answer with
  | error error => exact .failed unnamed
  | ok decision =>
    by_cases empty : decision = ""
    · subst empty
      exact .undecided unnamed
    · rw [ofAnswer, if_neg empty]
      rcases unnamed with lacks | blank
      · rw [outcome_of_lacks decision lacks]
        exact .added lacks empty
      · rw [outcome_of_firstValue decision blank]
        exact .replaced blank empty

section Preferred

variable {service : String} {used : List (Except Error String)} {m : Type → Type} [Monad m]
  {call : m (Except Error String)} (h : engine.preferred? headers = some service)

include h

theorem decides_iff_of_preferred :
    Decides engine headers used result ↔
      used = [] ∧ result = .ok (engine.outcome headers service) := by
  obtain ⟨found, nonempty⟩ := preferred?_eq_some_iff.1 h
  have named := HeaderSet.get?_eq_some_iff.1 found
  have asked : ¬engine.Unnamed headers := fun unnamed => by simp [unnamed_iff.1 unnamed] at h
  constructor
  · intro decides
    cases decides with
    | preferred named' =>
      rw [HeaderSet.get?_eq_some_iff.2 named', Option.some.injEq] at found
      rw [← found, outcome_of_firstValue _ named']
      exact ⟨rfl, rfl⟩
    | failed unnamed | undecided unnamed => exact absurd unnamed asked
    | added lacks => exact absurd (.inl lacks) asked
    | replaced blank => exact absurd (.inr blank) asked
  · rintro ⟨rfl, rfl⟩
    rw [outcome_of_firstValue service named]
    exact .preferred named nonempty

theorem decideBy_of_preferred :
    engine.decideBy call headers = pure (.ok (engine.outcome headers service)) := by
  simp only [decideBy, h]

end Preferred

section Unnamed

variable {used : List (Except Error String)} {m : Type → Type} [Monad m]
  {call : m (Except Error String)} (h : engine.preferred? headers = none)

include h

theorem decides_iff_of_unnamed :
    Decides engine headers used result ↔
      ∃ answer, used = [answer] ∧ result = engine.ofAnswer headers answer := by
  constructor
  · intro decides
    cases decides with
    | preferred named nonempty =>
      have found := HeaderSet.get?_eq_some_iff.2 named
      simp [preferred?_eq_some_iff.2 ⟨found, nonempty⟩] at h
    | failed | undecided => exact ⟨_, rfl, rfl⟩
    | added lacks nonempty =>
      exact ⟨_, rfl, by rw [ofAnswer, if_neg nonempty, outcome_of_lacks _ lacks]⟩
    | replaced blank nonempty =>
      exact ⟨_, rfl, by rw [ofAnswer, if_neg nonempty, outcome_of_firstValue _ blank]⟩
  · rintro ⟨answer, rfl, rfl⟩
    exact decides_ofAnswer (unnamed_iff.2 h) answer

theorem decideBy_of_unnamed :
    engine.decideBy call headers = do
      let answer ← call
      return engine.ofAnswer headers answer := by
  simp only [decideBy, h]

end Unnamed

theorem decideBy_nextLine_eq_some_iff {script rest : List (Except Error String)} :
    engine.decideBy nextLine headers script = some (result, rest) ↔
      ∃ used, script = used ++ rest ∧ Decides engine headers used result := by
  cases h : engine.preferred? headers with
  | some service =>
    simp only [decides_iff_of_preferred h, decideBy_of_preferred h]
    constructor
    · intro run
      cases run
      exact ⟨[], rfl, rfl, rfl⟩
    · rintro ⟨_, rfl, rfl, rfl⟩
      rfl
  | none =>
    simp only [decides_iff_of_unnamed h, decideBy_of_unnamed h]
    constructor
    · intro run
      cases script with
      | nil => cases run
      | cons answer script =>
        cases run
        exact ⟨[answer], rfl, answer, rfl, rfl⟩
    · rintro ⟨_, rfl, answer, rfl, rfl⟩
      rfl

theorem decide_eq_decideBy :
    engine.decide headers exchange = engine.decideBy (engine.client.fetch exchange) headers := by
  cases h : engine.preferred? headers with
  | some service => simp only [decide, h, decideBy_of_preferred h, Option.pure_def]
  | none =>
    simp only [decide, h, decideBy_of_unnamed h]
    cases engine.client.fetch exchange <;> rfl

theorem decide_eq_some_iff :
    engine.decide headers exchange = some result ↔
      ∃ used, Decides engine headers used result ∧
        ∀ answer ∈ used, engine.client.fetch exchange = some answer := by
  cases h : engine.preferred? headers with
  | some service =>
    simp only [decide, h, decides_iff_of_preferred h]
    constructor
    · intro decided
      cases decided
      exact ⟨[], ⟨rfl, rfl⟩, by simp⟩
    · rintro ⟨_, ⟨rfl, rfl⟩, _⟩
      rfl
  | none =>
    simp only [decide, h, decides_iff_of_unnamed h, Option.map_eq_some_iff]
    constructor
    · rintro ⟨answer, fetched, rfl⟩
      exact ⟨[answer], ⟨answer, rfl, rfl⟩, by simpa using fetched⟩
    · rintro ⟨_, ⟨answer, rfl, rfl⟩, fetched⟩
      exact ⟨answer, fetched answer (by simp), rfl⟩

-- Each call of the client stands for the requests of one fetch, and there are no others.
theorem requests_of_decides {used : List (Except Error String)}
    (decides : Decides engine headers used result) :
    engine.requests headers exchange = used.length * engine.client.requests exchange := by
  cases h : engine.preferred? headers with
  | some service =>
    obtain ⟨rfl, _⟩ := (decides_iff_of_preferred h).1 decides
    simp [requests, asks, h]
  | none =>
    obtain ⟨answer, rfl, _⟩ := (decides_iff_of_unnamed h).1 decides
    simp [requests, asks, h]

theorem flags_of_decides {used : List (Except Error String)} {outcome : Outcome}
    (h : Decides engine headers used (.ok outcome)) :
    (outcome.clearRouteCache = true ↔ outcome.mutation.set ≠ []) ∧
      (outcome.clearRouteCache = true ↔ outcome.isUnmodified = false) ∧
      outcome.mutation.set.length ≤ 1 ∧ outcome.mutation.remove.length ≤ 1 := by
  cases h <;> simp [Outcome.isUnmodified, HeaderMutation.isEmpty]

-- A decision is what its request and the client make of it. The client is called once where
-- no service is preferred, and never elsewhere.
theorem decide_meets_specification (engine : Engine) (headers : HeaderSet) :
    (∀ (script rest : List (Except Error String)) (result : Except Error Outcome),
      engine.decideBy nextLine headers script = some (result, rest) ↔
        ∃ used, script = used ++ rest ∧ Decides engine headers used result) ∧
      (∀ exchange,
        engine.decide headers exchange =
          engine.decideBy (engine.client.fetch exchange) headers) ∧
      (∀ (exchange : Exchange) (result : Except Error Outcome),
        engine.decide headers exchange = some result ↔
          ∃ used, Decides engine headers used result ∧
            engine.requests headers exchange =
              used.length * engine.client.requests exchange ∧
            ∀ answer ∈ used, engine.client.fetch exchange = some answer) ∧
      ∀ (exchange : Exchange) (outcome : Outcome),
        engine.decide headers exchange = some (.ok outcome) →
          (outcome.clearRouteCache = true ↔ outcome.mutation.set ≠ []) ∧
            (outcome.clearRouteCache = true ↔ outcome.isUnmodified = false) ∧
            outcome.mutation.set.length ≤ 1 ∧ outcome.mutation.remove.length ≤ 1 := by
  refine ⟨fun _ _ _ => decideBy_nextLine_eq_some_iff, fun _ => decide_eq_decideBy, ?_, ?_⟩
  · intro exchange result
    rw [decide_eq_some_iff]
    constructor
    · rintro ⟨used, h, fetched⟩
      exact ⟨used, h, requests_of_decides h, fetched⟩
    · rintro ⟨used, h, _, fetched⟩
      exact ⟨used, h, fetched⟩
  · intro exchange outcome decided
    obtain ⟨used, h, _⟩ := decide_eq_some_iff.1 decided
    exact flags_of_decides h

end Decision.Engine

end RoutingProcessor
