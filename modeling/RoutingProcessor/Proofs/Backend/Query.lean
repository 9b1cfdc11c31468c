import RoutingProcessor.Backend.Echo
import RoutingProcessor.Proofs.Backend.Table
import RoutingProcessor.Proofs.Http.HeaderName
import RoutingProcessor.Proofs.Json.Print
import RoutingProcessor.Proofs.Number.Decimal

namespace RoutingProcessor.Backend

open Text Http

theorem ofNat?_eq_some_iff {n : Nat} {status : Status} :
    Status.ofNat? n = some status ↔ n = status.code := by
  unfold Status.ofNat?
  split
  case isTrue h =>
    rw [Option.some.injEq]
    constructor
    · rintro rfl
      rfl
    · rintro rfl
      rfl
  case isFalse h =>
    simp only [reduceCtorEq, false_iff]
    rintro rfl
    exact h status.three_digits

theorem status?_eq_some_iff {value : String} {status : Status} :
    status? value = some status ↔ Number.Decimal value status.code := by
  have hbound : status.code < 65536 := Nat.lt_of_le_of_lt status.three_digits.2 (by decide)
  unfold status?
  split
  case h_1 n h =>
    obtain ⟨decimal, -⟩ := (Number.parseBelow_eq_ok_iff (by decide)).1 h
    rw [ofNat?_eq_some_iff]
    constructor
    · rintro rfl
      exact decimal
    · intro h'
      have h' := (Number.parseBelow_eq_ok_iff (by decide)).2 ⟨h', hbound⟩
      rw [h] at h'
      cases h'
      rfl
  case h_2 error h =>
    simp only [reduceCtorEq, false_iff]
    intro decimal
    rw [(Number.parseBelow_eq_ok_iff (by decide)).2 ⟨decimal, hbound⟩] at h
    cases h

-- Every parameter that is called a status names one.
def Named (pairs : List (String × String)) : Prop :=
  ∀ pair ∈ pairs, pair.1 = "status" → ∃ status : Status, Number.Decimal pair.2 status.code

-- The last status that parameters ask for, or one that they are answered with otherwise.
def Asked (otherwise : Status) (pairs : List (String × String)) (status : Status) : Prop :=
  (∃ value, LastValue pairs "status" value ∧ Number.Decimal value status.code) ∨
    (∀ pair ∈ pairs, pair.1 ≠ "status") ∧ status = otherwise

-- What has to come of the parameters of a query. The first that is called a status and names
-- none is refused. Without such a one all others are told, and sent as far as they can be.
inductive Answers (pairs : List (String × String)) : Response × List Log.Event → Prop where
  | refused {before after : List (String × String)} {value body : String}
      (split : pairs = before ++ ("status", value) :: after) (earlier : Named before)
      (unnamed : ∀ status : Status, ¬Number.Decimal value status.code)
      (told : Json.TextObject [("error", "invalid status code " ++ Quoted.quote value)]
        (octets body)) :
      Answers pairs (⟨.badRequest, [("content-type", "application/json")], body⟩, [])
  | sent {status : Status} {table : Table} {body : String} (named : Named pairs)
      (asked : Asked .ok pairs status) (sorted : table.Sorted)
      (last : ∀ name value,
        (name, value) ∈ table ↔ name ≠ "status" ∧ LastValue pairs name value)
      (told : Json.TextObject table (octets body)) :
      Answers pairs
        (⟨status, ("content-type", "application/json") ::
            (table.filter (Sendable ·)).map fun entry => (lower entry.1, entry.2), body⟩,
          (table.filter (¬Sendable ·)).map fun entry =>
            ⟨.warn, "mock_backend", "skipping header that cannot be sent", [("key", entry.1)]⟩)

section Query

variable {pairs : List (String × String)} {pair : String × String} {name value : String}
  {status result : Status}

-- The values of the parameters that are called a status.
theorem statuses_cons (pair : String × String) (pairs : List (String × String)) :
    ((pair :: pairs).filter (·.1 = "status")).map (·.2) =
      if pair.1 = "status" then pair.2 :: (pairs.filter (·.1 = "status")).map (·.2)
      else (pairs.filter (·.1 = "status")).map (·.2) := by
  rw [List.filter_cons]
  by_cases h : pair.1 = "status" <;> simp [h]

theorem exists_of_lastStatus_error
    (h : lastStatus status ((pairs.filter (·.1 = "status")).map (·.2)) = .error value) :
    ∃ before after, pairs = before ++ ("status", value) :: after ∧ Named before ∧
      ∀ status : Status, ¬Number.Decimal value status.code := by
  induction pairs generalizing status with
  | nil => cases h
  | cons pair pairs ih =>
    rw [statuses_cons] at h
    split at h
    case isTrue hpair =>
      cases hstatus : status? pair.2 with
      | some next =>
        rw [lastStatus, hstatus] at h
        obtain ⟨before, after, rfl, earlier, unnamed⟩ := ih h
        refine ⟨pair :: before, after, rfl, ?_, unnamed⟩
        exact List.forall_mem_cons.2 ⟨fun _ => ⟨next, status?_eq_some_iff.1 hstatus⟩, earlier⟩
      | none =>
        rw [lastStatus, hstatus] at h
        cases h
        refine ⟨[], pairs, by rw [← hpair]; rfl, List.forall_mem_nil _, fun status decimal => ?_⟩
        rw [status?_eq_some_iff.2 decimal] at hstatus
        cases hstatus
    case isFalse hpair =>
      obtain ⟨before, after, rfl, earlier, unnamed⟩ := ih h
      refine ⟨pair :: before, after, rfl, ?_, unnamed⟩
      exact List.forall_mem_cons.2 ⟨fun h => absurd h hpair, earlier⟩

theorem named_and_asked_of_lastStatus_ok
    (h : lastStatus status ((pairs.filter (·.1 = "status")).map (·.2)) = .ok result) :
    Named pairs ∧ Asked status pairs result := by
  induction pairs generalizing status with
  | nil =>
    cases h
    exact ⟨List.forall_mem_nil _, .inr ⟨List.forall_mem_nil _, rfl⟩⟩
  | cons pair pairs ih =>
    rw [statuses_cons] at h
    split at h
    case isTrue hpair =>
      cases hstatus : status? pair.2 with
      | none =>
        rw [lastStatus, hstatus] at h
        cases h
      | some next =>
        rw [lastStatus, hstatus] at h
        have decimal := status?_eq_some_iff.1 hstatus
        obtain ⟨named, asked⟩ := ih h
        refine ⟨List.forall_mem_cons.2 ⟨fun _ => ⟨next, decimal⟩, named⟩, .inl ?_⟩
        rcases asked with ⟨value, hlast, hvalue⟩ | ⟨none, rfl⟩
        · exact ⟨value, hlast.cons, hvalue⟩
        · exact ⟨pair.2, ⟨[], pairs, by rw [← hpair]; rfl, none⟩, decimal⟩
    case isFalse hpair =>
      obtain ⟨named, asked⟩ := ih h
      refine ⟨List.forall_mem_cons.2 ⟨fun h => absurd h hpair, named⟩, ?_⟩
      rcases asked with ⟨value, hlast, hvalue⟩ | ⟨none, rfl⟩
      · exact .inl ⟨value, hlast.cons, hvalue⟩
      · exact .inr ⟨List.forall_mem_cons.2 ⟨hpair, none⟩, rfl⟩

theorem asHeader?_eq (entry : String × String) :
    asHeader? entry = if Sendable entry then some (lower entry.1, entry.2) else none := by
  have whole : (isHeaderName entry.1 && isHeaderValue entry.2) = decide (Sendable entry) := by
    rw [Bool.eq_iff_iff, Bool.and_eq_true, decide_eq_true_eq, sendable_iff]
  rw [asHeader?, whole]
  simp only [decide_eq_true_eq]

theorem skipped_eq (entry : String × String) :
    skipped entry =
      if Sendable entry then none
      else some ⟨.warn, "mock_backend", "skipping header that cannot be sent",
        [("key", entry.1)]⟩ := by
  rw [skipped, asHeader?_eq]
  by_cases h : Sendable entry <;> simp [h]

theorem filterMap_asHeader? (table : Table) :
    table.filterMap asHeader? =
      (table.filter (Sendable ·)).map fun entry => (lower entry.1, entry.2) := by
  induction table with
  | nil => rfl
  | cons entry rest ih =>
    rw [List.filterMap_cons, List.filter_cons, asHeader?_eq, ih]
    by_cases h : Sendable entry <;> simp [h]

theorem filterMap_skipped (table : Table) :
    table.filterMap skipped = (table.filter (¬Sendable ·)).map fun entry =>
      ⟨.warn, "mock_backend", "skipping header that cannot be sent", [("key", entry.1)]⟩ := by
  induction table with
  | nil => rfl
  | cons entry rest ih =>
    rw [List.filterMap_cons, List.filter_cons, skipped_eq, ih]
    by_cases h : Sendable entry <;> simp [h]

theorem mem_others {table : Table} (h : table = Table.ofList (pairs.filter (·.1 ≠ "status"))) :
    (name, value) ∈ table ↔ name ≠ "status" ∧ LastValue pairs name value := by
  rw [h, Table.mem_ofList, ← decide_eq_true_iff (p := name ≠ "status")]
  exact lastValue_filter (p := fun name => decide (name ≠ "status"))

-- The parameters of a query are told as they are, and sent as far as they can be.
theorem query_answered {r : Request} (path : r.target.path = "/response-headers") :
    Answers (Form.pairs (r.target.query.getD "")) (respond r) := by
  have other : r.target.path ≠ "/headers" := by
    rw [path]
    decide
  rw [respond, if_neg other, if_pos path, sendHeaders]
  dsimp only
  split
  case h_1 value h =>
    obtain ⟨before, after, split, earlier, unnamed⟩ := exists_of_lastStatus_error h
    exact .refused split earlier unnamed (Json.textObject_textObject _)
  case h_2 status h =>
    obtain ⟨named, asked⟩ := named_and_asked_of_lastStatus_ok h
    rw [filterMap_asHeader?, filterMap_skipped]
    exact .sent named asked (Table.sorted_ofList _) (fun _ _ => mem_others rfl)
      (Json.textObject_textObject _)

-- Names that differ in case only are kept apart, and the last of two values counts.
theorem names_apart_in_case_sent :
    let r : Request := ⟨"GET", ⟨none, none, "/response-headers",
      some "X-A=1&x-a=2&status=7%30%30&b%20c=4&X-A=3&status=%2B0201"⟩, []⟩
    r.target.path = "/response-headers" ∧
      respond r = (⟨⟨201, by decide⟩,
        [("content-type", "application/json"), ("x-a", "3"), ("x-a", "2")],
        "\x7b\"X-A\":\"3\",\"b c\":\"4\",\"x-a\":\"2\"\x7d"⟩,
        [⟨.warn, "mock_backend", "skipping header that cannot be sent", [("key", "b c")]⟩]) ∧
      Answers (Form.pairs "X-A=1&x-a=2&status=7%30%30&b%20c=4&X-A=3&status=%2B0201") (respond r) := by
  intro r
  exact ⟨rfl, by decide +kernel, query_answered (r := r) rfl⟩

-- A value beyond ASCII is sent, and nobody is warned.
theorem value_beyond_ascii_sent :
    Form.pairs "a=%C3%A9" = [("a", "é")] ∧ (¬ 'é' ≤ '~' ∧ 'é' ≠ '\t') ∧
      respond ⟨"GET", ⟨none, none, "/response-headers", some "a=%C3%A9"⟩, []⟩ =
        (⟨.ok, [("content-type", "application/json"), ("a", "é")],
          "\x7b\"a\":\"é\"\x7d"⟩, []) := by
  decide +kernel

end Query

end RoutingProcessor.Backend
