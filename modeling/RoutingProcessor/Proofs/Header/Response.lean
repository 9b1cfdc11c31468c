import Mathlib.Data.List.DropRight
import RoutingProcessor.Header.Response
import RoutingProcessor.Proofs.Text.Utf8

namespace RoutingProcessor

open Text

namespace Outcome

namespace Edit

def isReset : Edit → Bool
  | reset => true
  | _ => false

def set? : Edit → Option SetHeader
  | set key value append => some ⟨key, value, append⟩
  | _ => none

def removed? : Edit → Option String
  | remove key => some key
  | _ => none

def flag? : Edit → Option Bool
  | clearRouteCache value => some value
  | _ => none

-- The edits since the last reset.
def sinceReset (edits : List Edit) : List Edit := edits.rtakeWhile fun edit => !edit.isReset

theorem sinceReset_concat_reset (edits : List Edit) : sinceReset (edits ++ [reset]) = [] :=
  List.rtakeWhile_concat_neg _ _ _ (by simp [isReset])

theorem sinceReset_concat {edit : Edit} (edits : List Edit) (kept : edit.isReset = false) :
    sinceReset (edits ++ [edit]) = sinceReset edits ++ [edit] :=
  List.rtakeWhile_concat_pos _ _ _ (by simp [kept])

end Edit

open Edit

-- What a list of edits makes of an outcome.
def after (outcome : Outcome) (edits : List Edit) : Outcome :=
  (outcome.history edits).getLastD outcome

theorem after_concat (outcome : Outcome) (edits : List Edit) (edit : Edit) :
    outcome.after (edits ++ [edit]) = (outcome.after edits).edit edit := by
  induction edits generalizing outcome with
  | nil => rfl
  | cons first edits ih =>
    have later (rest : List Edit) :
        outcome.after (first :: rest) = (outcome.edit first).after rest := List.getLastD_cons
    rw [List.cons_append, later, later, ih]

-- What has been pushed since the last reset is what an outcome holds, and the flag is the
-- last one that was set, before or after a reset.
theorem after_unmodified (edits : List Edit) :
    unmodified.after edits =
      ⟨(edits.filterMap flag?).getLastD false,
        ⟨(sinceReset edits).filterMap set?, (sinceReset edits).filterMap removed?⟩⟩ := by
  induction edits using List.reverseRecOn with
  | nil => rfl
  | append_singleton edits edit ih =>
    rw [after_concat, ih]
    cases edit with
    | set key value append =>
      rw [sinceReset_concat edits rfl]
      simp [Outcome.edit, HeaderMutation.withSet, set?, removed?, flag?]
    | remove key =>
      rw [sinceReset_concat edits rfl]
      simp [Outcome.edit, HeaderMutation.withRemove, set?, removed?, flag?]
    | clearRouteCache value =>
      rw [sinceReset_concat edits rfl]
      simp [Outcome.edit, set?, removed?, flag?]
    | reset =>
      rw [sinceReset_concat_reset]
      simp [Outcome.edit, HeaderMutation.empty, flag?]

end Outcome

theorem HeaderMutation.isEmpty_iff (mutation : HeaderMutation) :
    mutation.isEmpty ↔ mutation.set = [] ∧ mutation.remove = [] := by
  simp [isEmpty]

theorem Outcome.isUnmodified_iff (outcome : Outcome) :
    outcome.isUnmodified ↔
      outcome.clearRouteCache = false ∧ outcome.mutation.set = [] ∧ outcome.mutation.remove = [] := by
  simp [isUnmodified, HeaderMutation.isEmpty_iff]

namespace CommonResponse

-- A header to set, and what the proxy gets of it: the value as octets, no text in its place,
-- and the number of the policy.
structure CarriesHeader (header : SetHeader) (wire : WireSetHeader) : Prop where
  key : wire.key = header.key
  raw : wire.raw = octets header.value
  value : wire.value = ""
  action : AppendPolicy.ofCode? wire.action = some header.append
  keepEmptyValue : wire.keepEmptyValue = false

-- A response that goes on with the message and tells of nothing but an outcome.
structure Carries (outcome : Outcome) (response : CommonResponse) : Prop where
  status : response.status = .proceed
  clearRouteCache : response.clearRouteCache = outcome.clearRouteCache
  absent : response.headerMutation = none ↔ outcome.mutation.set = [] ∧ outcome.mutation.remove = []
  present : ∀ wire, response.headerMutation = some wire →
    List.Forall₂ CarriesHeader outcome.mutation.set wire.set ∧ wire.remove = outcome.mutation.remove
  bodyMutation : response.bodyMutation = false
  trailers : response.trailers = false

theorem ofCode?_code (append : AppendPolicy) : AppendPolicy.ofCode? append.code = some append := by
  cases append <;> rfl

theorem carriesHeader_toWire (header : SetHeader) : CarriesHeader header header.toWire :=
  ⟨rfl, rfl, rfl, ofCode?_code header.append, rfl⟩

theorem forall₂_toWire (headers : List SetHeader) :
    List.Forall₂ CarriesHeader headers (headers.map SetHeader.toWire) := by
  induction headers with
  | nil => exact .nil
  | cons header headers ih => exact .cons (carriesHeader_toWire header) ih

theorem carries_ofOutcome (outcome : Outcome) : Carries outcome (ofOutcome outcome) where
  status := rfl
  clearRouteCache := rfl
  absent := by simp [ofOutcome, ← HeaderMutation.isEmpty_iff]
  present := by
    intro wire sent
    have same : outcome.mutation.toWire = wire := by
      by_cases empty : outcome.mutation.isEmpty
      · simp [ofOutcome, empty] at sent
      · simpa [ofOutcome, empty] using sent
    rw [← same]
    exact ⟨forall₂_toWire _, rfl⟩
  bodyMutation := rfl
  trailers := rfl

theorem read?_setHeader (header : SetHeader) : header.toWire.read? = some header := by
  simp [SetHeader.toWire, WireSetHeader.read?, Utf8.decode?_octets, ofCode?_code]

theorem read?_setHeaders (headers : List SetHeader) :
    (headers.map SetHeader.toWire).mapM WireSetHeader.read? = some headers := by
  induction headers with
  | nil => rfl
  | cons header headers ih => simp [List.mapM_cons, read?_setHeader, ih]

theorem read?_mutation (mutation : HeaderMutation) : mutation.toWire.read? = some mutation := by
  simp only [HeaderMutation.toWire, WireMutation.read?, read?_setHeaders]
  rfl

-- An absent mutation can be told from all others, as only an empty one is left out.
theorem outcome?_ofOutcome (outcome : Outcome) : (ofOutcome outcome).outcome? = some outcome := by
  by_cases empty : outcome.mutation.isEmpty
  · obtain ⟨noSet, noRemove⟩ := outcome.mutation.isEmpty_iff.1 empty
    have same : outcome.mutation = .empty := by
      cases known : outcome.mutation
      simp_all [HeaderMutation.empty]
    simp [outcome?, ofOutcome, empty, ← same]
  · simp [outcome?, ofOutcome, empty, read?_mutation]

theorem ofOutcome_injective : Function.Injective ofOutcome := by
  intro outcome other same
  have read := outcome?_ofOutcome outcome
  rw [same, outcome?_ofOutcome, Option.some.injEq] at read
  exact read.symm

-- However an outcome was built, it holds what was pushed since the last reset, its tests agree
-- with that and with its flag, and the response that is made of it carries the whole of it:
-- it can be read back, and no other outcome has the same response.
theorem outcome_survives_response (edits : List Outcome.Edit) :
    let outcome := Outcome.unmodified.after edits
    let recent := Outcome.Edit.sinceReset edits
    outcome.mutation.set = recent.filterMap Outcome.Edit.set? ∧
      outcome.mutation.remove = recent.filterMap Outcome.Edit.removed? ∧
      outcome.clearRouteCache = (edits.filterMap Outcome.Edit.flag?).getLastD false ∧
      (outcome.mutation.isEmpty ↔ outcome.mutation.set = [] ∧ outcome.mutation.remove = []) ∧
      (outcome.isUnmodified ↔ outcome.clearRouteCache = false ∧
        outcome.mutation.set = [] ∧ outcome.mutation.remove = []) ∧
      Carries outcome (ofOutcome outcome) ∧
      (ofOutcome outcome).outcome? = some outcome ∧
      ∀ other, ofOutcome other = ofOutcome outcome ↔ other = outcome := by
  intro outcome recent
  have built : outcome = ⟨_, ⟨_, _⟩⟩ := Outcome.after_unmodified edits
  refine ⟨?_, ?_, ?_, outcome.mutation.isEmpty_iff, outcome.isUnmodified_iff,
    carries_ofOutcome outcome, outcome?_ofOutcome outcome, fun _ => ofOutcome_injective.eq_iff⟩
  · rw [built]
  · rw [built]
  · rw [built]

end CommonResponse

end RoutingProcessor
