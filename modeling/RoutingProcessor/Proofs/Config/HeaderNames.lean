import RoutingProcessor.Proofs.Config.Load
import RoutingProcessor.Proofs.Decision.Specification
import RoutingProcessor.Proofs.Http.HeaderName

namespace RoutingProcessor

open Text Http Net Decision

namespace Config

open Files

-- What a configured engine may do to a request: its two names are kept apart, and only a
-- header that is there is removed.
structure KeepsWhatItSets (decision : DecisionSection) (headers : HeaderSet)
    (mutation : HeaderMutation) : Prop where
  set_key : ∀ header ∈ mutation.set, header.key = decision.routingDecisionHeader
  remove_eq : ∀ name ∈ mutation.remove, name = decision.preferredServiceHeader
  apart : ∀ header ∈ mutation.set, ∀ name ∈ mutation.remove, sameLetters header.key name = false
  present : ∀ name ∈ mutation.remove, ∃ header ∈ headers.toList, sameLetters header.key name = true

variable {wording : Wording} {find : String → Except Int Entry} {options : Options}
  {config : Config} {decision : DecisionSection} {headers : HeaderSet} {outcome : Outcome}
  {used : List (Except Decision.Error String)}

theorem exists_header_of_firstValue {name value : String} (h : headers.FirstValue name value) :
    ∃ header ∈ headers.toList, sameLetters header.key name = true := by
  obtain ⟨before, key, after, split, same, -⟩ := h
  exact ⟨⟨key, value⟩, by simp [split], same⟩

-- Names that differ in more than case keep what is set, whatever the client answers.
theorem keepsWhatItSets_of_decides
    (distinct : sameLetters decision.routingDecisionHeader decision.preferredServiceHeader = false)
    (decides : Engine.Decides decision.engine headers used (.ok outcome)) :
    KeepsWhatItSets decision headers outcome.mutation := by
  have named {name value : String} (h : headers.FirstValue name value) :
      ∀ removed ∈ [name], ∃ header ∈ headers.toList, sameLetters header.key removed = true := by
    simpa using exists_header_of_firstValue h
  cases decides with
  | preferred first | replaced first =>
    exact ⟨by simp [DecisionSection.engine], by simp [DecisionSection.engine],
      by simpa [DecisionSection.engine] using distinct, named first⟩
  | undecided => exact ⟨by simp, by simp, by simp, by simp⟩
  | added => exact ⟨by simp [DecisionSection.engine], by simp, by simp, by simp⟩

-- The engine of a configuration that has been loaded never removes what it sets, and it
-- removes nothing that the request does not have, whatever the decision server answers.
theorem decisions_keep_what_they_set (loaded : load wording find options = .ok config)
    (headers : HeaderSet) :
    IsLowerToken config.decision.routingDecisionHeader ∧
      IsLowerToken config.decision.preferredServiceHeader ∧
      (∀ exchange outcome,
        config.decision.engine.decide headers exchange = some (.ok outcome) →
          KeepsWhatItSets config.decision headers outcome.mutation) ∧
      ∀ answers rest outcome,
        config.decision.engine.decideBy Engine.nextLine headers answers =
            some (.ok outcome, rest) →
          KeepsWhatItSets config.decision headers outcome.mutation := by
  obtain ⟨base, -, -, valid⟩ := load_eq_ok_iff.1 loaded
  obtain ⟨-, valid⟩ := validate_eq_ok_iff.1 valid
  obtain ⟨preferred, decided, distinct, -⟩ := DecisionSection.validate_eq_ok_iff.1 valid
  have apart := sameLetters_eq_false (lower_of_isLowerHeaderName decided)
    (lower_of_isLowerHeaderName preferred) distinct.symm
  refine ⟨isLowerToken_of_isLowerHeaderName decided, isLowerToken_of_isLowerHeaderName preferred,
    ?_, ?_⟩
  · intro exchange outcome h
    obtain ⟨used, decides, -⟩ := Engine.decide_eq_some_iff.1 h
    exact keepsWhatItSets_of_decides apart decides
  · intro answers rest outcome h
    obtain ⟨used, -, decides⟩ := Engine.decideBy_nextLine_eq_some_iff.1 h
    exact keepsWhatItSets_of_decides apart decides

-- A request that names its service under the name that the options give, in other letters.
theorem renamed_header_kept_apart :
    let options : Options := { Options.none with preferredHeader := some "x-svc" }
    let config := default.overlay options
    let headers : HeaderSet := ⟨[⟨":path", "/"⟩, ⟨"X-SVC", "svc-a"⟩]⟩
    let mutation : HeaderMutation :=
      ⟨[⟨"x-routing-decision", "svc-a", .appendIfExistsOrAdd⟩], ["x-svc"]⟩
    load ⟨fun _ => "", fun _ => ""⟩ (fun _ => .error notFound) options = .ok config ∧
      config.decision.engine.decide headers .unreachable = some (.ok ⟨true, mutation⟩) ∧
      IsLowerToken "x-svc" ∧ KeepsWhatItSets config.decision headers mutation := by
  intro options config headers mutation
  have loaded : load ⟨fun _ => "", fun _ => ""⟩ (fun _ => .error notFound) options = .ok config := by
    decide +kernel
  have decided :
      config.decision.engine.decide headers .unreachable = some (.ok ⟨true, mutation⟩) := by
    decide +kernel
  obtain ⟨-, token, keeps, -⟩ := decisions_keep_what_they_set loaded headers
  exact ⟨loaded, decided, token, keeps .unreachable _ decided⟩

end Config

end RoutingProcessor
