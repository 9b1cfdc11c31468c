import RoutingProcessor.Config.Load
import RoutingProcessor.Proofs.Net.Uri

namespace RoutingProcessor

open Files Http Net

-- A check that passes has nothing to hand on.
theorem check_eq_ok_iff {ε α : Type} {check : Except ε PUnit} {rest : PUnit → Except ε α} {a : α} :
    check >>= rest = .ok a ↔ check = .ok ⟨⟩ ∧ rest ⟨⟩ = .ok a := by
  cases check <;> simp [bind, Except.bind]

theorem Config.validateHeader_eq_ok_iff {role : Config.HeaderRole} {name : String} :
    Config.validateHeader role name = .ok () ↔ isLowerHeaderName name = true := by
  simp [Config.validateHeader]

theorem DecisionSection.validate_eq_ok_iff {decision : DecisionSection} :
    decision.validate = .ok () ↔
      isLowerHeaderName decision.preferredServiceHeader = true ∧
        isLowerHeaderName decision.routingDecisionHeader = true ∧
        decision.preferredServiceHeader ≠ decision.routingDecisionHeader ∧
        ∀ url ∈ decision.routingDecisionServer, Config.validateServer url = .ok () := by
  unfold DecisionSection.validate
  simp only [check_eq_ok_iff, Config.validateHeader_eq_ok_iff]
  refine and_congr_right fun _ => and_congr_right fun _ => ?_
  by_cases same : decision.preferredServiceHeader = decision.routingDecisionHeader
  · rw [if_pos same]
    simp [same, throw, throwThe, MonadExceptOf.throw, bind, Except.bind]
  · rw [if_neg same]
    cases decision.routingDecisionServer <;> simp [same, pure, Except.pure]

namespace Config

variable {wording : Wording} {find : String → Except Int Entry} {options : Options}
  {config : Config}

theorem validate_eq_ok_iff :
    config.validate = .ok () ↔
      config.server.validate = .ok () ∧ config.decision.validate = .ok () :=
  check_eq_ok_iff

-- What a run is configured with: what the options give over the document that they name,
-- or over the defaults, if it stands the checks.
theorem load_eq_ok_iff :
    load wording find options = .ok config ↔
      ∃ base, options.config.elim (.ok .default) (ofFile wording find) = .ok base ∧
        config = base.overlay options ∧ config.validate = .ok () := by
  unfold load
  cases options.config with
  | none | some =>
    refine bind_eq_ok_iff.trans (exists_congr fun base => and_congr_right fun _ => ?_)
    dsimp only
    split
    case h_1 valid =>
      constructor
      · rintro ⟨⟩
        exact ⟨rfl, valid⟩
      · rintro ⟨rfl, _⟩
        rfl
    case h_2 invalid =>
      constructor
      · rintro ⟨⟩
      · rintro ⟨rfl, valid⟩
        cases invalid.symm.trans valid

end Config

end RoutingProcessor
