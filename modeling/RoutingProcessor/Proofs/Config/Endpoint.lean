import RoutingProcessor.Config.Validate
import RoutingProcessor.Decision.Engine
import RoutingProcessor.Proofs.Decision.Fetch
import RoutingProcessor.Proofs.Net.Url

namespace RoutingProcessor.DecisionSection

open Net Decision

variable {decision : DecisionSection} {url : String}

theorem validateServer_of_validate (valid : decision.validate = .ok ())
    (given : decision.routingDecisionServer = some url) : Config.validateServer url = .ok () := by
  obtain ⟨-, -, valid⟩ := bind_eq_ok_iff.1 valid
  obtain ⟨-, -, valid⟩ := bind_eq_ok_iff.1 valid
  dsimp only at valid
  split at valid
  · cases valid
  · simpa [given] using valid

theorem parse_of_validateServer (h : Config.validateServer url = .ok ()) :
    ∃ found, Url.parse url = .ok found := by
  cases read : Url.parse url with
  | error cause => simp [Config.validateServer, read] at h
  | ok found => exact ⟨found, rfl⟩

theorem endpoint_eq (given : decision.routingDecisionServer = some url) :
    decision.engine.client.endpoint = some url := given

theorem sends_iff (given : decision.routingDecisionServer = some url) (nonempty : url ≠ "") :
    decision.engine.client.sends = true ↔
      ∃ uri, Uri.parse url = .ok uri ∧ uri.scheme = some "http" := by
  cases read : Uri.parse url with
  | error cause =>
    have failed := Client.target_of_invalid (endpoint_eq given) nonempty read
    simp [Client.sends, failed]
  | ok uri =>
    obtain ⟨endpoint, htarget⟩ := Client.target_of_leads ⟨url, endpoint_eq given, read⟩
    simp [Client.sends, htarget]

theorem fetch_ne_notConfigured (given : decision.routingDecisionServer = some url)
    (nonempty : url ≠ "") (exchange : Http.Exchange) :
    decision.engine.client.fetch exchange ≠ some (.error .notConfigured) := by
  intro unset
  have fetched := Client.fetched_fetch decision.engine.client exchange
  rw [unset] at fetched
  cases fetched with
  | unset h => simp [endpoint_eq given, nonempty] at h
  | concluded _ h => cases h

-- An endpoint that leads somewhere is no reason for a failure.
theorem kind_ne_configuration {client : Client} {uri : Uri} {exchange : Http.Exchange} {error : Error}
    (leads : client.Leads uri) (failed : client.fetch exchange = some (.error error)) :
    error.kind ≠ .configuration := by
  intro kind
  have fetched := Client.fetched_fetch client exchange
  rw [failed] at fetched
  exact leads.not_unusable (fetched.kind_eq_configuration_iff.1 kind)

-- A decision server that is accepted at the start is asked at run time if its address is
-- spelled out, and without user information only then.
theorem accepted_endpoint_usable (valid : decision.validate = .ok ())
    (given : decision.routingDecisionServer = some url) :
    (∀ exchange, decision.engine.client.fetch exchange ≠ some (.error .notConfigured)) ∧
      (Uri.Spelled url → decision.engine.client.sends = true ∧ ∀ exchange endpoint cause,
        decision.engine.client.fetch exchange ≠ some (.error (.invalidEndpoint endpoint cause))) ∧
      (Uri.Bare url → decision.engine.client.sends = true → Uri.Spelled url) := by
  obtain ⟨found, accepted⟩ := parse_of_validateServer (validateServer_of_validate valid given)
  have nonempty : url ≠ "" := by
    rintro rfl
    cases accepted
  refine ⟨fetch_ne_notConfigured given nonempty, ?_, ?_⟩
  · rintro ⟨scheme, authority, rest, cut, chars⟩
    have whole := Url.whole_of_parse cut chars accepted
    obtain ⟨uri, read, hscheme⟩ := Uri.parse_web_iff.2 ⟨scheme, authority, rest, cut, whole⟩
    have leads : decision.engine.client.Leads uri := ⟨url, endpoint_eq given, read⟩
    refine ⟨(sends_iff given nonempty).2 ⟨uri, read, hscheme⟩, ?_⟩
    exact fun exchange endpoint cause failed => kind_ne_configuration leads failed rfl
  · intro bare sends
    obtain ⟨uri, read, hscheme⟩ := (sends_iff given nonempty).1 sends
    exact Url.spelled_of_parse bare accepted read hscheme

def withServer (url : String) : DecisionSection := { default with routingDecisionServer := some url }

theorem spelled_of_port_and_query : Uri.Spelled "http://10.0.0.7:9000/decide?v=1" := by
  refine ⟨"http://".toList, "10.0.0.7:9000".toList, "/decide?v=1".toList, ?_,
    List.all_eq_true.1 (by decide +kernel)⟩
  exact
    { whole := by decide +kernel
      web := by decide +kernel
      named := by decide +kernel
      inside := by simp [Uri.endsAuthority]
      ended := by simp [Uri.endsAuthority]
      trails := ⟨"/decide".toList, "?v=1".toList, [], by decide +kernel,
        List.all_eq_true.1 (by decide +kernel),
        .inr ⟨"v=1".toList, by decide +kernel, List.all_eq_true.1 (by decide +kernel)⟩, by simp⟩
      short := by decide +kernel }

theorem port_and_query_accepted_and_asked :
    (withServer "http://10.0.0.7:9000/decide?v=1").validate = .ok () ∧
      (withServer "http://10.0.0.7:9000/decide?v=1").engine.client.sends = true := by
  have valid : (withServer "http://10.0.0.7:9000/decide?v=1").validate = .ok () := by
    decide +kernel
  obtain ⟨-, usable, -⟩ := accepted_endpoint_usable valid rfl
  exact ⟨valid, (usable spelled_of_port_and_query).1⟩

-- A blank in the path is encoded by the reader that accepts the address and refused by the
-- one that asks the server, so no request is ever made.
theorem blank_accepted_but_never_asked :
    (withServer "http://10.0.0.7:9000/a b").validate = .ok () ∧
      ∀ exchange, (withServer "http://10.0.0.7:9000/a b").engine.client.fetch exchange =
        some (.error (.invalidEndpoint "http://10.0.0.7:9000/a b" .invalidCharacter)) := by
  refine ⟨by decide +kernel, fun exchange => ?_⟩
  exact Client.fetch_of_target_error (by decide +kernel)

end RoutingProcessor.DecisionSection
