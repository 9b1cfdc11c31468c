import RoutingProcessor.Proofs.Decision.Specification
import RoutingProcessor.Proofs.Text.Lossy
import RoutingProcessor.Stream.Respond

namespace RoutingProcessor

open Text Utf8

-- The octets of a header as the proxy means them: the raw ones if there are any, and else
-- those of its text.
def WireHeader.carried (header : WireHeader) : Octets :=
  if header.raw = [] then octets header.value else header.raw

theorem Header.value_ofWire (header : WireHeader) :
    (Header.ofWire header).value = decodeLossy header.carried := by
  by_cases h : header.raw = []
  · simp [Header.ofWire, WireHeader.carried, h]
  · simp [Header.ofWire, WireHeader.carried, h]

namespace Stream

open Http Decision

-- The first header with the preferred name, in whatever case, carries these octets.
def Prefers (engine : Engine) (headers : List WireHeader) (carried : Octets) : Prop :=
  ∃ before header after, headers = before ++ header :: after ∧
    sameLetters header.key engine.preferredHeader = true ∧
    (∀ other ∈ before, sameLetters other.key engine.preferredHeader = false) ∧
    header.carried = carried

-- The response that sets the decision header to these octets and uses the preferred one up.
def setting (engine : Engine) (raw : Octets) : Response where
  phase := some .requestHeaders
  common := some {
    status := .proceed
    headerMutation := some {
      set := [{
        key := engine.decisionHeader
        value := ""
        raw := raw
        action := AppendPolicy.appendIfExistsOrAdd.code
        keepEmptyValue := false }]
      remove := [engine.preferredHeader] }
    clearRouteCache := true
    bodyMutation := false
    trailers := false }

variable {engine : Engine} {headers : List WireHeader} {carried : Octets}

theorem Prefers.firstValue (h : Prefers engine headers carried) :
    (HeaderSet.ofWire headers).FirstValue engine.preferredHeader (decodeLossy carried) := by
  obtain ⟨before, header, after, split, named, earlier, rfl⟩ := h
  refine ⟨before.map Header.ofWire, header.key, after.map Header.ofWire, ?_, named, ?_⟩
  · rw [← Header.value_ofWire, HeaderSet.ofWire, split, List.map_append, List.map_cons]
    rfl
  · intro other hother
    obtain ⟨wire, hwire, rfl⟩ := List.mem_map.1 hother
    exact earlier wire hwire

theorem Prefers.preferred? (h : Prefers engine headers carried) (nonempty : carried ≠ []) :
    engine.preferred? (.ofWire headers) = some (decodeLossy carried) :=
  Engine.preferred?_eq_some_iff.2
    ⟨HeaderSet.get?_eq_some_iff.2 h.firstValue, decodeLossy_ne_empty nonempty⟩

-- A preferred value is answered without the decision server.
theorem respond_of_prefers (h : Prefers engine headers carried) (nonempty : carried ≠ [])
    (exchange : Exchange) :
    requests engine exchange (.requestHeaders headers) = 0 ∧
      respond engine exchange (.requestHeaders headers) =
        some (setting engine (octets (decodeLossy carried))) := by
  have hpreferred := h.preferred? nonempty
  constructor
  · simp [requests, Engine.requests, Engine.asks, hpreferred]
  · have houtcome := Engine.outcome_of_firstValue (decodeLossy carried) h.firstValue
    simp only [respond, Engine.decide, hpreferred, houtcome, Option.map_some, ofDecision]
    rfl

-- The preferred value reaches the proxy unaltered where it can, and as the nearest text where
-- it cannot. Nothing but the octets of its header has a say in the response.
theorem preferred_octets_reach_proxy (engine : Engine) {carried : Octets}
    (nonempty : carried ≠ []) :
    ∃ raw, (∀ out, Mended carried out ↔ out = raw) ∧ raw ≠ [] ∧ (raw = carried ↔ IsText carried) ∧
      ∀ headers, Prefers engine headers carried ∨ Prefers engine headers raw → ∀ exchange,
        requests engine exchange (.requestHeaders headers) = 0 ∧
          respond engine exchange (.requestHeaders headers) = some (setting engine raw) := by
  have hraw : octets (decodeLossy carried) ≠ [] := octets_ne_nil (decodeLossy_ne_empty nonempty)
  refine ⟨octets (decodeLossy carried), fun _ => mended_iff, hraw, octets_decodeLossy_eq_iff, ?_⟩
  rintro headers (h | h) exchange
  · exact respond_of_prefers h nonempty exchange
  · have hrespond := respond_of_prefers h hraw exchange
    rwa [decodeLossy_octets] at hrespond

-- A stray octet and a character that is cut off are replaced, one by one.
theorem broken_value_mended_for_proxy :
    ([0x73, 0xFF, 0xE2, 0x82] : Octets) ≠ [] ∧
      Prefers ⟨"preferred-svc", "x-routing-decision", ⟨none, none⟩⟩
        [⟨"X-Id", "1", []⟩, ⟨"Preferred-Svc", "", [0x73, 0xFF, 0xE2, 0x82]⟩]
        [0x73, 0xFF, 0xE2, 0x82] ∧
      ∀ exchange,
        respond ⟨"preferred-svc", "x-routing-decision", ⟨none, none⟩⟩ exchange
            (.requestHeaders [⟨"X-Id", "1", []⟩, ⟨"Preferred-Svc", "", [0x73, 0xFF, 0xE2, 0x82]⟩]) =
          some (setting ⟨"preferred-svc", "x-routing-decision", ⟨none, none⟩⟩
            [0x73, 0xEF, 0xBF, 0xBD, 0xEF, 0xBF, 0xBD]) := by
  have prefers : Prefers ⟨"preferred-svc", "x-routing-decision", ⟨none, none⟩⟩
      [⟨"X-Id", "1", []⟩, ⟨"Preferred-Svc", "", [0x73, 0xFF, 0xE2, 0x82]⟩]
      [0x73, 0xFF, 0xE2, 0x82] :=
    ⟨[⟨"X-Id", "1", []⟩], ⟨"Preferred-Svc", "", [0x73, 0xFF, 0xE2, 0x82]⟩, [], rfl, by decide,
      by decide, rfl⟩
  refine ⟨by decide, prefers, fun exchange => ?_⟩
  obtain ⟨raw, mended, -, -, answered⟩ :=
    preferred_octets_reach_proxy ⟨"preferred-svc", "x-routing-decision", ⟨none, none⟩⟩
      (show ([0x73, 0xFF, 0xE2, 0x82] : Octets) ≠ [] by decide)
  have hraw : [0x73, 0xEF, 0xBF, 0xBD, 0xEF, 0xBF, 0xBD] = raw :=
    (mended _).1 (mended_iff.2 (by decide +kernel))
  rw [hraw]
  exact (answered _ (.inl prefers) exchange).2

end Stream

end RoutingProcessor
