import RoutingProcessor.Proofs.Decision.Payload

namespace RoutingProcessor.Decision

open Text Json Http

namespace Payload

variable {body cut rest : Octets} {decision : String}

-- A document that is not over, as far as it goes, may be the beginning of one.
theorem State.finish_of_accepts {state : State} (h : state.Accepts rest decision)
    (visible : ¬Blank rest) :
    state.finish = .error .ended ∨ state.finish = .error .malformed := by
  cases state with
  | whole last => exact absurd (accepts_whole.1 h).1 visible
  | failed error => exact absurd h (Lost.failed error).not_accepts
  | strayNumber wanted numeral phase =>
    exact absurd h (Lost.number wanted numeral phase).not_accepts
  | skip found inner =>
    cases hcut : inner.cutsNumber with
    | true => exact .inr (by rw [finish, hcut, if_pos rfl])
    | false => exact .inl (by rw [finish, hcut, if_neg (by simp)])
  | start | list | listEnd | members | nextKey | colon | decisionValue | text | strayWord =>
    exact .inl rfl

theorem exists_not_blank_of_proper (cutOff : cut <+: body) (proper : cut ≠ body)
    (visible : ∀ b ∈ body.getLast?, isSpace b = false) : ∃ rest, cut ++ rest = body ∧ ¬Blank rest := by
  obtain ⟨rest, rfl⟩ := cutOff
  have hne : rest ≠ [] := by
    rintro rfl
    exact proper (List.append_nil cut).symm
  have hlast : (cut ++ rest).getLast? = some (rest.getLast hne) := by
    rw [List.getLast?_append, List.getLast?_eq_some_getLast hne, Option.some_or]
  have hvisible := visible _ hlast
  refine ⟨rest, rfl, fun blank => ?_⟩
  rw [blank _ (List.getLast_mem hne)] at hvisible
  cases hvisible

-- No part of a document up to some octet before its last is a document, nor one of another
-- meaning.
theorem decode_of_proper (good : decode body = .ok decision) (cutOff : cut <+: body)
    (proper : cut ≠ body) (visible : ∀ b ∈ body.getLast?, isSpace b = false) :
    decode cut = .error .ended ∨ decode cut = .error .malformed := by
  obtain ⟨rest, rfl, hrest⟩ := exists_not_blank_of_proper cutOff proper visible
  have h : (cut.foldl State.next .start).Accepts rest decision := by
    rw [decode, List.foldl_append] at good
    exact good
  exact State.finish_of_accepts h hrest

end Payload

namespace Client

variable {client : Client} {status : Status} {framing : Framing} {received body cut : Octets}
  {decision : String}

-- A body that is cut off never becomes a decision. Where the end of the connection is its end,
-- it is found to be no document, and where its length has been announced, to be too short.
theorem cut_body_undecided (sends : client.sends = true) (inRange : InRange status)
    (whole : framing.body? received = some body)
    (good : client.fetch (.response status framing received) = some (.ok decision))
    (visible : ∀ b ∈ body.getLast?, isSpace b = false) (cutOff : cut <+: body)
    (proper : cut ≠ body) {status' : Status} (inRange' : InRange status') :
    (∀ {framing' : Framing} {received' : Octets}, framing'.body? received' = some cut →
      ∃ cause, (cause = .ended ∨ cause = .malformed) ∧
        client.fetch (.response status' framing' received') = some (.error (.decode cause))) ∧
    client.fetch (.response status' (.length body.length) cut) = some (.error .body) := by
  rw [fetch_eq_ok_iff sends inRange whole] at good
  constructor
  · intro framing' received' whole'
    rw [fetch_of_body sends inRange' whole']
    rcases Payload.decode_of_proper good cutOff proper visible with h | h
    · exact ⟨.ended, .inl rfl, by rw [h]; rfl⟩
    · exact ⟨.malformed, .inr rfl, by rw [h]; rfl⟩
  · have shorter : cut.length < body.length :=
      lt_of_le_of_ne cutOff.length_le fun h => proper (cutOff.eq_of_length h)
    have missing : (Framing.length body.length).body? cut = none := by
      rw [Framing.body?, if_neg (by omega)]
    rw [fetch_of_sends sends, ofResponse, if_pos (isDecodable_iff.2 inRange'), missing]

-- The last letter of the decision is cut in two.
theorem halved_letter_undecided :
    (∃ cause, (cause = .ended ∨ cause = .malformed) ∧
      Client.fetch ⟨some "http://10.0.0.7:9000/decide", none⟩ (.response .ok .untilClose
        ((octets "\x7b\"decision\":\"é\"\x7d").take 14)) = some (.error (.decode cause))) ∧
    Client.fetch ⟨some "http://10.0.0.7:9000/decide", none⟩ (.response .ok (.length 17)
      ((octets "\x7b\"decision\":\"é\"\x7d").take 14)) = some (.error .body) := by
  have good : Client.fetch ⟨some "http://10.0.0.7:9000/decide", none⟩ (.response .ok .untilClose
      (octets "\x7b\"decision\":\"é\"\x7d")) = some (.ok "é") := by
    with_unfolding_all rfl
  have undecided := @cut_body_undecided _ .ok .untilClose _ _
    ((octets "\x7b\"decision\":\"é\"\x7d").take 14) _ (by decide) ⟨by decide, by decide⟩ rfl good
    (by decide +kernel) (List.take_prefix 14 _) (by decide +kernel) .ok ⟨by decide, by decide⟩
  exact ⟨@undecided.1 .untilClose _ rfl, undecided.2⟩

end Client

end RoutingProcessor.Decision
