import RoutingProcessor.Proofs.Text.Utf8

namespace RoutingProcessor.Text

open String (utf8EncodeChar)

variable {c d : Char} {a b : String} {m n : Nat} {front back : Octets}

-- Two lists of octets compare by their first octets, and by what follows where these agree.
theorem cons_lt_cons (hn : n < 256) (hle : m ≤ n) (heq : m = n → front < back) :
    UInt8.ofNat m :: front < UInt8.ofNat n :: back := by
  rw [List.cons_lt_cons_iff]
  by_cases h : m = n
  · exact .inr ⟨by rw [h], heq h⟩
  · left
    rw [UInt8.lt_iff_toNat_lt, Utf8.toNat_octet (by omega), Utf8.toNat_octet hn]
    omega

-- The octets of a smaller character come first, whatever follows.
theorem encode_append_lt (h : c < d) (front back : Octets) :
    utf8EncodeChar c ++ front < utf8EncodeChar d ++ back := by
  have hlt : c.toNat < d.toNat := h
  have valid : d.toNat < 0xD800 ∨ 0xDFFF < d.toNat ∧ d.toNat < 0x110000 := d.valid
  unfold utf8EncodeChar
  simp only [Char.toNat_val]
  by_cases h1 : c.toNat ≤ 127
  · rw [if_pos h1]
    split
    · exact cons_lt_cons (by omega) (by omega) fun _ => by omega
    split
    · exact cons_lt_cons (by omega) (by omega) fun _ => by omega
    split
    · exact cons_lt_cons (by omega) (by omega) fun _ => by omega
    · exact cons_lt_cons (by omega) (by omega) fun _ => by omega
  by_cases h2 : c.toNat ≤ 2047
  · rw [if_neg h1, if_pos h2, if_neg (by omega)]
    split
    · refine cons_lt_cons (by omega) (by omega) fun _ => ?_
      exact cons_lt_cons (by omega) (by omega) fun _ => by omega
    split
    · exact cons_lt_cons (by omega) (by omega) fun _ => by omega
    · exact cons_lt_cons (by omega) (by omega) fun _ => by omega
  by_cases h3 : c.toNat ≤ 65535
  · rw [if_neg h1, if_neg h2, if_pos h3, if_neg (by omega), if_neg (by omega)]
    split
    · refine cons_lt_cons (by omega) (by omega) fun _ => ?_
      refine cons_lt_cons (by omega) (by omega) fun _ => ?_
      exact cons_lt_cons (by omega) (by omega) fun _ => by omega
    · exact cons_lt_cons (by omega) (by omega) fun _ => by omega
  · rw [if_neg h1, if_neg h2, if_neg h3, if_neg (by omega), if_neg (by omega), if_neg (by omega)]
    refine cons_lt_cons (by omega) (by omega) fun _ => ?_
    refine cons_lt_cons (by omega) (by omega) fun _ => ?_
    refine cons_lt_cons (by omega) (by omega) fun _ => ?_
    exact cons_lt_cons (by omega) (by omega) fun _ => by omega

-- Texts are in the order of their octets.
theorem octets_lt_octets (h : a < b) : octets a < octets b := by
  rw [String.lt_iff] at h
  unfold octets
  generalize a.toList = cs at h ⊢
  generalize b.toList = ds at h ⊢
  induction h with
  | @nil d ds =>
    obtain ⟨b, tail, hd⟩ := List.exists_cons_of_ne_nil (String.utf8EncodeChar_ne_nil (c := d))
    rw [List.flatMap_nil, List.flatMap_cons, hd]
    exact List.nil_lt_cons b _
  | rel h => exact encode_append_lt h _ _
  | @cons c cs ds _ ih =>
    rw [List.flatMap_cons, List.flatMap_cons]
    exact List.append_left_lt ih

end RoutingProcessor.Text
