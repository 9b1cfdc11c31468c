import RoutingProcessor.Proofs.Json.Grammar
import RoutingProcessor.Proofs.Text.WellFormed

namespace RoutingProcessor.Json

open Text
open String (utf8EncodeChar)

section Hex

variable {a b c d : UInt8} {n w x y z : Nat}

theorem hexValue?_eq_some_iff : hexValue? b = some n ↔ HexDigit b n := by
  simp only [hexValue?, HexDigit, Bool.and_eq_true, decide_eq_true_eq, UInt8.le_iff_toNat_le]
  have h30 : (0x30 : UInt8).toNat = 48 := rfl
  have h39 : (0x39 : UInt8).toNat = 57 := rfl
  have h61 : (0x61 : UInt8).toNat = 97 := rfl
  have h66 : (0x66 : UInt8).toNat = 102 := rfl
  have h41 : (0x41 : UInt8).toNat = 65 := rfl
  have h46 : (0x46 : UInt8).toNat = 70 := rfl
  split
  · rw [Option.some.injEq]
    omega
  split
  · rw [Option.some.injEq]
    omega
  split
  · rw [Option.some.injEq]
    omega
  · simp only [reduceCtorEq, false_iff]
    omega

theorem HexDigit.lt (h : HexDigit b n) : n < 16 := by
  unfold HexDigit at h
  omega

theorem hexNumber?_four :
    hexNumber? [a, b, c, d] = some n ↔ UnitEscape n [0x5C, 0x75, a, b, c, d] := by
  simp only [hexNumber?, List.foldlM_cons, List.foldlM_nil, Option.bind_eq_bind,
    Option.bind_eq_some_iff, Option.map_eq_some_iff, hexValue?_eq_some_iff, Option.pure_def,
    Option.some.injEq]
  constructor
  · rintro ⟨_, ⟨w, ha, rfl⟩, _, ⟨x, hb, rfl⟩, _, ⟨y, hc, rfl⟩, _, ⟨z, hd, rfl⟩, rfl⟩
    have hunit := UnitEscape.mk ha hb hc hd
    rwa [Nat.zero_mul, Nat.zero_add]
  · intro h
    cases h with
    | mk ha hb hc hd =>
      exact ⟨_, ⟨_, ha, rfl⟩, _, ⟨_, hb, rfl⟩, _, ⟨_, hc, rfl⟩, _, ⟨_, hd, rfl⟩, by simp⟩

theorem UnitEscape.lt {u : Octets} (h : UnitEscape n u) : n < 0x10000 := by
  cases h with
  | mk ha hb hc hd =>
    have := ha.lt
    have := hb.lt
    have := hc.lt
    have := hd.lt
    omega

theorem UnitEscape.exists_digits {u : Octets} (h : UnitEscape n u) :
    ∃ a b c d, u = [0x5C, 0x75, a, b, c, d] ∧ hexNumber? [a, b, c, d] = some n := by
  cases h with
  | mk ha hb hc hd => exact ⟨_, _, _, _, rfl, hexNumber?_four.2 (.mk ha hb hc hd)⟩

end Hex

theorem shortEscape?_eq_some_iff {b o : UInt8} :
    TextPhase.shortEscape? b = some o ↔ ∃ c, (b, c) ∈ letters ∧ utf8EncodeChar c = [o] := by
  constructor
  · intro h
    unfold TextPhase.shortEscape? at h
    simp only [Bool.or_eq_true, decide_eq_true_eq] at h
    split at h
    · next hb =>
      rcases hb with (rfl | rfl) | rfl <;> cases h
      · exact ⟨'"', by decide, rfl⟩
      · exact ⟨'\\', by decide, rfl⟩
      · exact ⟨'/', by decide, rfl⟩
    split at h
    · next hb =>
      subst hb
      cases h
      exact ⟨'\x08', by decide, rfl⟩
    split at h
    · next hb =>
      subst hb
      cases h
      exact ⟨'\x0C', by decide, rfl⟩
    split at h
    · next hb =>
      subst hb
      cases h
      exact ⟨'\n', by decide, rfl⟩
    split at h
    · next hb =>
      subst hb
      cases h
      exact ⟨'\r', by decide, rfl⟩
    split at h
    · next hb =>
      subst hb
      cases h
      exact ⟨'\t', by decide, rfl⟩
    · cases h
  · rintro ⟨c, h, hc⟩
    simp only [letters, List.mem_cons, List.not_mem_nil, or_false, Prod.mk.injEq] at h
    rcases h with h | h | h | h | h | h | h | h <;> obtain ⟨rfl, rfl⟩ := h <;> cases hc <;> rfl

theorem Escape.length_pos {c : Char} {e : Octets} (h : Escape c e) : 0 < e.length := by
  cases h with
  | letter => simp
  | unit h =>
    obtain ⟨a, b, c, d, rfl, -⟩ := h.exists_digits
    simp
  | pair _ h =>
    obtain ⟨a, b, c, d, rfl, -⟩ := h.exists_digits
    simp

theorem ne_unit_of_mem_letters {b : UInt8} {c : Char} (h : (b, c) ∈ letters) : b ≠ 0x75 := by
  rintro rfl
  simp [letters] at h

namespace TextPhase

-- Takes a text up to its closing quote, octet by octet: its value, and what stands behind the
-- quote.
def scan? (step : TextPhase → UInt8 → Step) (phase : TextPhase) : Octets → Option (Octets × Octets)
  | [] => none
  | b :: bs =>
    match step phase b with
    | .goes phase more => (scan? step phase bs).map fun (value, rest) => (more ++ value, rest)
    | .ends => some ([], bs)
    | .fails => none

-- Goes on behind a step.
def Step.scan? (step : TextPhase → UInt8 → Step) : Step → Octets → Option (Octets × Octets)
  | .goes phase more, bs =>
    (phase.scan? step bs).map fun (value, rest) => (more ++ value, rest)
  | .ends, bs => some ([], bs)
  | .fails, _ => none

variable {step : TextPhase → UInt8 → Step} {phase : TextPhase} {b : UInt8} {c : Char}
  {bs value rest w more : Octets} {n : Nat}

theorem scan?_cons (step : TextPhase → UInt8 → Step) (phase : TextPhase) (b : UInt8)
    (bs : Octets) : phase.scan? step (b :: bs) = (step phase b).scan? step bs := by
  rw [TextPhase.scan?]
  cases step phase b <;> rfl

theorem scan?_goes :
    (Step.goes phase more).scan? step bs = some (value, rest) ↔
      ∃ value', phase.scan? step bs = some (value', rest) ∧ value = more ++ value' := by
  simp only [Step.scan?, Option.map_eq_some_iff, Prod.mk.injEq, Prod.exists]
  constructor
  · rintro ⟨value', rest, h, rfl, rfl⟩
    exact ⟨value', h, rfl⟩
  · rintro ⟨value', h, rfl⟩
    exact ⟨value', rest, h, rfl, rfl⟩

-- Four digits are collected and then judged together.
theorem scan?_unit {collect : Octets → TextPhase} {judge : Nat → Step} {result : Octets × Octets}
    (hstep : ∀ taken b, step (collect taken) b =
      if taken.length < 3 then .goes (collect (taken ++ [b])) []
      else (hexNumber? (taken ++ [b])).elim .fails judge) :
    (collect []).scan? step bs = some result ↔
      ∃ n digits after, bs = digits ++ after ∧ UnitEscape n (0x5C :: 0x75 :: digits) ∧
        (judge n).scan? step after = some result := by
  have four : ∀ a b c d after, (collect []).scan? step (a :: b :: c :: d :: after) =
      ((hexNumber? [a, b, c, d]).elim .fails judge).scan? step after := by
    intro a b c d after
    simp [scan?_cons, hstep, Step.scan?]
  constructor
  · intro h
    match bs, h with
    | [], h => cases h
    | [a], h => simp [hstep, scan?] at h
    | [a, b], h => simp [hstep, scan?] at h
    | [a, b, c], h => simp [hstep, scan?] at h
    | a :: b :: c :: d :: after, h =>
      rw [four] at h
      cases hn : hexNumber? [a, b, c, d] with
      | none =>
        rw [hn] at h
        cases h
      | some n =>
        rw [hn] at h
        exact ⟨n, [a, b, c, d], after, rfl, hexNumber?_four.1 hn, h⟩
  · rintro ⟨n, digits, after, rfl, hunit, h⟩
    obtain ⟨a, b, c, d, hdigits, hn⟩ := hunit.exists_digits
    cases hdigits
    rw [List.cons_append, List.cons_append, List.cons_append, List.cons_append, List.nil_append,
      four, hn]
    exact h

theorem next_of_isPlain (h : IsPlain b) : next plain b = .goes plain [b] := by
  have hctl : ¬b < 0x20 := UInt8.not_lt.2 h.1
  rw [next, if_neg h.2.1, if_neg h.2.2, if_neg hctl]

theorem next_of_mem_letters (h : (b, c) ∈ letters) :
    next escape b = .goes plain (utf8EncodeChar c) := by
  have hshort : ∃ o, utf8EncodeChar c = [o] := by
    simp only [letters, List.mem_cons, List.not_mem_nil, or_false, Prod.mk.injEq] at h
    rcases h with h | h | h | h | h | h | h | h <;> exact ⟨_, by rw [h.2]; rfl⟩
  obtain ⟨o, ho⟩ := hshort
  have hb : shortEscape? b = some o := shortEscape?_eq_some_iff.2 ⟨c, h, ho⟩
  rw [next, if_neg (ne_unit_of_mem_letters h), hb, ho]

-- All that can stand first in a text.
theorem cases_of_scan?_plain (hplain : step plain = next plain) (hescape : step escape = next escape)
    (h : plain.scan? step bs = some (value, rest)) :
    (bs = 0x22 :: rest ∧ value = []) ∨
    (∃ b bs' value', bs = b :: bs' ∧ IsPlain b ∧ plain.scan? step bs' = some (value', rest) ∧
      value = b :: value') ∨
    (∃ b c bs' value', bs = 0x5C :: b :: bs' ∧ (b, c) ∈ letters ∧
      plain.scan? step bs' = some (value', rest) ∧ value = utf8EncodeChar c ++ value') ∨
    ∃ bs', bs = 0x5C :: 0x75 :: bs' ∧ (hex []).scan? step bs' = some (value, rest) := by
  match bs, h with
  | [], h => cases h
  | b :: bs, h =>
    rw [scan?_cons, hplain, next] at h
    split at h
    · next hb =>
      cases h
      exact .inl ⟨by rw [hb], rfl⟩
    split at h
    · next hb =>
      obtain ⟨value', h', rfl⟩ := scan?_goes.1 h
      match bs, h' with
      | [], h' => cases h'
      | a :: bs, h' =>
        rw [scan?_cons, hescape, next] at h'
        split at h'
        · next ha =>
          obtain ⟨value, h'', rfl⟩ := scan?_goes.1 h'
          exact .inr (.inr (.inr ⟨bs, by rw [hb, ha], h''⟩))
        · cases ho : shortEscape? a with
          | none =>
            rw [ho] at h'
            cases h'
          | some o =>
            obtain ⟨c, hc, hco⟩ := shortEscape?_eq_some_iff.1 ho
            rw [ho] at h'
            obtain ⟨value, h'', rfl⟩ := scan?_goes.1 h'
            exact .inr (.inr (.inl ⟨a, c, bs, value, by rw [hb], hc, h'', by rw [hco]⟩))
    · next hquote hslash =>
      split at h
      · cases h
      · next hctl =>
        obtain ⟨value', h', rfl⟩ := scan?_goes.1 h
        have hb : IsPlain b := ⟨UInt8.not_lt.1 hctl, hquote, hslash⟩
        exact .inr (.inl ⟨b, bs, value', rfl, hb, h', rfl⟩)

theorem scan?_letter (hplain : step plain = next plain) (hescape : step escape = next escape)
    (h : (b, c) ∈ letters) (bs : Octets) :
    plain.scan? step (0x5C :: b :: bs) = (Step.goes plain (utf8EncodeChar c)).scan? step bs := by
  have hslash : next plain 0x5C = .goes escape [] := rfl
  rw [scan?_cons, hplain, hslash, Step.scan?, scan?_cons, hescape, next_of_mem_letters h]
  simp

theorem scan?_unit_mark (hplain : step plain = next plain) (hescape : step escape = next escape)
    (bs : Octets) : plain.scan? step (0x5C :: 0x75 :: bs) = (hex []).scan? step bs := by
  have hslash : next plain 0x5C = .goes escape [] := rfl
  have hmark : next escape 0x75 = .goes (hex []) [] := rfl
  rw [scan?_cons, hplain, hslash, Step.scan?, scan?_cons, hescape, hmark, Step.scan?]
  simp

theorem scan?_hex :
    (hex []).scan? next bs = some (value, rest) ↔
      ∃ n digits after, bs = digits ++ after ∧ UnitEscape n (0x5C :: 0x75 :: digits) ∧
        (ofUnit n).scan? next after = some (value, rest) := by
  apply scan?_unit
  intro taken b
  rw [next]
  cases hexNumber? (taken ++ [b]) <;> rfl

theorem scan?_lowHex {high : Nat} :
    (lowHex high []).scan? next bs = some (value, rest) ↔
      ∃ n digits after, bs = digits ++ after ∧ UnitEscape n (0x5C :: 0x75 :: digits) ∧
        (ofPair high n).scan? next after = some (value, rest) := by
  apply scan?_unit
  intro taken b
  rw [next]
  cases hexNumber? (taken ++ [b]) <;> rfl

theorem ofUnit_char (h : c.toNat < 0x10000) : ofUnit c.toNat = .goes plain (utf8EncodeChar c) := by
  have hvalid : c.toNat < 0xD800 ∨ 0xDFFF < c.toNat ∧ c.toNat < 0x110000 := c.valid
  have hlow : ¬isLowSurrogate c.toNat = true := by
    simp only [isLowSurrogate, Bool.and_eq_true, decide_eq_true_eq]
    omega
  have hhigh : ¬isHighSurrogate c.toNat = true := by
    simp only [isHighSurrogate, Bool.and_eq_true, decide_eq_true_eq]
    omega
  rw [ofUnit, if_neg hlow, if_neg hhigh, Char.ofNat_toNat]

theorem ofUnit_high (h : isHighSurrogate n = true) : ofUnit n = .goes (lowSlash n) [] := by
  have hlow : ¬isLowSurrogate n = true := by
    simp only [isLowSurrogate, isHighSurrogate, Bool.and_eq_true, decide_eq_true_eq] at h ⊢
    omega
  rw [ofUnit, if_neg hlow, if_pos h]

theorem isHighSurrogate_of_beyond (c : Char) :
    isHighSurrogate (0xD800 + (c.toNat - 0x10000) / 0x400) = true := by
  have hvalid : c.toNat < 0xD800 ∨ 0xDFFF < c.toNat ∧ c.toNat < 0x110000 := c.valid
  simp only [isHighSurrogate, Bool.and_eq_true, decide_eq_true_eq]
  omega

theorem ofPair_beyond (h : 0x10000 ≤ c.toNat) :
    ofPair (0xD800 + (c.toNat - 0x10000) / 0x400) (0xDC00 + (c.toNat - 0x10000) % 0x400) =
      .goes plain (utf8EncodeChar c) := by
  have hlow : isLowSurrogate (0xDC00 + (c.toNat - 0x10000) % 0x400) = true := by
    simp only [isLowSurrogate, Bool.and_eq_true, decide_eq_true_eq]
    omega
  have hsum : (0xD800 + (c.toNat - 0x10000) / 0x400 - 0xD800) * 0x400 +
      (0xDC00 + (c.toNat - 0x10000) % 0x400 - 0xDC00) + 0x10000 = c.toNat := by
    omega
  rw [ofPair, if_pos hlow, hsum, Char.ofNat_toNat]

theorem scan?_lowMark (high : Nat) (bs : Octets) :
    (lowSlash high).scan? next (0x5C :: 0x75 :: bs) = (lowHex high []).scan? next bs := by
  have hslash : next (lowSlash high) 0x5C = .goes (lowMark high) [] := rfl
  have hmark : next (lowMark high) 0x75 = .goes (lowHex high []) [] := rfl
  rw [scan?_cons, hslash, Step.scan?, scan?_cons, hmark, Step.scan?]
  simp

theorem exists_lowMark {high : Nat}
    (h : (lowSlash high).scan? next bs = some (value, rest)) :
    ∃ bs', bs = 0x5C :: 0x75 :: bs' ∧ (lowHex high []).scan? next bs' = some (value, rest) := by
  match bs, h with
  | [], h => cases h
  | [a], h =>
    rw [scan?_cons, next] at h
    split at h <;> cases h
  | a :: b :: bs, h =>
    have hread := h
    rw [scan?_cons, next] at h
    split at h
    · next ha =>
      obtain ⟨value', h', -⟩ := scan?_goes.1 h
      rw [scan?_cons, next] at h'
      split at h'
      · next hb =>
        subst ha hb
        rw [scan?_lowMark] at hread
        exact ⟨bs, rfl, hread⟩
      · cases h'
    · cases h

-- An escape is read as its character.
theorem scan?_escape {e : Octets} (h : Escape c e)
    (hread : plain.scan? next bs = some (value, rest)) :
    plain.scan? next (e ++ bs) = some (utf8EncodeChar c ++ value, rest) := by
  have hgoes : (Step.goes plain (utf8EncodeChar c)).scan? next bs =
      some (utf8EncodeChar c ++ value, rest) := scan?_goes.2 ⟨value, hread, rfl⟩
  cases h with
  | letter h =>
    rw [List.cons_append, List.cons_append, List.nil_append, scan?_letter rfl rfl h, hgoes]
  | unit h =>
    obtain ⟨a, b, c', d, rfl, -⟩ := h.exists_digits
    refine (scan?_unit_mark rfl rfl _).trans (scan?_hex.2 ⟨_, [a, b, c', d], bs, rfl, h, ?_⟩)
    rw [ofUnit_char h.lt, hgoes]
  | pair beyond hhigh hlow =>
    obtain ⟨a, b, c', d, rfl, -⟩ := hhigh.exists_digits
    obtain ⟨a', b', c'', d', rfl, -⟩ := hlow.exists_digits
    refine (scan?_unit_mark rfl rfl _).trans (scan?_hex.2 ⟨_, [a, b, c', d], _, rfl, hhigh, ?_⟩)
    rw [ofUnit_high (isHighSurrogate_of_beyond c), scan?_goes]
    refine ⟨_, ?_, rfl⟩
    refine (scan?_lowMark _ _).trans (scan?_lowHex.2 ⟨_, [a', b', c'', d'], bs, rfl, hlow, ?_⟩)
    rw [ofPair_beyond beyond]
    exact hgoes

-- Nothing else is read behind the mark of a unit.
theorem exists_escape_of_hex (h : (hex []).scan? next bs = some (value, rest)) :
    ∃ c e bs' value', 0x5C :: 0x75 :: bs = e ++ bs' ∧ Escape c e ∧
      plain.scan? next bs' = some (value', rest) ∧ value = utf8EncodeChar c ++ value' := by
  obtain ⟨n, digits, after, rfl, hunit, h⟩ := scan?_hex.1 h
  have hlt := hunit.lt
  rw [ofUnit] at h
  split at h
  · cases h
  split at h
  · next hhigh =>
    obtain ⟨value, hslash, rfl⟩ := scan?_goes.1 h
    obtain ⟨bs, rfl, hmark⟩ := exists_lowMark hslash
    obtain ⟨m, digits', after, rfl, hunit', hpair⟩ := scan?_lowHex.1 hmark
    rw [ofPair] at hpair
    split at hpair
    · next hlow =>
      obtain ⟨value', hread, hvalue⟩ := scan?_goes.1 hpair
      simp only [isHighSurrogate, isLowSurrogate, Bool.and_eq_true, decide_eq_true_eq] at hhigh hlow
      have hvalid : ((n - 0xD800) * 0x400 + (m - 0xDC00) + 0x10000).isValidChar := by
        unfold Nat.isValidChar
        omega
      have hchar : (Char.ofNat ((n - 0xD800) * 0x400 + (m - 0xDC00) + 0x10000)).toNat =
          (n - 0xD800) * 0x400 + (m - 0xDC00) + 0x10000 := Utf8.toNat_ofNat hvalid
      refine ⟨_, 0x5C :: 0x75 :: digits ++ 0x5C :: 0x75 :: digits', after, value', by simp,
        .pair ?_ ?_ ?_, hread, hvalue⟩
      · rw [hchar]
        omega
      · have hn : 0xD800 + ((n - 0xD800) * 0x400 + (m - 0xDC00) + 0x10000 - 0x10000) / 0x400 = n := by
          omega
        rwa [hchar, hn]
      · have hm : 0xDC00 + ((n - 0xD800) * 0x400 + (m - 0xDC00) + 0x10000 - 0x10000) % 0x400 = m := by
          omega
        rwa [hchar, hm]
    · cases hpair
  · next hlow hhigh =>
    obtain ⟨value, hread, rfl⟩ := scan?_goes.1 h
    simp only [isHighSurrogate, isLowSurrogate, Bool.and_eq_true, decide_eq_true_eq] at hhigh hlow
    have hvalid : n.isValidChar := by
      unfold Nat.isValidChar
      omega
    have hchar : (Char.ofNat n).toNat = n := Utf8.toNat_ofNat hvalid
    exact ⟨_, 0x5C :: 0x75 :: digits, after, value, by simp, .unit (hchar.symm ▸ hunit), hread, rfl⟩

end TextPhase

section Read

variable {b : UInt8} {c : Char} {cs : List Char} {bs value rest w front : Octets} {text : String}

-- What stands between quotes, beside the octets of its value: octets that stand for
-- themselves, whether they are text or not, and escapes.
inductive Segments : Octets → Octets → Prop where
  | nil : Segments [] []
  | octet {b : UInt8} {value w : Octets} (h : IsPlain b) (rest : Segments value w) :
      Segments (b :: value) (b :: w)
  | escape {c : Char} {value e w : Octets} (h : Escape c e) (rest : Segments value w) :
      Segments (utf8EncodeChar c ++ value) (e ++ w)

theorem Spelled.append {cs' : List Char} {w' : Octets} (h : Spelled cs w) (h' : Spelled cs' w') :
    Spelled (cs ++ cs') (w ++ w') := by
  induction h with
  | nil => exact h'
  | cons first rest ih =>
    rw [List.cons_append, List.append_assoc]
    exact .cons first ih

-- The octets of a character that may stand for itself may all stand for themselves, and the
-- other way round.
theorem isPlain_of_mem_encode (h : ' ' ≤ c) (quote : c ≠ '"') (slash : c ≠ '\\')
    (hb : b ∈ utf8EncodeChar c) : IsPlain b := by
  by_cases hascii : b < 0x80
  · have hc := Utf8.toNat_of_mem_encode hb hascii
    refine ⟨?_, ?_, ?_⟩
    · have hle : (' ' : Char).toNat ≤ c.toNat := h
      rw [hc] at hle
      exact hle
    · rintro rfl
      exact quote (Char.toNat_inj.1 hc)
    · rintro rfl
      exact slash (Char.toNat_inj.1 hc)
  · have hge : 0x80 ≤ b := UInt8.not_lt.1 hascii
    refine ⟨UInt8.le_trans (by decide) hge, ?_, ?_⟩ <;> rintro rfl <;> exact hascii (by decide)

theorem spells_of_isPlain (h : ∀ b ∈ utf8EncodeChar c, IsPlain b) : Spells c (utf8EncodeChar c) := by
  apply Spells.plain
  · by_contra hlow
    have hlt : c.toNat < 0x20 := Nat.lt_of_not_le hlow
    have hle : 0x20 ≤ (UInt8.ofNat c.toNat).toNat := (h _ (Utf8.mem_encode (by omega))).1
    rw [Utf8.toNat_octet (by omega)] at hle
    omega
  · rintro rfl
    exact (h 0x22 (by decide)).2.1 rfl
  · rintro rfl
    exact (h 0x5C (by decide)).2.2 rfl

theorem spelled_of_octets (h : ∀ b ∈ cs.flatMap utf8EncodeChar, IsPlain b) :
    Spelled cs (cs.flatMap utf8EncodeChar) := by
  induction cs with
  | nil => exact .nil
  | cons c cs ih =>
    rw [List.flatMap_cons] at h ⊢
    exact .cons (spells_of_isPlain fun b hb => h b (List.mem_append_left _ hb))
      (ih fun b hb => h b (List.mem_append_right _ hb))

-- An escape is a character of its own. So if the whole is text, the octets in front of it are,
-- and those behind it.
theorem spelled_of_segments (hfront : ∀ b ∈ front, IsPlain b) (h : Segments value w)
    (decoded : Utf8.decode? (front ++ value) = some text) : Spelled text.toList (front ++ w) := by
  rw [Utf8.decode?_eq_some_iff_pieces] at decoded
  generalize text.toList = cs at decoded
  induction h generalizing front cs with
  | nil =>
    rw [List.append_nil] at decoded ⊢
    have hoctets := Utf8.eq_of_pieces decoded
    rw [hoctets] at hfront ⊢
    exact spelled_of_octets hfront
  | @octet b value w hb rest ih =>
    have hmore : ∀ a ∈ front ++ [b], IsPlain a := by
      intro a ha
      rcases List.mem_append.1 ha with ha | ha
      · exact hfront a ha
      · rw [List.mem_singleton.1 ha]
        exact hb
    have hspelled := ih hmore cs (by rwa [List.append_assoc])
    rwa [List.append_assoc] at hspelled
  | @escape c value e w he rest ih =>
    rw [Utf8.pieces_append_encode] at decoded
    obtain ⟨before, more, rfl, hbefore, hmore⟩ := List.map_eq_append_iff.1 decoded.symm
    cases more with
    | nil => cases hmore
    | cons d after =>
      obtain ⟨hd, hafter⟩ := List.cons.inj hmore
      cases hd
      have hoctets := Utf8.eq_of_pieces hbefore.symm
      rw [hoctets] at hfront ⊢
      have hrest : Spelled after w := @ih [] (by simp) after hafter.symm
      exact (spelled_of_octets hfront).append (.cons (.escape he) hrest)

namespace TextPhase

theorem scan?_octets (h : ∀ b ∈ front, IsPlain b)
    (hread : plain.scan? next bs = some (value, rest)) :
    plain.scan? next (front ++ bs) = some (front ++ value, rest) := by
  induction front with
  | nil => exact hread
  | cons b front ih =>
    have hb := h b List.mem_cons_self
    rw [List.cons_append, scan?_cons, next_of_isPlain hb, scan?_goes]
    exact ⟨_, ih fun a ha => h a (List.mem_cons_of_mem _ ha), rfl⟩

theorem scan?_of_spelled (h : Spelled cs w) :
    plain.scan? next (w ++ 0x22 :: rest) = some (cs.flatMap utf8EncodeChar, rest) := by
  induction h with
  | nil => rfl
  | cons first more ih =>
    rw [List.append_assoc, List.flatMap_cons]
    cases first with
    | plain h quote slash => exact scan?_octets (fun b => isPlain_of_mem_encode h quote slash) ih
    | escape h => exact scan?_escape h ih

theorem segments_of_scan? (h : plain.scan? next bs = some (value, rest)) :
    ∃ w, bs = w ++ 0x22 :: rest ∧ Segments value w := by
  induction hn : bs.length using Nat.strong_induction_on generalizing bs value with
  | _ n ih =>
    rcases cases_of_scan?_plain rfl rfl h with ⟨rfl, rfl⟩ | ⟨b, more, value, rfl, hb, hread, rfl⟩ |
      ⟨b, c, more, value, rfl, hc, hread, rfl⟩ | ⟨more, rfl, hread⟩
    · exact ⟨[], rfl, .nil⟩
    · obtain ⟨w, rfl, hw⟩ := ih more.length (by simp only [← hn, List.length_cons]; omega) hread rfl
      exact ⟨b :: w, rfl, .octet hb hw⟩
    · obtain ⟨w, rfl, hw⟩ := ih more.length (by simp only [← hn, List.length_cons]; omega) hread rfl
      exact ⟨[0x5C, b] ++ w, rfl, .escape (.letter hc) hw⟩
    · obtain ⟨c, e, after, value, hsplit, he, hnext, rfl⟩ := exists_escape_of_hex hread
      have hshorter : after.length < n := by
        have hlength := congrArg List.length hsplit
        have hpos := he.length_pos
        rw [List.length_append] at hlength
        omega
      obtain ⟨w, rfl, hw⟩ := ih after.length hshorter hnext rfl
      exact ⟨e ++ w, by rw [hsplit, List.append_assoc], .escape he hw⟩

-- A text is read as what it spells.
theorem scan?_next_iff :
    (∃ value, plain.scan? next bs = some (value, rest) ∧ Utf8.decode? value = some text) ↔
      ∃ w, Spelled text.toList w ∧ bs = w ++ 0x22 :: rest := by
  constructor
  · rintro ⟨value, h, decoded⟩
    obtain ⟨w, rfl, hw⟩ := segments_of_scan? h
    have hspelled : Spelled text.toList ([] ++ w) := spelled_of_segments (by simp) hw decoded
    exact ⟨w, hspelled, rfl⟩
  · rintro ⟨w, hw, rfl⟩
    exact ⟨_, scan?_of_spelled hw, Utf8.decode?_octets text⟩

theorem scan?_pass_hex :
    (hex []).scan? pass bs = some (value, rest) ↔
      ∃ n digits after, bs = digits ++ after ∧ UnitEscape n (0x5C :: 0x75 :: digits) ∧
        (Step.goes plain []).scan? pass after = some (value, rest) := by
  apply scan?_unit
  intro taken b
  rw [pass]
  by_cases hlength : taken.length < 3
  · rw [if_pos hlength, if_pos hlength, next, if_pos hlength]
  · rw [if_neg hlength, if_neg hlength]
    cases hexNumber? (taken ++ [b]) <;> rfl

-- A text is passed over as long as its escapes are escapes.
theorem scan?_pass_iff :
    (∃ value, plain.scan? pass bs = some (value, rest)) ↔
      ∃ w, Loose w ∧ bs = w ++ 0x22 :: rest := by
  have hplain : pass plain = next plain := rfl
  have hescape : pass escape = next escape := rfl
  constructor
  · rintro ⟨value, h⟩
    induction hn : bs.length using Nat.strong_induction_on generalizing bs value with
    | _ n ih =>
      rcases cases_of_scan?_plain hplain hescape h with ⟨rfl, rfl⟩ |
        ⟨b, more, value, rfl, hb, hread, rfl⟩ | ⟨b, c, more, value, rfl, hc, hread, rfl⟩ |
        ⟨more, rfl, hread⟩
      · exact ⟨[], .nil, rfl⟩
      · obtain ⟨w, hw, rfl⟩ := ih more.length (by simp only [← hn, List.length_cons]; omega) value hread rfl
        exact ⟨b :: w, .octet hb hw, rfl⟩
      · obtain ⟨w, hw, rfl⟩ := ih more.length (by simp only [← hn, List.length_cons]; omega) value hread rfl
        exact ⟨0x5C :: b :: w, .letter hc hw, rfl⟩
      · obtain ⟨unit, digits, after, rfl, hunit, hread⟩ := scan?_pass_hex.1 hread
        obtain ⟨value', hread, -⟩ := scan?_goes.1 hread
        obtain ⟨w, hw, rfl⟩ := ih after.length (by simp only [← hn, List.length_cons, List.length_append]; omega) value' hread rfl
        exact ⟨0x5C :: 0x75 :: digits ++ w, .unit hunit hw, by simp⟩
  · rintro ⟨w, hw, rfl⟩
    induction hw with
    | nil => exact ⟨[], rfl⟩
    | octet h more ih =>
      obtain ⟨value, hread⟩ := ih
      rw [List.cons_append, scan?_cons, hplain, next_of_isPlain h]
      exact ⟨_, scan?_goes.2 ⟨value, hread, rfl⟩⟩
    | letter h more ih =>
      obtain ⟨value, hread⟩ := ih
      rw [List.cons_append, List.cons_append, scan?_letter hplain hescape h]
      exact ⟨_, scan?_goes.2 ⟨value, hread, rfl⟩⟩
    | unit h more ih =>
      obtain ⟨value, hread⟩ := ih
      obtain ⟨a, b, c, d, rfl, -⟩ := h.exists_digits
      have hunit := scan?_pass_hex.2
        ⟨_, [a, b, c, d], _, rfl, h, scan?_goes.2 ⟨value, hread, rfl⟩⟩
      exact ⟨_, (scan?_unit_mark hplain hescape _).trans hunit⟩

end TextPhase

end Read

end RoutingProcessor.Json
