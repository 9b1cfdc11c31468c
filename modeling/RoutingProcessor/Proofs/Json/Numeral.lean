import RoutingProcessor.Proofs.Json.Grammar
import RoutingProcessor.Proofs.Text.Span

namespace RoutingProcessor.Json

open Text

-- An octet that belongs to no number.
def Delimits (b : UInt8) : Prop := isDigit b = false ∧ b ≠ 0x2E ∧ b ≠ 0x65 ∧ b ≠ 0x45

namespace Numeral

-- Takes the rest of a number. What comes out starts with the octet that ends it.
def scan? (phase : Numeral) : Octets → Option Octets
  | [] => none
  | b :: bs =>
    match phase.next b with
    | .goes phase => scan? phase bs
    | .ends => some (b :: bs)
    | .fails => none

-- Goes on behind a step.
def Step.scan? (b : UInt8) (bs : Octets) : Step → Option Octets
  | .goes phase => phase.scan? bs
  | .ends => some (b :: bs)
  | .fails => none

variable {phase : Numeral} {b : UInt8} {bs rest ds w : Octets}

theorem scan?_cons (phase : Numeral) (b : UInt8) (bs : Octets) :
    phase.scan? (b :: bs) = (phase.next b).scan? b bs := by
  rw [Numeral.scan?]
  cases phase.next b <;> rfl

section Digits

-- A phase that takes digit after digit.
def Collects (phase : Numeral) : Prop := ∀ b, isDigit b = true → phase.next b = .goes phase

theorem collects_digits : digits.Collects := fun b h => by rw [next, if_pos h]

theorem collects_fraction : fraction.Collects := fun b h => by rw [next, if_pos h]

theorem collects_exponentDigits : exponentDigits.Collects := fun b h => by rw [next, if_pos h]

theorem Collects.scan? (stays : phase.Collects)
    (h : ∀ b ∈ ds, isDigit b = true) (bs : Octets) : phase.scan? (ds ++ bs) = phase.scan? bs := by
  induction ds with
  | nil => rfl
  | cons d ds ih =>
    rw [List.cons_append, scan?_cons, stays d (h d List.mem_cons_self), Step.scan?]
    exact ih fun b hb => h b (List.mem_cons_of_mem _ hb)

-- All digits at the front are taken, and something else is read behind them.
theorem Collects.exists_digits (stays : phase.Collects) (h : phase.scan? bs = some rest) :
    ∃ ds b bs', (∀ d ∈ ds, isDigit d = true) ∧ isDigit b = false ∧ bs = ds ++ b :: bs' ∧
      (phase.next b).scan? b bs' = some rest := by
  obtain ⟨ds, back, rfl, hds, stop⟩ := exists_span isDigit bs
  rw [stays.scan? hds] at h
  cases back with
  | nil => cases h
  | cons b bs' => exact ⟨ds, b, bs', hds, stop b rfl, rfl, h⟩

theorem digits_cons (hb : isDigit b = true) (h : ∀ d ∈ ds, isDigit d = true) :
    Json.Digits (b :: ds) :=
  ⟨List.cons_ne_nil _ _, List.forall_mem_cons.2 ⟨hb, h⟩⟩

theorem exists_first_digit (h : Json.Digits ds) :
    ∃ d more, ds = d :: more ∧ isDigit d = true ∧ ∀ a ∈ more, isDigit a = true := by
  cases ds with
  | nil => exact absurd rfl h.1
  | cons d more => exact ⟨d, more, rfl, List.forall_mem_cons.1 h.2⟩

end Digits

section Sound

theorem exists_digits_of_exponentDigits (h : exponentDigits.scan? bs = some rest) :
    ∃ ds, (∀ d ∈ ds, isDigit d = true) ∧ bs = ds ++ rest := by
  obtain ⟨ds, b, bs, hds, hb, rfl, hback⟩ := collects_exponentDigits.exists_digits h
  rw [next, if_neg (by simp [hb])] at hback
  cases hback
  exact ⟨ds, hds, rfl⟩

theorem exists_digits_of_exponentSign (h : exponentSign.scan? bs = some rest) :
    ∃ ds, Json.Digits ds ∧ bs = ds ++ rest := by
  cases bs with
  | nil => cases h
  | cons b bs =>
    rw [scan?_cons, next] at h
    split at h
    · next hb =>
      obtain ⟨ds, hds, rfl⟩ := exists_digits_of_exponentDigits h
      exact ⟨b :: ds, digits_cons hb hds, rfl⟩
    · cases h

theorem exists_sign_of_exponent (h : Numeral.exponent.scan? bs = some rest) :
    ∃ sign ds, (sign = [] ∨ sign = [0x2B] ∨ sign = [0x2D]) ∧ Json.Digits ds ∧
      bs = sign ++ ds ++ rest := by
  cases bs with
  | nil => cases h
  | cons b bs =>
    rw [scan?_cons, next] at h
    split at h
    · next hb =>
      obtain ⟨ds, hds, rfl⟩ := exists_digits_of_exponentDigits h
      exact ⟨[], b :: ds, .inl rfl, digits_cons hb hds, rfl⟩
    split at h
    · next hsign =>
      simp only [Bool.or_eq_true, decide_eq_true_eq] at hsign
      obtain ⟨ds, hds, rfl⟩ := exists_digits_of_exponentSign h
      exact ⟨[b], ds, .inr (by simpa using hsign), hds, rfl⟩
    · cases h

theorem exists_exponentPart
    (h : (if b = 0x65 || b = 0x45 then Step.goes .exponent else .ends).scan? b bs = some rest) :
    ∃ e, ExponentPart e ∧ b :: bs = e ++ rest := by
  split at h
  · next he =>
    simp only [Bool.or_eq_true, decide_eq_true_eq] at he
    obtain ⟨sign, ds, hsign, hds, rfl⟩ := exists_sign_of_exponent h
    exact ⟨b :: (sign ++ ds), .digits he hsign hds, rfl⟩
  · cases h
    exact ⟨[], .nil, rfl⟩

theorem exists_fractionPart (h : (afterWhole b).scan? b bs = some rest) :
    ∃ f e, FractionPart f ∧ ExponentPart e ∧ b :: bs = f ++ (e ++ rest) := by
  rw [afterWhole] at h
  split at h
  · next hpoint =>
    subst hpoint
    cases bs with
    | nil => cases h
    | cons d bs =>
      rw [Step.scan?, scan?_cons, next] at h
      split at h
      · next hd =>
        obtain ⟨ds, b, bs, hds, hb, rfl, hback⟩ := collects_fraction.exists_digits h
        rw [next, if_neg (by simp [hb])] at hback
        obtain ⟨e, he, hsplit⟩ := exists_exponentPart hback
        exact ⟨0x2E :: d :: ds, e, .digits (digits_cons hd hds), he, by simp [hsplit]⟩
      · cases h
  · obtain ⟨e, he, hsplit⟩ := exists_exponentPart h
    exact ⟨[], e, .nil, he, hsplit⟩

theorem exists_wholePart
    (h : (if b = 0x30 then Step.goes .zero
      else if isDigit b then .goes .digits else .fails).scan? b bs = some rest) :
    ∃ w f e, WholePart w ∧ FractionPart f ∧ ExponentPart e ∧ b :: bs = w ++ (f ++ (e ++ rest)) := by
  split at h
  · next hzero =>
    subst hzero
    cases bs with
    | nil => cases h
    | cons c bs =>
      rw [Step.scan?, scan?_cons, next] at h
      split at h
      · cases h
      · obtain ⟨f, e, hf, he, hsplit⟩ := exists_fractionPart h
        exact ⟨[0x30], f, e, .zero, hf, he, by simp [hsplit]⟩
  · next hzero =>
    split at h
    · next hb =>
      obtain ⟨ds, c, bs, hds, hc, rfl, hback⟩ := collects_digits.exists_digits h
      rw [next, if_neg (by simp [hc])] at hback
      obtain ⟨f, e, hf, he, hsplit⟩ := exists_fractionPart hback
      exact ⟨b :: ds, f, e, .digits (digits_cons hb hds) (by simpa using hzero), hf, he,
        by simp [hsplit]⟩
    · cases h

-- What is taken is a number.
theorem exists_numeric (hbegin : begin? b = some phase) (h : phase.scan? bs = some rest) :
    ∃ w, Numeric w ∧ b :: bs = w ++ rest := by
  by_cases hminus : b = 0x2D
  · rw [begin?, if_pos hminus] at hbegin
    cases hbegin
    cases bs with
    | nil => cases h
    | cons c bs =>
      rw [scan?_cons, next] at h
      obtain ⟨w, f, e, hw, hf, he, hsplit⟩ := exists_wholePart h
      exact ⟨[0x2D] ++ (w ++ (f ++ e)), .mk (.inr rfl) hw hf he, by simp [hsplit, hminus]⟩
  · rw [begin?, if_neg hminus] at hbegin
    have hfirst : (if b = 0x30 then Step.goes .zero
        else if isDigit b then .goes .digits else .fails) = .goes phase := by
      split at hbegin
      · next hzero =>
        cases hbegin
        rw [if_pos hzero]
      · next hzero =>
        split at hbegin
        · next hb =>
          cases hbegin
          rw [if_neg hzero, if_pos hb]
        · cases hbegin
    have hread : (Step.goes phase).scan? b bs = some rest := h
    rw [← hfirst] at hread
    obtain ⟨w, f, e, hw, hf, he, hsplit⟩ := exists_wholePart hread
    exact ⟨[] ++ (w ++ (f ++ e)), .mk (.inl rfl) hw hf he, by simp [hsplit]⟩

end Sound

section Complete

variable {f e : Octets}

-- The digits behind the first one of an exponent are the last of the number.
theorem scan?_exponentDigits {d : UInt8} (more : ∀ a ∈ ds, isDigit a = true)
    (first : phase.next d = .goes exponentDigits) (hb : Delimits b) (bs : Octets) :
    phase.scan? (d :: ds ++ b :: bs) = some (b :: bs) := by
  have ends : exponentDigits.next b = .ends := by rw [next, if_neg (by simp [hb.1])]
  rw [List.cons_append, scan?_cons, first, Step.scan?,
    collects_exponentDigits.scan? more, scan?_cons, ends, Step.scan?]

theorem scan?_exponent {sign : Octets} (hsign : sign = [] ∨ sign = [0x2B] ∨ sign = [0x2D])
    (hds : Json.Digits ds) (hb : Delimits b) (bs : Octets) :
    Numeral.exponent.scan? (sign ++ (ds ++ b :: bs)) = some (b :: bs) := by
  obtain ⟨d, more, rfl, hd, hmore⟩ := exists_first_digit hds
  have first : Numeral.exponent.next d = .goes exponentDigits := by rw [next, if_pos hd]
  have second : exponentSign.next d = .goes exponentDigits := by rw [next, if_pos hd]
  rcases hsign with rfl | rfl | rfl
  · exact scan?_exponentDigits hmore first hb bs
  · exact (scan?_cons _ _ _).trans (scan?_exponentDigits hmore second hb bs)
  · exact (scan?_cons _ _ _).trans (scan?_exponentDigits hmore second hb bs)

theorem scan?_exponentPart (he : ExponentPart e) (hb : Delimits b)
    (reads : ∀ a, isDigit a = false → a ≠ 0x2E →
      phase.next a = if a = 0x65 || a = 0x45 then .goes .exponent else .ends) (bs : Octets) :
    phase.scan? (e ++ b :: bs) = some (b :: bs) := by
  cases he with
  | nil =>
    have ends : phase.next b = .ends := by
      rw [reads b hb.1 hb.2.1, if_neg (by simp [hb.2.2])]
    rw [List.nil_append, scan?_cons, ends, Step.scan?]
  | @digits mark sign ds hmark hsign hds =>
    have goes : phase.next mark = .goes .exponent := by
      rcases hmark with rfl | rfl
      · exact reads 0x65 rfl (by decide)
      · exact reads 0x45 rfl (by decide)
    rw [List.cons_append, scan?_cons, goes, Step.scan?, List.append_assoc]
    exact scan?_exponent hsign hds hb bs

theorem scan?_fractionPart (hf : FractionPart f) (he : ExponentPart e) (hb : Delimits b)
    (reads : ∀ a, isDigit a = false → phase.next a = afterWhole a) (bs : Octets) :
    phase.scan? (f ++ (e ++ b :: bs)) = some (b :: bs) := by
  cases hf with
  | nil =>
    refine scan?_exponentPart he hb ?_ bs
    intro a ha hpoint
    rw [reads a ha, afterWhole, if_neg hpoint]
  | digits hds =>
    obtain ⟨d, more, rfl, hd, hmore⟩ := exists_first_digit hds
    have goes : phase.next 0x2E = .goes point := reads 0x2E rfl
    have first : point.next d = .goes fraction := by rw [next, if_pos hd]
    rw [List.cons_append, scan?_cons, goes, Step.scan?, List.cons_append, scan?_cons, first,
      Step.scan?, collects_fraction.scan? hmore]
    refine scan?_exponentPart he hb ?_ bs
    intro a ha _
    rw [next, if_neg (by simp [ha])]

theorem exists_wholePart_begin (hw : WholePart w) (hf : FractionPart f) (he : ExponentPart e)
    (hb : Delimits b) (bs : Octets) :
    ∃ a more phase, w = a :: more ∧ (a = 0x30 ∧ phase = zero ∨ a ≠ 0x30 ∧ isDigit a = true ∧
      phase = digits) ∧ phase.scan? (more ++ (f ++ (e ++ b :: bs))) = some (b :: bs) := by
  cases hw with
  | zero =>
    refine ⟨0x30, [], zero, rfl, .inl ⟨rfl, rfl⟩, scan?_fractionPart hf he hb ?_ bs⟩
    intro a ha
    rw [next, if_neg (by simp [ha])]
  | digits hds nonzero =>
    obtain ⟨d, more, rfl, hd, hmore⟩ := exists_first_digit hds
    refine ⟨d, more, digits, rfl, .inr ⟨by simpa using nonzero, hd, rfl⟩, ?_⟩
    rw [collects_digits.scan? hmore]
    refine scan?_fractionPart hf he hb ?_ bs
    intro a ha
    rw [next, if_neg (by simp [ha])]

-- A number is taken up to the octet behind it.
theorem exists_begin (h : Numeric w) (hb : Delimits b) (bs : Octets) :
    ∃ a more phase, w = a :: more ∧ begin? a = some phase ∧
      phase.scan? (more ++ b :: bs) = some (b :: bs) := by
  cases h with
  | @mk sign whole f e hsign hw hf he =>
    obtain ⟨a, more, phase, rfl, hfirst, hread⟩ := exists_wholePart_begin hw hf he hb bs
    have hmore : more ++ (f ++ e) ++ b :: bs = more ++ (f ++ (e ++ b :: bs)) := by simp
    rw [← hmore] at hread
    rcases hsign with rfl | rfl
    · refine ⟨a, more ++ (f ++ e), phase, rfl, ?_, hread⟩
      rcases hfirst with ⟨rfl, rfl⟩ | ⟨hzero, ha, rfl⟩
      · rfl
      · have hminus : a ≠ 0x2D := by
          rintro rfl
          cases ha
        rw [begin?, if_neg hminus, if_neg hzero, if_pos ha]
    · refine ⟨0x2D, a :: more ++ (f ++ e), minus, rfl, rfl, ?_⟩
      have hnext : minus.next a = .goes phase := by
        rcases hfirst with ⟨rfl, rfl⟩ | ⟨hzero, ha, rfl⟩
        · rfl
        · rw [next, if_neg hzero, if_pos ha]
      rw [List.cons_append, List.cons_append, scan?_cons, hnext, Step.scan?]
      exact hread

end Complete

end Numeral

end RoutingProcessor.Json
