import RoutingProcessor.Number.Digits

namespace RoutingProcessor.Number

open Text

variable {bound value n : Nat} {cs : List Char}

theorem le_foldl (cs : List Char) (value : Nat) :
    value ≤ cs.foldl (fun value c => value * 10 + (c.toNat - '0'.toNat)) value := by
  induction cs generalizing value with
  | nil => exact Nat.le_refl _
  | cons c cs ih =>
    have h := ih (value * 10 + (c.toNat - '0'.toNat))
    rw [List.foldl_cons]
    omega

-- A number only grows with its digits, so the last bound is the one that counts.
theorem appendDigits_eq_ok_iff (hvalue : value < bound) :
    appendDigits bound value cs = .ok n ↔
      (∀ c ∈ cs, isDigit c = true) ∧
        cs.foldl (fun value c => value * 10 + (c.toNat - '0'.toNat)) value = n ∧ n < bound := by
  induction cs generalizing value with
  | nil =>
    simp only [appendDigits, List.foldl_nil, Except.ok.injEq]
    constructor
    · rintro rfl
      exact ⟨List.forall_mem_nil _, rfl, hvalue⟩
    · exact fun h => h.2.1
  | cons c cs ih =>
    have hle := le_foldl cs (value * 10 + (c.toNat - '0'.toNat))
    rw [appendDigits, List.foldl_cons, List.forall_mem_cons]
    by_cases digit : isDigit c = true
    · rw [if_pos digit]
      dsimp only
      by_cases next : value * 10 + (c.toNat - '0'.toNat) < bound
      · rw [if_pos next, ih next]
        simp only [digit, true_and]
      · rw [if_neg next]
        simp only [reduceCtorEq, false_iff]
        omega
    · rw [if_neg digit]
      simp [digit]

-- A decimal number with a plus sign or none.
def Decimal (text : String) (n : Nat) : Prop :=
  ∃ sign digits, text.toList = sign ++ digits ∧ (sign = [] ∨ sign = ['+']) ∧ digits ≠ [] ∧
    (∀ c ∈ digits, isDigit c = true) ∧ ofDigits digits = n

theorem decimal_plus {text : String} (h : text.toList = '+' :: cs) :
    Decimal text n ↔ cs ≠ [] ∧ (∀ c ∈ cs, isDigit c = true) ∧ ofDigits cs = n := by
  constructor
  · rintro ⟨sign, digits, hsplit, rfl | rfl, hne, hdigits, hvalue⟩
    · rw [h, List.nil_append] at hsplit
      rw [← hsplit] at hdigits
      exact absurd (hdigits '+' List.mem_cons_self) (by decide)
    · rw [h] at hsplit
      cases hsplit
      exact ⟨hne, hdigits, hvalue⟩
  · rintro ⟨hne, hdigits, hvalue⟩
    exact ⟨['+'], cs, h, .inr rfl, hne, hdigits, hvalue⟩

theorem decimal_plain {text : String} (h : ∀ cs, text.toList ≠ '+' :: cs) :
    Decimal text n ↔
      text.toList ≠ [] ∧ (∀ c ∈ text.toList, isDigit c = true) ∧ ofDigits text.toList = n := by
  constructor
  · rintro ⟨sign, digits, hsplit, rfl | rfl, hne, hdigits, hvalue⟩
    · rw [hsplit]
      exact ⟨hne, hdigits, hvalue⟩
    · exact absurd hsplit (h digits)
  · rintro ⟨hne, hdigits, hvalue⟩
    exact ⟨[], text.toList, rfl, .inl rfl, hne, hdigits, hvalue⟩

theorem parseBelow_eq_ok_iff {text : String} (hbound : 0 < bound) :
    parseBelow bound text = .ok n ↔ Decimal text n ∧ n < bound := by
  unfold parseBelow
  split
  case h_1 h =>
    rw [decimal_plain (by simp [h])]
    simp [h]
  case h_2 h =>
    rw [decimal_plus h]
    simp
  case h_3 cs hne h =>
    have nonempty : cs ≠ [] := fun h => hne h
    rw [decimal_plus h, appendDigits_eq_ok_iff hbound]
    simp only [ne_eq, nonempty, not_false_eq_true, true_and, and_assoc, ofDigits]
  case h_4 hempty _ hplus =>
    have nonempty : text.toList ≠ [] := fun h => hempty h
    rw [decimal_plain (fun cs h => hplus cs h), appendDigits_eq_ok_iff hbound]
    simp only [ne_eq, nonempty, not_false_eq_true, true_and, and_assoc, ofDigits]

end RoutingProcessor.Number
