import Mathlib.Data.List.Forall2
import RoutingProcessor.Text.Ascii

namespace RoutingProcessor.Text

variable {c : Char}

theorem le_iff_toNat_le {a b : Char} : a ≤ b ↔ a.toNat ≤ b.toNat :=
  UInt32.le_iff_toNat_le

theorem isLetter_iff : isLetter c = true ↔
    (97 ≤ c.toNat ∧ c.toNat ≤ 122) ∨ (65 ≤ c.toNat ∧ c.toNat ≤ 90) := by
  simp [isLetter, le_iff_toNat_le]

theorem isDigit_iff : isDigit c = true ↔ 48 ≤ c.toNat ∧ c.toNat ≤ 57 := by
  simp [isDigit, le_iff_toNat_le]

theorem toLower_of_upper (h : 65 ≤ c.toNat ∧ c.toNat ≤ 90) : c.toLower.toNat = c.toNat + 32 := by
  have hval : c.val ≥ 'A'.val ∧ c.val ≤ 'Z'.val := by
    simpa [UInt32.le_iff_toNat_le] using h
  unfold Char.toLower
  rw [dif_pos hval]
  change (c.val + ('a'.val - 'A'.val)).toNat = c.val.toNat + 32
  have hgap : ('a'.val - 'A'.val).toNat = 32 := rfl
  have hbound : c.val.toNat ≤ 90 := h.2
  rw [UInt32.toNat_add, hgap]
  omega

theorem toLower_of_not_upper (h : ¬(65 ≤ c.toNat ∧ c.toNat ≤ 90)) : c.toLower = c := by
  have hval : ¬(c.val ≥ 'A'.val ∧ c.val ≤ 'Z'.val) := by
    simpa [UInt32.le_iff_toNat_le] using h
  unfold Char.toLower
  rw [dif_neg hval]

theorem toUpper_of_lower (h : 97 ≤ c.toNat ∧ c.toNat ≤ 122) : c.toUpper.toNat = c.toNat - 32 := by
  have hval : c.val ≥ 'a'.val ∧ c.val ≤ 'z'.val := by
    simpa [UInt32.le_iff_toNat_le] using h
  unfold Char.toUpper
  rw [dif_pos hval]
  change (c.val + ('A'.val - 'a'.val)).toNat = c.val.toNat - 32
  have hgap : ('A'.val - 'a'.val).toNat = 2 ^ 32 - 32 := rfl
  have hbound : 97 ≤ c.val.toNat ∧ c.val.toNat ≤ 122 := h
  rw [UInt32.toNat_add, hgap]
  omega

theorem toUpper_of_not_lower (h : ¬(97 ≤ c.toNat ∧ c.toNat ≤ 122)) : c.toUpper = c := by
  have hval : ¬(c.val ≥ 'a'.val ∧ c.val ≤ 'z'.val) := by
    simpa [UInt32.le_iff_toNat_le] using h
  unfold Char.toUpper
  rw [dif_neg hval]

-- A second change of case undoes the first or changes nothing.
theorem toLower_toLower (c : Char) : c.toLower.toLower = c.toLower := by
  by_cases h : 65 ≤ c.toNat ∧ c.toNat ≤ 90
  · apply toLower_of_not_upper
    rw [toLower_of_upper h]
    omega
  · rw [toLower_of_not_upper h, toLower_of_not_upper h]

theorem toLower_comp_toLower : Char.toLower ∘ Char.toLower = Char.toLower :=
  funext toLower_toLower

theorem toUpper_toUpper (c : Char) : c.toUpper.toUpper = c.toUpper := by
  by_cases h : 97 ≤ c.toNat ∧ c.toNat ≤ 122
  · apply toUpper_of_not_lower
    rw [toUpper_of_lower h]
    omega
  · rw [toUpper_of_not_lower h, toUpper_of_not_lower h]

theorem toLower_toUpper (c : Char) : c.toUpper.toLower = c.toLower := by
  by_cases h : 97 ≤ c.toNat ∧ c.toNat ≤ 122
  · have upper : 65 ≤ c.toUpper.toNat ∧ c.toUpper.toNat ≤ 90 := by
      rw [toUpper_of_lower h]
      omega
    rw [← Char.toNat_inj, toLower_of_upper upper, toUpper_of_lower h, toLower_of_not_upper (by omega)]
    omega
  · rw [toUpper_of_not_lower h]

theorem isLetter_toLower (c : Char) : isLetter c.toLower = isLetter c := by
  rw [Bool.eq_iff_iff, isLetter_iff, isLetter_iff]
  by_cases h : 65 ≤ c.toNat ∧ c.toNat ≤ 90
  · rw [toLower_of_upper h]
    omega
  · rw [toLower_of_not_upper h]

theorem toLower_eq_self (h : isLetter c = false) : c.toLower = c := by
  apply toLower_of_not_upper
  intro upper
  rw [isLetter_iff.2 (.inr upper)] at h
  cases h

-- Only letters have two cases.
theorem eq_of_toLower_eq {d : Char} (h : c.toLower = d) (caseless : isLetter d = false) : c = d := by
  rw [← h, isLetter_toLower] at caseless
  rw [← h, toLower_eq_self caseless]

theorem not_upper_of_toLower_eq (h : c.toLower = c) : ¬(65 ≤ c.toNat ∧ c.toNat ≤ 90) := by
  intro upper
  have hlower := toLower_of_upper upper
  rw [h] at hlower
  omega

-- Two characters that are the same, or one ASCII letter in its two cases.
def SameLetter (c d : Char) : Prop :=
  c = d ∨ isLetter c = true ∧ isLetter d = true ∧
    (d.toNat = c.toNat + 32 ∨ c.toNat = d.toNat + 32)

instance : DecidableRel SameLetter :=
  fun c d => inferInstanceAs (Decidable (c = d ∨ isLetter c = true ∧ isLetter d = true ∧ _))

theorem toLower_eq_iff {d : Char} : c.toLower = d.toLower ↔ SameLetter c d := by
  rw [SameLetter, isLetter_iff, isLetter_iff, ← Char.toNat_inj, ← Char.toNat_inj]
  by_cases hc : 65 ≤ c.toNat ∧ c.toNat ≤ 90 <;> by_cases hd : 65 ≤ d.toNat ∧ d.toNat ≤ 90
  · rw [toLower_of_upper hc, toLower_of_upper hd]
    omega
  · rw [toLower_of_upper hc, toLower_of_not_upper hd]
    omega
  · rw [toLower_of_not_upper hc, toLower_of_upper hd]
    omega
  · rw [toLower_of_not_upper hc, toLower_of_not_upper hd]
    omega

section Names

variable {a b : String}

-- Two names that differ at most in the case of ASCII letters.
def SameName (a b : String) : Prop := List.Forall₂ SameLetter a.toList b.toList

instance : DecidableRel SameName :=
  fun a b => inferInstanceAs (Decidable (List.Forall₂ SameLetter a.toList b.toList))

theorem sameName_iff : SameName a b ↔ lower a = lower b := by
  rw [SameName, lower, lower, String.ofList_inj, ← List.forall₂_eq_eq_eq, List.forall₂_map_left_iff,
    List.forall₂_map_right_iff]
  simp only [toLower_eq_iff]

theorem toLower_eq_of_mem (h : a = lower a) (hc : c ∈ a.toList) : c.toLower = c := by
  have hlist : a.toList.map Char.toLower = a.toList.map id := by
    have h := congrArg String.toList h
    rw [lower, String.toList_ofList] at h
    rw [List.map_id, ← h]
  exact List.map_inj_left.1 hlist c hc

theorem sameLetters_iff : sameLetters a b = true ↔ lower a = lower b := by
  simp [sameLetters]

-- Characters beyond ASCII have no case here, so they only match themselves.
theorem sameLetters_iff_sameName : sameLetters a b = true ↔ SameName a b := by
  rw [sameLetters_iff, sameName_iff]

-- Names in lower case are the same up to case only if they are the same.
theorem sameLetters_eq_false (ha : a = lower a) (hb : b = lower b) (distinct : a ≠ b) :
    sameLetters a b = false := by
  rw [Bool.eq_false_iff, ne_eq, sameLetters_iff, ← ha, ← hb]
  exact distinct

end Names

end RoutingProcessor.Text
