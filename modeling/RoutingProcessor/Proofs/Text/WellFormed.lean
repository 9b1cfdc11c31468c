import RoutingProcessor.Proofs.Text.Utf8

namespace RoutingProcessor.Text.Utf8

open String (utf8EncodeChar)

variable {a b : UInt8} {c : Char} {bs rest tail : Octets} {more value : Nat} {low high : UInt8}

-- The octets that complete a character of which `more` are still to come, the next of them
-- between `low` and `high`.
def Fits : (more : Nat) → (low high : UInt8) → Octets → Prop
  | 0, _, _, tail => tail = []
  | _ + 1, _, _, [] => False
  | more + 1, low, high, b :: tail => (low ≤ b ∧ b ≤ high) ∧ Fits more 0x80 0xBF tail

theorem exists_fits (more : Nat) (range : low ≤ high) : ∃ tail, Fits more low high tail := by
  induction more generalizing low high with
  | zero => exact ⟨[], rfl⟩
  | succ more ih =>
    obtain ⟨tail, h⟩ := @ih 0x80 0xBF (by decide)
    exact ⟨low :: tail, ⟨UInt8.le_refl _, range⟩, h⟩

theorem fits_of_continuation (h : (continuation more low high value bs).1.isSome) :
    ∃ tail, Fits more low high tail ∧ bs = tail ++ (continuation more low high value bs).2 := by
  fun_induction continuation more low high value bs with
  | case1 => exact ⟨[], rfl, rfl⟩
  | case2 => cases h
  | case3 more low high value b rest within ih =>
    obtain ⟨tail, fits, split⟩ := ih h
    refine ⟨b :: tail, ⟨within, fits⟩, ?_⟩
    rw [List.cons_append, ← split]
  | case4 => cases h

-- Reading that breaks off has taken the beginning of a character, and what follows does not
-- go on with it.
theorem cut_of_continuation (range : low ≤ high)
    (h : (continuation more low high value bs).1 = none) :
    ∃ taken, bs = taken ++ (continuation more low high value bs).2 ∧
      (∃ suffix, Fits more low high (taken ++ suffix)) ∧
      ∀ suffix, Fits more low high (taken ++ suffix) →
        suffix ≠ [] ∧ suffix.head? ≠ (continuation more low high value bs).2.head? := by
  fun_induction continuation more low high value bs with
  | case1 => cases h
  | case2 =>
    refine ⟨[], rfl, exists_fits _ range, ?_⟩
    intro suffix fits
    cases suffix with
    | nil => cases fits
    | cons b suffix => simp
  | case3 more low high value b rest within ih =>
    obtain ⟨taken, split, ⟨suffix, fits⟩, last⟩ := ih (by decide) h
    refine ⟨b :: taken, ?_, ⟨suffix, within, fits⟩, ?_⟩
    · rw [List.cons_append, ← split]
    · intro suffix fits
      exact last suffix fits.2
  | case4 more low high value b rest without =>
    refine ⟨[], rfl, exists_fits _ range, ?_⟩
    intro suffix fits
    cases suffix with
    | nil => cases fits
    | cons a suffix =>
      have within : low ≤ a ∧ a ≤ high := fits.1
      refine ⟨List.cons_ne_nil _ _, ?_⟩
      intro same
      rw [List.head?_cons, List.head?_cons, Option.some.injEq] at same
      exact without (same ▸ within)

section Encode

variable {t u v : UInt8}

theorem toNat_ofNat {n : Nat} (h : n.isValidChar) : (Char.ofNat n).toNat = n := by
  rw [Char.ofNat, dif_pos h]
  rfl

-- Octets below 128 are characters of their own, and no parts of others.
theorem toNat_of_mem_encode (hb : b ∈ utf8EncodeChar c) (ascii : b < 0x80) :
    c.toNat = b.toNat := by
  have hpieces := pieces_encode c []
  rw [List.append_nil, pieces] at hpieces
  have hmem := mem_pieces hb ascii
  rw [hpieces, List.mem_singleton, Option.some.injEq] at hmem
  have hlt : b.toNat < 0x80 := ascii
  rw [← hmem]
  exact toNat_ofNat (.inl (by omega))

theorem mem_encode (ascii : c.toNat < 0x80) : UInt8.ofNat c.toNat ∈ utf8EncodeChar c := by
  unfold utf8EncodeChar
  rw [Char.toNat_val, if_pos (by omega)]
  exact List.mem_singleton.2 rfl

theorem ofNat_eq_octet {n : Nat} (h : n = b.toNat) : UInt8.ofNat n = b := by
  rw [h, UInt8.ofNat_toNat]

theorem encode_one (hb : b.toNat < 0x80) : utf8EncodeChar (Char.ofNat b.toNat) = [b] := by
  have valid : b.toNat.isValidChar := .inl (by omega)
  unfold utf8EncodeChar
  rw [Char.toNat_val, toNat_ofNat valid, if_pos (by omega), ofNat_eq_octet rfl]

theorem encode_two (hb : 0xC2 ≤ b.toNat ∧ b.toNat < 0xE0)
    (ht : 0x80 ≤ t.toNat ∧ t.toNat ≤ 0xBF) :
    utf8EncodeChar (Char.ofNat ((b.toNat - 0xC0) * 64 + (t.toNat - 0x80))) = [b, t] := by
  have valid : ((b.toNat - 0xC0) * 64 + (t.toNat - 0x80)).isValidChar := .inl (by omega)
  unfold utf8EncodeChar
  rw [Char.toNat_val, toNat_ofNat valid, if_neg (by omega), if_pos (by omega),
    ofNat_eq_octet (b := b) (by omega), ofNat_eq_octet (b := t) (by omega)]

theorem encode_three (hb : 0xE0 ≤ b.toNat ∧ b.toNat < 0xF0)
    (ht : 0x80 ≤ t.toNat ∧ t.toNat ≤ 0xBF) (hu : 0x80 ≤ u.toNat ∧ u.toNat ≤ 0xBF)
    (least : b.toNat = 0xE0 → 0xA0 ≤ t.toNat) (most : b.toNat = 0xED → t.toNat ≤ 0x9F) :
    utf8EncodeChar
      (Char.ofNat ((b.toNat - 0xE0) * 4096 + (t.toNat - 0x80) * 64 + (u.toNat - 0x80))) =
      [b, t, u] := by
  have valid : ((b.toNat - 0xE0) * 4096 + (t.toNat - 0x80) * 64 + (u.toNat - 0x80)).isValidChar := by
    unfold Nat.isValidChar
    omega
  unfold utf8EncodeChar
  rw [Char.toNat_val, toNat_ofNat valid, if_neg (by omega), if_neg (by omega), if_pos (by omega),
    ofNat_eq_octet (b := b) (by omega), ofNat_eq_octet (b := t) (by omega),
    ofNat_eq_octet (b := u) (by omega)]

theorem encode_four (hb : 0xF0 ≤ b.toNat ∧ b.toNat < 0xF5)
    (ht : 0x80 ≤ t.toNat ∧ t.toNat ≤ 0xBF) (hu : 0x80 ≤ u.toNat ∧ u.toNat ≤ 0xBF)
    (hv : 0x80 ≤ v.toNat ∧ v.toNat ≤ 0xBF) (least : b.toNat = 0xF0 → 0x90 ≤ t.toNat)
    (most : b.toNat = 0xF4 → t.toNat ≤ 0x8F) :
    utf8EncodeChar
      (Char.ofNat ((b.toNat - 0xF0) * 262144 + (t.toNat - 0x80) * 4096 + (u.toNat - 0x80) * 64 +
        (v.toNat - 0x80))) = [b, t, u, v] := by
  have valid : ((b.toNat - 0xF0) * 262144 + (t.toNat - 0x80) * 4096 + (u.toNat - 0x80) * 64 +
      (v.toNat - 0x80)).isValidChar := by
    unfold Nat.isValidChar
    omega
  unfold utf8EncodeChar
  rw [Char.toNat_val, toNat_ofNat valid, if_neg (by omega), if_neg (by omega), if_neg (by omega),
    ofNat_eq_octet (b := b) (by omega), ofNat_eq_octet (b := t) (by omega),
    ofNat_eq_octet (b := u) (by omega), ofNat_eq_octet (b := v) (by omega)]

theorem exists_of_fits_one (h : Fits 1 low high tail) :
    ∃ t, tail = [t] ∧ low ≤ t ∧ t ≤ high := by
  match tail, h with
  | [t], h => exact ⟨t, rfl, h.1⟩

theorem exists_of_fits_two (h : Fits 2 low high tail) :
    ∃ t u, tail = [t, u] ∧ (low ≤ t ∧ t ≤ high) ∧ 0x80 ≤ u ∧ u ≤ 0xBF := by
  match tail, h with
  | [t, u], h => exact ⟨t, u, rfl, h.1, h.2.1⟩

theorem exists_of_fits_three (h : Fits 3 low high tail) :
    ∃ t u v, tail = [t, u, v] ∧ (low ≤ t ∧ t ≤ high) ∧ (0x80 ≤ u ∧ u ≤ 0xBF) ∧
      0x80 ≤ v ∧ v ≤ 0xBF := by
  match tail, h with
  | [t, u, v], h => exact ⟨t, u, v, rfl, h.1, h.2.1, h.2.2.1⟩

end Encode

theorem le_of_ite_le {p : Prop} [Decidable p] {x y : UInt8} (hxy : y ≤ x)
    (h : (if p then x else y) ≤ b) : y.toNat ≤ b.toNat ∧ (p → x.toNat ≤ b.toNat) := by
  split at h
  · exact ⟨UInt8.le_trans hxy h, fun _ => h⟩
  · next hp => exact ⟨h, fun yes => absurd yes hp⟩

theorem le_of_le_ite {p : Prop} [Decidable p] {x y : UInt8} (hxy : x ≤ y)
    (h : b ≤ if p then x else y) : b.toNat ≤ y.toNat ∧ (p → b.toNat ≤ x.toNat) := by
  split at h
  · exact ⟨UInt8.le_trans h hxy, fun _ => h⟩
  · next hp => exact ⟨h, fun yes => absurd yes hp⟩

-- Each first octet, with octets that fit behind it, is a character.
theorem exists_encode {lead : Lead} (h : Lead.of? b = some lead)
    (fits : Fits lead.more lead.low lead.high tail) : ∃ c, utf8EncodeChar c = b :: tail := by
  unfold Lead.of? at h
  simp only [UInt8.lt_iff_toNat_lt] at h
  split at h
  · next hb =>
    rw [← Option.some.inj h] at fits
    have htail : tail = [] := fits
    rw [htail]
    exact ⟨_, encode_one hb⟩
  split at h
  · cases h
  split at h
  · next hlow hhigh =>
    rw [← Option.some.inj h] at fits
    obtain ⟨t, rfl, ht⟩ := exists_of_fits_one fits
    exact ⟨_, encode_two ⟨Nat.le_of_not_lt hlow, hhigh⟩ ht⟩
  split at h
  · next hlow hhigh =>
    rw [← Option.some.inj h] at fits
    obtain ⟨t, u, rfl, ht, hu⟩ := exists_of_fits_two fits
    have least := le_of_ite_le (by decide) ht.1
    have most := le_of_le_ite (by decide) ht.2
    exact ⟨_, encode_three ⟨Nat.le_of_not_lt hlow, hhigh⟩ ⟨least.1, most.1⟩ hu
      (fun hb => least.2 (UInt8.toNat_inj.1 hb)) (fun hb => most.2 (UInt8.toNat_inj.1 hb))⟩
  split at h
  · next hlow hhigh =>
    rw [← Option.some.inj h] at fits
    obtain ⟨t, u, v, rfl, ht, hu, hv⟩ := exists_of_fits_three fits
    have least := le_of_ite_le (by decide) ht.1
    have most := le_of_le_ite (by decide) ht.2
    exact ⟨_, encode_four ⟨Nat.le_of_not_lt hlow, hhigh⟩ ⟨least.1, most.1⟩ hu hv
      (fun hb => least.2 (UInt8.toNat_inj.1 hb)) (fun hb => most.2 (UInt8.toNat_inj.1 hb))⟩
  · cases h

-- Whatever a first octet announces, some octet can follow it, and only octets that begin no
-- character can.
theorem Lead.range {lead : Lead} (h : Lead.of? b = some lead) :
    lead.low ≤ lead.high ∧ lead.high ≤ 0xBF := by
  have ordered {p q : Prop} [Decidable p] [Decidable q] {x y : UInt8} (hx : x ≤ 0xBF)
      (hy : 0x80 ≤ y ∧ y ≤ 0xBF) (apart : p → ¬q) :
      (if p then x else 0x80) ≤ (if q then y else 0xBF) ∧ (if q then y else 0xBF) ≤ 0xBF := by
    by_cases hp : p
    · rw [if_pos hp, if_neg (apart hp)]
      exact ⟨hx, UInt8.le_refl _⟩
    · rw [if_neg hp]
      split
      · exact hy
      · exact ⟨by decide, UInt8.le_refl _⟩
  have distinct {x y : UInt8} (hxy : x ≠ y) : b = x → ¬b = y := by
    rintro rfl
    exact hxy
  have whole : (0x80 : UInt8) ≤ 0xBF := by decide
  unfold Lead.of? at h
  split at h
  · rw [← Option.some.inj h]
    exact ⟨whole, UInt8.le_refl _⟩
  split at h
  · cases h
  split at h
  · rw [← Option.some.inj h]
    exact ⟨whole, UInt8.le_refl _⟩
  split at h
  · rw [← Option.some.inj h]
    exact ordered (by decide) (by decide) (distinct (by decide))
  split at h
  · rw [← Option.some.inj h]
    exact ordered (by decide) (by decide) (distinct (by decide))
  · cases h

-- What is read as a character is its octets.
theorem eq_of_first {rest' : Octets} (h : first b rest = (some c, rest')) :
    b :: rest = utf8EncodeChar c ++ rest' := by
  have hpieces : pieces (b :: rest) = some c :: pieces rest' := by
    rw [pieces, h]
  unfold first at h
  cases hlead : Lead.of? b with
  | none => simp [hlead] at h
  | some lead =>
    simp only [hlead, Prod.mk.injEq, Option.map_eq_some_iff] at h
    obtain ⟨⟨value, hvalue, -⟩, hrest⟩ := h
    obtain ⟨tail, fits, split⟩ := fits_of_continuation (Option.isSome_of_eq_some hvalue)
    obtain ⟨d, hd⟩ := exists_encode hlead fits
    rw [hrest] at split
    have hwhole : b :: rest = utf8EncodeChar d ++ rest' := by
      rw [hd, List.cons_append, ← split]
    rw [hwhole, pieces_encode, List.cons.injEq, Option.some.injEq] at hpieces
    rw [hwhole, hpieces.1]

-- A character has its first octet and octets that fit behind it.
theorem fits_of_encode (h : utf8EncodeChar c = b :: tail) :
    ∃ lead, Lead.of? b = some lead ∧ Fits lead.more lead.low lead.high tail := by
  have hpieces := pieces_encode c []
  rw [List.append_nil, h, pieces, pieces] at hpieces
  obtain ⟨hfirst, hrest⟩ := List.cons.inj hpieces
  unfold first at hfirst hrest
  cases hlead : Lead.of? b with
  | none => simp [hlead] at hfirst
  | some lead =>
    simp only [hlead, Option.map_eq_some_iff] at hfirst hrest
    obtain ⟨value, hvalue, -⟩ := hfirst
    obtain ⟨taken, fits, split⟩ := fits_of_continuation (Option.isSome_of_eq_some hvalue)
    have hempty : (continuation lead.more lead.low lead.high lead.bits tail).2 = [] := by
      cases hnext : (continuation lead.more lead.low lead.high lead.bits tail).2 with
      | nil => rfl
      | cons a more => simp [hnext, pieces] at hrest
    rw [hempty, List.append_nil] at split
    exact ⟨lead, rfl, split ▸ fits⟩

section Boundary

-- An octet that goes on with a character and begins none.
def IsTail (b : UInt8) : Prop := 0x80 ≤ b ∧ b ≤ 0xBF

theorem not_isTail_of_lead {lead : Lead} (h : Lead.of? b = some lead) : ¬IsTail b := by
  rintro ⟨hlow, hhigh⟩
  have hsmall : ¬b < 0x80 := UInt8.not_lt.2 hlow
  have hgap : b < 0xC2 := UInt8.lt_of_le_of_lt hhigh (by decide)
  rw [Lead.of?, if_neg hsmall, if_pos hgap] at h
  cases h

theorem exists_first_octet (c : Char) : ∃ b tail, utf8EncodeChar c = b :: tail ∧ ¬IsTail b := by
  cases h : utf8EncodeChar c with
  | nil => exact absurd h (by simp)
  | cons b tail =>
    obtain ⟨lead, hlead, -⟩ := fits_of_encode h
    exact ⟨b, tail, rfl, not_isTail_of_lead hlead⟩

theorem continuation_append (hb : ¬IsTail b) (hlow : 0x80 ≤ low) (hhigh : high ≤ 0xBF) :
    continuation more low high value (bs ++ b :: rest) =
      ((continuation more low high value bs).1,
        (continuation more low high value bs).2 ++ b :: rest) := by
  have out : ¬(low ≤ b ∧ b ≤ high) :=
    fun h => hb ⟨UInt8.le_trans hlow h.1, UInt8.le_trans h.2 hhigh⟩
  fun_induction continuation more low high value bs with
  | case1 => simp only [continuation]
  | case2 => rw [List.nil_append, continuation, if_neg out]
  | case3 more low high value a bs within ih =>
    have tail : ¬(0x80 ≤ b ∧ b ≤ 0xBF) := hb
    rw [List.cons_append, continuation, if_pos within]
    exact ih (by decide) (by decide) tail
  | case4 more low high value a bs without => rw [List.cons_append, continuation, if_neg without]

theorem first_append (hb : ¬IsTail b) :
    first a (bs ++ b :: rest) = ((first a bs).1, (first a bs).2 ++ b :: rest) := by
  unfold first
  cases hlead : Lead.of? a with
  | none => rfl
  | some lead =>
    simp only [continuation_append hb (Lead.low_le hlead) (Lead.range hlead).2]

-- No character and no broken piece reaches over a first octet.
theorem pieces_append (hb : ¬IsTail b) :
    pieces (bs ++ b :: rest) = pieces bs ++ pieces (b :: rest) := by
  fun_induction pieces bs with
  | case1 => simp only [List.nil_append]
  | case2 a bs ih =>
    rw [List.cons_append, pieces, first_append hb, ih, List.cons_append]

theorem pieces_append_encode (bs : Octets) (c : Char) (rest : Octets) :
    pieces (bs ++ (utf8EncodeChar c ++ rest)) = pieces bs ++ some c :: pieces rest := by
  obtain ⟨b, tail, h, hb⟩ := exists_first_octet c
  rw [← pieces_encode, h, List.cons_append, pieces_append hb]

end Boundary

section Decode

variable {cs : List Char} {text : String}

theorem mapM_id_eq_some_iff {items : List (Option Char)} :
    items.mapM id = some cs ↔ items = cs.map some := by
  induction items generalizing cs with
  | nil => cases cs <;> simp
  | cons item items ih =>
    simp only [List.mapM_cons, id, Option.bind_eq_bind, Option.bind_eq_some_iff, ih]
    constructor
    · rintro ⟨c, rfl, cs, rfl, h⟩
      cases h
      rfl
    · intro h
      cases cs with
      | nil => cases h
      | cons c cs =>
        obtain ⟨rfl, rfl⟩ := List.cons.inj h
        exact ⟨c, rfl, cs, rfl, rfl⟩

theorem decode?_eq_some_iff_pieces : decode? bs = some text ↔ pieces bs = text.toList.map some := by
  simp only [decode?, Option.map_eq_some_iff, mapM_id_eq_some_iff]
  constructor
  · rintro ⟨cs, h, rfl⟩
    rw [h, String.toList_ofList]
  · intro h
    exact ⟨text.toList, h, String.ofList_toList⟩

theorem eq_of_pieces (h : pieces bs = cs.map some) : bs = cs.flatMap utf8EncodeChar := by
  fun_induction pieces bs generalizing cs with
  | case1 =>
    cases cs with
    | nil => rfl
    | cons c cs => cases h
  | case2 b rest ih =>
    cases cs with
    | nil => cases h
    | cons c cs =>
      obtain ⟨hfirst, hrest⟩ := List.cons.inj h
      have hread : first b rest = (some c, (first b rest).2) := by
        rw [← hfirst]
      rw [List.flatMap_cons, ← ih hrest]
      exact eq_of_first hread

-- Reading and writing are inverse to each other.
theorem decode?_eq_some_iff : decode? bs = some text ↔ bs = octets text := by
  constructor
  · intro h
    exact eq_of_pieces (decode?_eq_some_iff_pieces.1 h)
  · rintro rfl
    exact decode?_octets text

end Decode

end RoutingProcessor.Text.Utf8
