import Mathlib.Tactic.IntervalCases
import RoutingProcessor.Text.Utf8

namespace RoutingProcessor.Text.Utf8

open String (utf8EncodeChar)

variable {n : Nat} {c : Char} {rest : Octets}

theorem toNat_octet (h : n < 256) : (UInt8.ofNat n).toNat = n := by
  simp [Nat.mod_eq_of_lt h]

theorem continuation_octet {more : Nat} {low high : UInt8} {value : Nat} (h : n < 256)
    (above : low.toNat ≤ n) (below : n ≤ high.toNat) :
    continuation (more + 1) low high value (UInt8.ofNat n :: rest) =
      continuation more 0x80 0xBF (value * 64 + (n - 128)) rest := by
  rw [continuation, if_pos, toNat_octet h]
  rw [UInt8.le_iff_toNat_le, UInt8.le_iff_toNat_le, toNat_octet h]
  exact ⟨above, below⟩

theorem lead_of_ascii (h : n < 128) : Lead.of? (UInt8.ofNat n) = some ⟨n, 0, 0x80, 0xBF⟩ := by
  have hn := toNat_octet (show n < 256 by omega)
  simp only [Lead.of?, UInt8.lt_iff_toNat_lt, hn]
  rw [if_pos (by exact h)]

theorem lead_of_two (above : 2 ≤ n) (below : n < 32) :
    Lead.of? (UInt8.ofNat (n + 192)) = some ⟨n, 1, 0x80, 0xBF⟩ := by
  interval_cases n <;> rfl

theorem lead_of_three (below : n < 16) :
    Lead.of? (UInt8.ofNat (n + 224)) =
      some ⟨n, 2, if n = 0 then 0xA0 else 0x80, if n = 13 then 0x9F else 0xBF⟩ := by
  interval_cases n <;> rfl

theorem lead_of_four (below : n < 5) :
    Lead.of? (UInt8.ofNat (n + 240)) =
      some ⟨n, 3, if n = 0 then 0x90 else 0x80, if n = 4 then 0x8F else 0xBF⟩ := by
  interval_cases n <;> rfl

-- The octets of a character are read back as that character, whatever follows.
theorem pieces_encode (c : Char) (rest : Octets) :
    pieces (utf8EncodeChar c ++ rest) = some c :: pieces rest := by
  have valid : c.toNat < 0xD800 ∨ 0xDFFF < c.toNat ∧ c.toNat < 0x110000 := c.valid
  have hof : ∀ value, value = c.toNat → Char.ofNat value = c := by
    rintro _ rfl
    exact Char.ofNat_toNat c
  unfold utf8EncodeChar
  simp only [Char.toNat_val]
  split
  · rw [List.singleton_append, pieces, first, lead_of_ascii (by omega)]
    simp only [continuation, Option.map_some, hof]
  split
  · rw [List.cons_append, List.cons_append, List.nil_append, pieces, first,
      Nat.mod_eq_of_lt (show c.toNat / 64 < 32 by omega), lead_of_two (by omega) (by omega)]
    simp only
    rw [continuation_octet (by omega) (by simp) (by simp; omega)]
    simp only [continuation, Option.map_some]
    rw [hof _ (by omega)]
  split
  · rw [List.cons_append, List.cons_append, List.cons_append, List.nil_append, pieces, first,
      Nat.mod_eq_of_lt (show c.toNat / 4096 < 16 by omega), lead_of_three (by omega)]
    simp only
    rw [continuation_octet (by omega) (by split <;> grind) (by split <;> grind),
      continuation_octet (by omega) (by simp) (by simp; omega)]
    simp only [continuation, Option.map_some]
    rw [hof _ (by omega)]
  · rw [List.cons_append, List.cons_append, List.cons_append, List.cons_append, List.nil_append,
      pieces, first, Nat.mod_eq_of_lt (show c.toNat / 262144 < 8 by omega), lead_of_four (by omega)]
    simp only
    rw [continuation_octet (by omega) (by split <;> grind) (by split <;> grind),
      continuation_octet (by omega) (by simp) (by simp; omega),
      continuation_octet (by omega) (by simp) (by simp; omega)]
    simp only [continuation, Option.map_some]
    rw [hof _ (by omega)]

theorem pieces_octets (text : String) : pieces (octets text) = text.toList.map some := by
  unfold octets
  induction text.toList with
  | nil => simp [pieces]
  | cons c cs ih => rw [List.flatMap_cons, pieces_encode, ih, List.map_cons]

-- Writing a text as octets loses nothing.
@[simp] theorem decode?_octets (text : String) : decode? (octets text) = some text := by
  have hmap : (text.toList.map some).mapM id = some text.toList := by
    induction text.toList with
    | nil => rfl
    | cons c cs ih => simp [ih]
  rw [decode?, pieces_octets, hmap, Option.map_some, String.ofList_toList]

section Ascii

variable {b a : UInt8} {bs : Octets}

theorem mem_continuation {more : Nat} {low high : UInt8} {value : Nat} (h : b ∈ bs)
    (ascii : b < 0x80) (above : 0x80 ≤ low) : b ∈ (continuation more low high value bs).2 := by
  fun_induction continuation more low high value bs with
  | case1 => exact h
  | case2 => cases h
  | case3 more low high value c rest within ih =>
    have later : b ≠ c := by
      rintro rfl
      have := UInt8.lt_of_lt_of_le ascii (UInt8.le_trans above within.1)
      exact UInt8.lt_irrefl _ this
    exact ih ((List.mem_cons.1 h).resolve_left later) (by decide)
  | case4 => exact h

theorem Lead.low_le {lead : Lead} (h : Lead.of? a = some lead) : 0x80 ≤ lead.low := by
  have higher {p : Prop} [Decidable p] {low : UInt8} (above : 0x80 ≤ low) :
      0x80 ≤ if p then low else 0x80 := by
    split
    · exact above
    · exact UInt8.le_refl _
  unfold Lead.of? at h
  split at h
  · rw [← Option.some.inj h]
    exact UInt8.le_refl _
  split at h
  · cases h
  split at h
  · rw [← Option.some.inj h]
    exact UInt8.le_refl _
  split at h
  · rw [← Option.some.inj h]
    exact higher (by decide)
  split at h
  · rw [← Option.some.inj h]
    exact higher (by decide)
  · cases h

theorem first_of_ascii (ascii : b < 0x80) : first b rest = (some (Char.ofNat b.toNat), rest) := by
  have lead := lead_of_ascii (UInt8.lt_iff_toNat_lt.1 ascii)
  rw [UInt8.ofNat_toNat] at lead
  simp only [first, lead, continuation, Option.map_some]

theorem mem_first (h : b ∈ rest) (ascii : b < 0x80) : b ∈ (first a rest).2 := by
  unfold first
  split
  · exact h
  · next lead hlead => exact mem_continuation h ascii (Lead.low_le hlead)

theorem mem_pieces (h : b ∈ bs) (ascii : b < 0x80) : some (Char.ofNat b.toNat) ∈ pieces bs := by
  fun_induction pieces bs with
  | case1 => cases h
  | case2 a rest ih =>
    rcases List.mem_cons.1 h with rfl | h
    · rw [first_of_ascii ascii]
      exact List.mem_cons_self
    · exact List.mem_cons_of_mem _ (ih (mem_first h ascii))

theorem mem_of_mapM_id {pieces : List (Option Char)} {cs : List Char} {c : Char}
    (all : pieces.mapM id = some cs) (h : some c ∈ pieces) : c ∈ cs := by
  induction pieces generalizing cs with
  | nil => cases h
  | cons piece pieces ih =>
    simp only [List.mapM_cons, Option.bind_eq_bind, Option.bind_eq_some_iff] at all
    obtain ⟨d, rfl, ds, hds, all⟩ := all
    cases all
    rcases List.mem_cons.1 h with same | h
    · cases same
      exact List.mem_cons_self
    · exact List.mem_cons_of_mem _ (ih hds h)

-- Octets below 128 come through, whatever stands around them.
theorem mem_of_decode? {text : String} (decoded : decode? bs = some text) (h : b ∈ bs)
    (ascii : b < 0x80) : Char.ofNat b.toNat ∈ text.toList := by
  obtain ⟨cs, all, rfl⟩ := Option.map_eq_some_iff.1 decoded
  rw [String.toList_ofList]
  exact mem_of_mapM_id all (mem_pieces h ascii)

end Ascii

end RoutingProcessor.Text.Utf8
