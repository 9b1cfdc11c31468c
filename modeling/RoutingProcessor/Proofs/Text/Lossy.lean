import RoutingProcessor.Proofs.Text.WellFormed

namespace RoutingProcessor.Text.Utf8

open String (utf8EncodeChar)

variable {b : UInt8} {part bs rest out : Octets}

-- The octets of a text.
def IsText (bs : Octets) : Prop := ∃ text, bs = octets text

-- A longest broken piece in front of `rest`. No character stands there, and the piece is the
-- beginning of one, as far as it goes, or else a single octet.
structure Broken (part rest : Octets) : Prop where
  nonempty : part ≠ []
  noChar : ∀ c, ¬utf8EncodeChar c <+: part ++ rest
  begins : part.length = 1 ∨ ∃ c, part <+: utf8EncodeChar c
  longest : ∀ more, more ≠ [] → more <+: rest → ∀ c, ¬part ++ more <+: utf8EncodeChar c

-- Octets with U+FFFD in the place of each longest broken piece.
inductive Mended : Octets → Octets → Prop where
  | nil : Mended [] []
  | char (c : Char) {bs out : Octets} (rest : Mended bs out) :
      Mended (utf8EncodeChar c ++ bs) (utf8EncodeChar c ++ out)
  | broken {part bs out : Octets} (piece : Broken part bs) (rest : Mended bs out) :
      Mended (part ++ bs) (utf8EncodeChar '\uFFFD' ++ out)

-- Two longest broken pieces at one place are one.
theorem Broken.length_le {part' rest' : Octets} (h : Broken part rest) (h' : Broken part' rest')
    (same : part ++ rest = part' ++ rest') : part'.length ≤ part.length := by
  by_contra hlt
  obtain ⟨more, hpart, hrest⟩ := (List.append_eq_append_iff.1 same).resolve_right (by
    rintro ⟨more, hpart, -⟩
    have hlength := congrArg List.length hpart
    rw [List.length_append] at hlength
    omega)
  have hlength := congrArg List.length hpart
  rw [List.length_append] at hlength
  have hmore : more ≠ [] := by
    rintro rfl
    simp only [List.length_nil] at hlength
    omega
  have hpos : 0 < part.length := List.length_pos_iff.2 h.nonempty
  rcases h'.begins with single | ⟨c, begins⟩
  · omega
  · rw [hpart] at begins
    exact h.longest more hmore ⟨rest', hrest.symm⟩ c begins

theorem Broken.unique {part' rest' : Octets} (h : Broken part rest) (h' : Broken part' rest')
    (same : part ++ rest = part' ++ rest') : part = part' ∧ rest = rest' :=
  List.append_inj same (Nat.le_antisymm (h'.length_le h same.symm) (h.length_le h' same))

-- A character that begins a sequence is the one read there.
theorem first_of_encode {c : Char} (h : utf8EncodeChar c <+: b :: rest) :
    (first b rest).1 = some c := by
  obtain ⟨after, h⟩ := h
  have hpieces := pieces_encode c after
  rw [h, pieces] at hpieces
  exact (List.cons.inj hpieces).1

theorem broken_of_first (h : (first b rest).1 = none) :
    ∃ part, b :: rest = part ++ (first b rest).2 ∧ Broken part (first b rest).2 := by
  have noChar : ∀ c, ¬utf8EncodeChar c <+: b :: rest := by
    intro c hc
    rw [first_of_encode hc] at h
    cases h
  cases hlead : Lead.of? b with
  | none =>
    have hrest : (first b rest).2 = rest := by simp only [first, hlead]
    refine ⟨[b], by rw [hrest]; rfl, List.cons_ne_nil _ _, ?_, .inl rfl, ?_⟩
    · rwa [hrest]
    · rintro more - - c ⟨after, hc⟩
      obtain ⟨lead, hsome, -⟩ := fits_of_encode hc.symm
      rw [hlead] at hsome
      cases hsome
  | some lead =>
    have hcut : (continuation lead.more lead.low lead.high lead.bits rest).1 = none := by
      simpa only [first, hlead, Option.map_eq_none_iff] using h
    have hrest : (first b rest).2 = (continuation lead.more lead.low lead.high lead.bits rest).2 := by
      simp only [first, hlead]
    obtain ⟨taken, split, ⟨suffix, fits⟩, last⟩ :=
      cut_of_continuation (Lead.range hlead).1 hcut
    rw [← hrest] at split last
    have hwhole : b :: rest = b :: taken ++ (first b rest).2 := by
      rw [List.cons_append, ← split]
    refine ⟨b :: taken, hwhole, List.cons_ne_nil _ _, ?_, .inr ?_, ?_⟩
    · rwa [← hwhole]
    · obtain ⟨c, hc⟩ := exists_encode hlead fits
      exact ⟨c, suffix, by rw [hc, List.cons_append]⟩
    · rintro more hmore ⟨after, hafter⟩ c ⟨suffix, hc⟩
      rw [List.cons_append, List.cons_append, List.append_assoc] at hc
      obtain ⟨lead', hlead', fits'⟩ := fits_of_encode hc.symm
      rw [hlead] at hlead'
      cases hlead'
      have hne := (last (more ++ suffix) fits').2
      cases more with
      | nil => exact hmore rfl
      | cons a more =>
        apply hne
        rw [← hafter]
        rfl

theorem pieces_broken (h : Broken part rest) : pieces (part ++ rest) = none :: pieces rest := by
  cases hpart : part with
  | nil => exact absurd hpart h.nonempty
  | cons b tail =>
    subst hpart
    rw [List.cons_append, pieces]
    have hfirst : (first b (tail ++ rest)).1 = none := by
      cases hc : (first b (tail ++ rest)).1 with
      | none => rfl
      | some c =>
        have hread : first b (tail ++ rest) = (some c, (first b (tail ++ rest)).2) := by
          rw [← hc]
        exact absurd ⟨_, (eq_of_first hread).symm⟩ (h.noChar c)
    obtain ⟨part', split, h'⟩ := broken_of_first hfirst
    have hrest := (h.unique h' split).2
    rw [hfirst, ← hrest]

-- What the lossy reading makes of a sequence is the sequence with its broken pieces replaced.
theorem mended_iff : Mended bs out ↔ out = octets (decodeLossy bs) := by
  have hflat : octets (decodeLossy bs) =
      (pieces bs).flatMap fun piece => utf8EncodeChar (piece.getD '\uFFFD') := by
    rw [octets, decodeLossy, String.toList_ofList, List.flatMap_map]
  rw [hflat]
  constructor
  · intro h
    clear hflat
    induction h with
    | nil => simp [pieces]
    | char c rest ih => rw [pieces_encode, List.flatMap_cons, ih, Option.getD_some]
    | broken piece rest ih => rw [pieces_broken piece, List.flatMap_cons, ih, Option.getD_none]
  · rintro rfl
    clear hflat
    fun_induction pieces bs with
    | case1 => exact .nil
    | case2 b rest ih =>
      rw [List.flatMap_cons]
      cases hc : (first b rest).1 with
      | some c =>
        have hread : first b rest = (some c, (first b rest).2) := by
          rw [← hc]
        rw [eq_of_first hread]
        exact .char c ih
      | none =>
        obtain ⟨part, split, piece⟩ := broken_of_first hc
        rw [split]
        exact .broken piece ih

@[simp] theorem decodeLossy_octets (text : String) : decodeLossy (octets text) = text := by
  have hpieces : (text.toList.map some).map (·.getD '\uFFFD') = text.toList := by
    rw [List.map_map]
    exact List.map_id _
  rw [decodeLossy, pieces_octets, hpieces, String.ofList_toList]

theorem octets_inj {text other : String} : octets text = octets other ↔ text = other := by
  constructor
  · intro same
    rw [← decodeLossy_octets text, same, decodeLossy_octets]
  · rintro rfl
    rfl

-- Only what is no text is altered.
theorem octets_decodeLossy_eq_iff : octets (decodeLossy bs) = bs ↔ IsText bs := by
  constructor
  · intro h
    exact ⟨decodeLossy bs, h.symm⟩
  · rintro ⟨text, rfl⟩
    rw [decodeLossy_octets]

theorem decodeLossy_ne_empty (h : bs ≠ []) : decodeLossy bs ≠ "" := by
  intro hempty
  cases bs with
  | nil => exact h rfl
  | cons b rest =>
    have hlist := congrArg String.toList hempty
    rw [decodeLossy, pieces, String.toList_ofList] at hlist
    simp at hlist

theorem octets_ne_nil {text : String} (h : text ≠ "") : octets text ≠ [] := by
  intro hempty
  apply h
  rw [← decodeLossy_octets text, hempty]
  simp [decodeLossy, pieces]

end RoutingProcessor.Text.Utf8
