import RoutingProcessor.Http.HeaderName
import RoutingProcessor.Proofs.Text.Ascii
import RoutingProcessor.Proofs.Text.WellFormed

namespace RoutingProcessor.Http

open Text

-- A header name as proxies hand it over: a token with its letters in lower case.
def IsLowerToken (name : String) : Prop :=
  name ≠ "" ∧ ∀ c ∈ name.toList,
    ('a' ≤ c ∧ c ≤ 'z') ∨ ('0' ≤ c ∧ c ≤ '9') ∨ c ∈ "!#$%&'*+-.^_\x60|~".toList

variable {name : String} {c : Char}

theorem lower_of_isLowerHeaderName (h : isLowerHeaderName name = true) : name = lower name := by
  simp only [isLowerHeaderName, Bool.and_eq_true, decide_eq_true_eq] at h
  exact h.2

theorem isHeaderName_iff :
    isHeaderName name = true ↔
      name ≠ "" ∧ name.length < 65536 ∧ ∀ c ∈ name.toList, isTokenChar c = true := by
  simp only [isHeaderName, Bool.and_eq_true, List.all_eq_true, decide_eq_true_eq,
    Bool.not_eq_true', String.isEmpty_eq_false_iff, and_assoc]
  exact and_congr_right fun _ => and_comm

theorem isTokenChar_iff :
    isTokenChar c = true ↔
      isLetter c = true ∨ isDigit c = true ∨ c ∈ "!#$%&'*+-.^_\x60|~".toList := by
  have marks : "!#$%&'*+-.^_\x60|~".toList =
      "!#$%&'*+-.^_".toList ++ ['\x60', '|', '~'] := by decide
  rw [marks, List.mem_append]
  simp only [isTokenChar, Bool.or_eq_true, decide_eq_true_eq, List.contains_iff_mem,
    List.mem_cons, List.not_mem_nil, or_false, or_assoc]

-- The token characters that lower case leaves as they are.
theorem isTokenChar_and_lower_iff :
    isTokenChar c = true ∧ c.toLower = c ↔
      ('a' ≤ c ∧ c ≤ 'z') ∨ ('0' ≤ c ∧ c ≤ '9') ∨ c ∈ "!#$%&'*+-.^_\x60|~".toList := by
  rw [isTokenChar_iff, isLetter_iff, isDigit_iff]
  simp only [le_iff_toNat_le]
  constructor
  · rintro ⟨letter | rest, hlower⟩
    · exact .inl (letter.resolve_right (not_upper_of_toLower_eq hlower))
    · exact .inr rest
  · rintro (letter | digit | mark)
    · exact ⟨.inl (.inl letter), toLower_of_not_upper (by simp at letter; omega)⟩
    · exact ⟨.inr (.inl digit), toLower_of_not_upper (by simp at digit; omega)⟩
    · have caseless : "!#$%&'*+-.^_\x60|~".toList.all (fun c => !isLetter c) = true := rfl
      have other : isLetter c = false := by simpa using List.all_eq_true.1 caseless c mark
      exact ⟨.inr (.inr mark), toLower_eq_self other⟩

theorem eq_lower_iff : name = lower name ↔ ∀ c ∈ name.toList, c.toLower = c := by
  constructor
  · exact fun h c hc => toLower_eq_of_mem h hc
  · intro h
    rw [lower, List.map_congr_left h, List.map_id', String.ofList_toList]

-- Names in lower case that can stand in a message are tokens of a bounded length.
theorem isLowerHeaderName_iff :
    isLowerHeaderName name = true ↔ IsLowerToken name ∧ name.length < 65536 := by
  rw [isLowerHeaderName, Bool.and_eq_true, isHeaderName_iff, decide_eq_true_eq, eq_lower_iff,
    IsLowerToken]
  simp only [← isTokenChar_and_lower_iff]
  constructor
  · rintro ⟨⟨nonempty, short, token⟩, hlower⟩
    exact ⟨⟨nonempty, fun c hc => ⟨token c hc, hlower c hc⟩⟩, short⟩
  · rintro ⟨⟨nonempty, all⟩, short⟩
    exact ⟨⟨nonempty, short, fun c hc => (all c hc).1⟩, fun c hc => (all c hc).2⟩

theorem isLowerToken_of_isLowerHeaderName (h : isLowerHeaderName name = true) :
    IsLowerToken name :=
  (isLowerHeaderName_iff.1 h).1

-- What can stand in a message as a header: a name of token characters, and a value without
-- control characters other than the tab.
structure Sendable (header : String × String) : Prop where
  named : header.1 ≠ ""
  short : header.1.length < 65536
  token : ∀ c ∈ header.1.toList, isTokenChar c = true
  printable : ∀ c ∈ header.2.toList, (' ' ≤ c ∧ c ≠ '\x7F') ∨ c = '\t'

-- Beyond ASCII every octet can be sent.
theorem isValueOctet_encode (c : Char) :
    (∀ b ∈ String.utf8EncodeChar c, isValueOctet b = true) ↔ (' ' ≤ c ∧ c ≠ '\x7F') ∨ c = '\t' := by
  have space : ' ' ≤ c ↔ 0x20 ≤ c.toNat := le_iff_toNat_le
  have delete : c = '\x7F' ↔ c.toNat = 0x7F := Char.toNat_inj.symm
  have tab : c = '\t' ↔ c.toNat = 0x09 := Char.toNat_inj.symm
  rw [space, ne_eq, delete, tab]
  have octet {b : UInt8} :
      isValueOctet b = true ↔ (0x20 ≤ b.toNat ∧ b.toNat ≠ 0x7F) ∨ b.toNat = 0x09 := by
    simp [isValueOctet, UInt8.le_iff_toNat_le, ← UInt8.toNat_inj]
  constructor
  · intro h
    by_cases ascii : c.toNat < 0x80
    · have hb := octet.1 (h _ (Utf8.mem_encode ascii))
      rwa [Utf8.toNat_octet (by omega)] at hb
    · omega
  · intro h b hb
    rw [octet]
    by_cases ascii : b < 0x80
    · rwa [Utf8.toNat_of_mem_encode hb ascii] at h
    · have hge : 0x80 ≤ b.toNat := Nat.not_lt.1 ascii
      omega

theorem isHeaderValue_iff {value : String} :
    isHeaderValue value = true ↔ ∀ c ∈ value.toList, (' ' ≤ c ∧ c ≠ '\x7F') ∨ c = '\t' := by
  simp only [isHeaderValue, octets, List.all_eq_true, List.mem_flatMap, ← isValueOctet_encode]
  constructor
  · exact fun h c hc b hb => h b ⟨c, hc, hb⟩
  · rintro h b ⟨c, hc, hb⟩
    exact h c hc b hb

theorem sendable_iff {header : String × String} :
    Sendable header ↔ isHeaderName header.1 = true ∧ isHeaderValue header.2 = true := by
  rw [isHeaderName_iff, isHeaderValue_iff]
  constructor
  · exact fun h => ⟨⟨h.named, h.short, h.token⟩, h.printable⟩
  · exact fun h => ⟨h.1.1, h.1.2.1, h.1.2.2, h.2⟩

instance (header : String × String) : Decidable (Sendable header) :=
  decidable_of_iff _ sendable_iff.symm

end RoutingProcessor.Http
