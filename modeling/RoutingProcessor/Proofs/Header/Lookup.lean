import RoutingProcessor.Header.Basic
import RoutingProcessor.Proofs.Text.Ascii
import RoutingProcessor.Proofs.Text.Lossy

namespace RoutingProcessor

open Text Utf8

namespace WireHeader

-- The text that a header carries: its value, unless there are raw octets, which are read with
-- U+FFFD for whatever is broken in them.
def HasText (header : WireHeader) (text : String) : Prop :=
  if header.raw = [] then text = header.value else Mended header.raw (octets text)

-- The same header with some letters of its name in the other case.
structure Respelled (header other : WireHeader) : Prop where
  key : SameName header.key other.key
  value : other.value = header.value
  raw : other.raw = header.raw

variable {header other : WireHeader} {text : String}

theorem hasText_iff : header.HasText text ↔ (Header.ofWire header).value = text := by
  rw [eq_comm]
  by_cases empty : header.raw = []
  · simp [HasText, Header.ofWire, empty]
  · simp [HasText, Header.ofWire, empty, mended_iff, octets_inj]

theorem Respelled.value_ofWire (h : header.Respelled other) :
    (Header.ofWire other).value = (Header.ofWire header).value := by
  rw [Header.ofWire, Header.ofWire, h.value, h.raw]

end WireHeader

namespace HeaderSet

-- The headers of a message that have the name, in the order of the message.
def named (headers : List WireHeader) (name : String) : List WireHeader :=
  headers.filter fun header => SameName header.key name

-- The first header of a message that has the name carries the text.
def FirstText (headers : List WireHeader) (name text : String) : Prop :=
  ∃ before header after, headers = before ++ header :: after ∧ SameName header.key name ∧
    (∀ earlier ∈ before, ¬SameName earlier.key name) ∧ header.HasText text

variable {header : WireHeader} {headers others : List WireHeader} {name spelling value : String}

theorem get?_ofWire (headers : List WireHeader) (name : String) :
    (ofWire headers).get? name =
      (headers.find? fun header => SameName header.key name).map fun header =>
        (Header.ofWire header).value := by
  have same (header : WireHeader) :
      sameLetters header.key name = decide (SameName header.key name) := by
    rw [Bool.eq_iff_iff, sameLetters_iff_sameName, decide_eq_true_iff]
  simp only [← same]
  rw [get?, ofWire, List.find?_map, Option.map_map]
  rfl

theorem get?_ofWire_eq_some_iff :
    (ofWire headers).get? name = some value ↔ FirstText headers name value := by
  simp only [get?_ofWire, FirstText, Option.map_eq_some_iff, List.find?_eq_some_iff_append,
    ← WireHeader.hasText_iff]
  constructor
  · rintro ⟨header, ⟨has, before, after, split, earlier⟩, text⟩
    exact ⟨before, header, after, split, by simpa using has, by simpa using earlier, text⟩
  · rintro ⟨before, header, after, split, has, earlier, text⟩
    exact ⟨header, ⟨by simpa using has, before, after, split, by simpa using earlier⟩, text⟩

theorem get?_ofWire_eq_none_iff :
    (ofWire headers).get? name = none ↔ ∀ header ∈ headers, ¬SameName header.key name := by
  simp [get?_ofWire]

theorem contains_ofWire_iff :
    (ofWire headers).contains name = true ↔ ∃ header ∈ headers, SameName header.key name := by
  rw [contains, Option.isSome_iff_ne_none, ne_eq, get?_ofWire_eq_none_iff]
  simp only [not_forall, not_not, exists_prop]

theorem get?_append (headers others : List WireHeader) (name : String) :
    (ofWire (headers ++ others)).get? name =
      ((ofWire headers).get? name).or ((ofWire others).get? name) := by
  rw [get?_ofWire, get?_ofWire, get?_ofWire, List.find?_append, Option.map_or]

theorem get?_cons_of_sameName (has : SameName header.key name) (after : List WireHeader) :
    (ofWire (header :: after)).get? name = some (Header.ofWire header).value := by
  simp [get?_ofWire, has]

theorem get?_cons_of_not_sameName (lacks : ¬SameName header.key name) (after : List WireHeader) :
    (ofWire (header :: after)).get? name = (ofWire after).get? name := by
  simp [get?_ofWire, lacks]

-- A lookup ends at a match, so what stands behind it may be anything.
theorem get?_append_cons_congr (has : SameName header.key name)
    (before after others : List WireHeader) :
    (ofWire (before ++ header :: others)).get? name =
      (ofWire (before ++ header :: after)).get? name := by
  rw [get?_append, get?_append, get?_cons_of_sameName has, get?_cons_of_sameName has]

-- Headers without the name may be put in, left out and moved.
theorem get?_congr_named (same : named others name = named headers name) :
    (ofWire others).get? name = (ofWire headers).get? name := by
  have first := congrArg List.head? same
  rw [named, named, List.head?_filter, List.head?_filter] at first
  rw [get?_ofWire, get?_ofWire, first]

theorem get?_congr_respelled (names : SameName name spelling)
    (respelled : List.Forall₂ WireHeader.Respelled headers others) :
    (ofWire others).get? spelling = (ofWire headers).get? name := by
  induction respelled with
  | nil => rfl
  | @cons header other _ _ first _ ih =>
    have keep : SameName other.key spelling ↔ SameName header.key name := by
      rw [sameName_iff, sameName_iff, ← sameName_iff.1 names, ← sameName_iff.1 first.key]
    by_cases has : SameName header.key name
    · rw [get?_cons_of_sameName has, get?_cons_of_sameName (keep.2 has), first.value_ofWire]
    · rw [get?_cons_of_not_sameName has, get?_cons_of_not_sameName (mt keep.1 has), ih]

-- A header set keeps the headers of its message in their order. A lookup finds the text of the
-- first one with the name, up to the case of ASCII letters, be it empty. It does not see the
-- case of a name, what stands behind a match, or headers with other names, and of two messages
-- in a row it prefers the first.
theorem first_named_header_found (headers : List WireHeader) (name : String) :
    (ofWire headers).size = headers.length ∧
      (ofWire headers).toList.map Header.key = headers.map WireHeader.key ∧
      (∀ value, (ofWire headers).get? name = some value ↔ FirstText headers name value) ∧
      ((ofWire headers).get? name = none ↔ ∀ header ∈ headers, ¬SameName header.key name) ∧
      ((ofWire headers).contains name = true ↔ ∃ header ∈ headers, SameName header.key name) ∧
      (∀ spelling others, SameName name spelling →
        List.Forall₂ WireHeader.Respelled headers others →
        (ofWire others).get? spelling = (ofWire headers).get? name) ∧
      (∀ before header after others, headers = before ++ header :: after →
        SameName header.key name →
        (ofWire (before ++ header :: others)).get? name = (ofWire headers).get? name) ∧
      (∀ others, named others name = named headers name →
        (ofWire others).get? name = (ofWire headers).get? name) ∧
      ∀ others, (ofWire (headers ++ others)).get? name =
        ((ofWire headers).get? name).or ((ofWire others).get? name) := by
  refine ⟨List.length_map _, ?_, fun _ => get?_ofWire_eq_some_iff, get?_ofWire_eq_none_iff,
    contains_ofWire_iff, fun _ _ names respelled => get?_congr_respelled names respelled, ?_,
    fun _ same => get?_congr_named same, fun others => get?_append headers others name⟩
  · rw [ofWire, List.map_map]
    rfl
  · rintro before header after others rfl has
    exact get?_append_cons_congr has before after others

-- The first of two preferred services is found under another spelling of its name, without what
-- follows it, and among other headers. A character beyond ASCII has one case only.
theorem first_preferred_found :
    let headers : List WireHeader :=
      [⟨"x-é", "", []⟩, ⟨"Preferred-Svc", "x", [0x61, 0xFF]⟩, ⟨"preferred-svc", "b", []⟩]
    let respelled : List WireHeader :=
      [⟨"X-é", "", []⟩, ⟨"PREFERRED-svc", "x", [0x61, 0xFF]⟩, ⟨"preferred-svc", "b", []⟩]
    let moved : List WireHeader :=
      [⟨"Preferred-Svc", "x", [0x61, 0xFF]⟩, ⟨"x-id", "1", []⟩, ⟨"preferred-svc", "b", []⟩,
        ⟨"x-é", "", []⟩]
    SameName "preferred-svc" "PREFERRED-SVC" ∧
      List.Forall₂ WireHeader.Respelled headers respelled ∧
      named moved "preferred-svc" = named headers "preferred-svc" ∧
      (ofWire headers).get? "preferred-svc" = some "a\uFFFD" ∧
      (ofWire respelled).get? "PREFERRED-SVC" = some "a\uFFFD" ∧
      (ofWire [⟨"x-é", "", []⟩, ⟨"Preferred-Svc", "x", [0x61, 0xFF]⟩]).get? "preferred-svc" =
        some "a\uFFFD" ∧
      (ofWire moved).get? "preferred-svc" = some "a\uFFFD" ∧
      (ofWire headers).contains "X-é" = true ∧
      (ofWire headers).get? "X-É" = none := by
  intro headers respelled moved
  obtain ⟨-, -, found, -, -, recased, cut, rearranged, -⟩ :=
    first_named_header_found headers "preferred-svc"
  obtain ⟨-, -, -, -, contained, -⟩ := first_named_header_found headers "X-é"
  obtain ⟨-, -, -, missing, -⟩ := first_named_header_found headers "X-É"
  have value : (ofWire headers).get? "preferred-svc" = some "a\uFFFD" := by
    rw [found]
    exact ⟨[⟨"x-é", "", []⟩], ⟨"Preferred-Svc", "x", [0x61, 0xFF]⟩, [⟨"preferred-svc", "b", []⟩],
      rfl, by decide, by decide, WireHeader.hasText_iff.2 (by decide +kernel)⟩
  have names : SameName "preferred-svc" "PREFERRED-SVC" := by decide
  have spelled : List.Forall₂ WireHeader.Respelled headers respelled :=
    .cons ⟨by decide, rfl, rfl⟩ (.cons ⟨by decide, rfl, rfl⟩ (.cons ⟨by decide, rfl, rfl⟩ .nil))
  have same : named moved "preferred-svc" = named headers "preferred-svc" := by decide
  refine ⟨names, spelled, same, value, ?_, ?_, ?_, ?_, ?_⟩
  · rw [recased _ _ names spelled, value]
  · rw [← value]
    exact cut [⟨"x-é", "", []⟩] ⟨"Preferred-Svc", "x", [0x61, 0xFF]⟩ _ [] rfl (by decide)
  · rw [rearranged _ same, value]
  · rw [contained]
    exact ⟨⟨"x-é", "", []⟩, by decide, by decide⟩
  · rw [missing]
    decide

end HeaderSet

end RoutingProcessor
