import RoutingProcessor.Net.Url
import RoutingProcessor.Proofs.Net.Address
import RoutingProcessor.Proofs.Text.Utf8

namespace RoutingProcessor.Net

open Text

theorem Percent.mem_decode {b : UInt8} {bs : Octets} (h : b ∈ bs) (literal : b ≠ 0x25)
    (digitless : Percent.hexDigit? b = none) : b ∈ Percent.decode bs := by
  fun_induction Percent.decode bs with
  | case1 high low rest _ _ hlow hhigh ih =>
    have notHigh : b ≠ high := by
      rintro rfl
      simp [digitless] at hhigh
    have notLow : b ≠ low := by
      rintro rfl
      simp [digitless] at hlow
    simp only [List.mem_cons, literal, notHigh, notLow, false_or] at h
    exact List.mem_cons_of_mem _ (ih h)
  | case2 high low rest _ ih =>
    exact List.mem_cons_of_mem _ (ih ((List.mem_cons.1 h).resolve_left literal))
  | case3 c rest _ ih =>
    rcases List.mem_cons.1 h with rfl | h
    · exact List.mem_cons_self
    · exact List.mem_cons_of_mem _ (ih h)
  | case4 => cases h

-- A name is refused for any character that is looked up as it stands and forbidden.
theorem Domain.isForbidden_of_normalize? {cs name : List Char} {c : Char}
    (h : Domain.normalize? cs = some name) (hc : c ∈ cs) (kept : Domain.isIgnored c = false)
    (folded : Domain.fold c = c) (ascii : c.toNat < 128) : Domain.isForbidden c = false := by
  simp only [Domain.normalize?] at h
  split at h
  · next all =>
    have inFolded : c ∈ (cs.filter (!Domain.isIgnored ·)).map Domain.fold :=
      List.mem_map.2 ⟨c, List.mem_filter.2 ⟨hc, by simp [kept]⟩, folded⟩
    have here := List.all_eq_true.1 (Bool.and_eq_true_iff.1 all).1 c inFolded
    simpa [ascii] using here
  · cases h

namespace Url

-- What is cut off at both ends of a text, and what is kept of the rest.
def isOuter (c : Char) : Bool := c.toNat ≤ 0x20

def isInner (c : Char) : Bool := c ≠ '\t' && c ≠ '\n' && c ≠ '\r'

theorem cleaned_eq_filter (text : String) : cleaned text =
    ((text.toList.dropWhile isOuter).reverse.dropWhile isOuter).reverse.filter isInner := rfl

theorem isOuter_of_lt {c : Char} (h : 0x20 < c.toNat) : isOuter c = false := by
  simpa [isOuter] using h

theorem isInner_of_not_isOuter {c : Char} (h : isOuter c = false) : isInner c = true := by
  simp only [isInner, ne_eq, Bool.and_eq_true, decide_eq_true_eq]
  refine ⟨⟨?_, ?_⟩, ?_⟩ <;> rintro rfl <;> cases h

-- Nothing is lost in front of a visible character.
theorem cleaned_of_visible {text : String} {keep more : List Char}
    (whole : text.toList = keep ++ more) (nonempty : keep ≠ [])
    (visible : ∀ c ∈ keep, isOuter c = false) :
    ∃ left, cleaned text = keep ++ left ∧ (more = [] → left = []) := by
  obtain ⟨last, init, hkeep⟩ : ∃ last init, keep.reverse = last :: init :=
    List.exists_cons_of_ne_nil (by simpa using nonempty)
  have atFront : (keep ++ more).dropWhile isOuter = keep ++ more := by
    obtain ⟨c, rest, rfl⟩ := List.exists_cons_of_ne_nil nonempty
    rw [List.cons_append, List.dropWhile_cons_of_neg (by simp [visible c])]
  have atBack : (keep ++ more).reverse.dropWhile isOuter =
      more.reverse.dropWhile isOuter ++ keep.reverse := by
    have stop : isOuter last = false :=
      visible last (by rw [← List.mem_reverse, hkeep]; exact List.mem_cons_self)
    rw [List.reverse_append, hkeep, dropWhile_append_cons stop]
  have inner : keep.filter isInner = keep :=
    List.filter_eq_self.2 fun c hc => isInner_of_not_isOuter (visible c hc)
  refine ⟨(more.reverse.dropWhile isOuter).reverse.filter isInner, ?_, ?_⟩
  · rw [cleaned_eq_filter, whole, atFront, atBack, List.reverse_append, List.reverse_reverse,
      List.filter_append, inner]
  · rintro rfl
    rfl

theorem isLetter_of_web {name : List Char} (web : name.map Char.toLower = "http".toList) :
    ∀ c ∈ name, isLetter c = true := by
  intro c hc
  have lowered : c.toLower ∈ ['h', 't', 't', 'p'] := by
    have mem := List.mem_map_of_mem (f := Char.toLower) hc
    rwa [web] at mem
  have letters : ∀ d ∈ ['h', 't', 't', 'p'], isLetter d = true := List.all_eq_true.1 rfl
  rw [← isLetter_toLower]
  exact letters _ lowered

-- The scheme of a plain web address ends at the colon in front of the slashes.
theorem splitScheme?_append {name rest : List Char} (web : name.map Char.toLower = "http".toList) :
    splitScheme? (name ++ ':' :: rest) = some ("http", rest) := by
  have letters := isLetter_of_web web
  have inScheme : ∀ c ∈ name, isSchemeChar c = true := fun c hc => by
    simp [isSchemeChar, letters c hc]
  have stop : ∀ c ∈ (':' :: rest).head?, isSchemeChar c = false := by
    intro c hc
    cases hc
    rfl
  cases name with
  | nil => simp at web
  | cons first name =>
    rw [List.cons_append]
    unfold splitScheme?
    dsimp only
    rw [← List.cons_append, dropWhile_span inScheme stop, takeWhile_span inScheme stop]
    simp only [letters first (List.mem_cons_self ..), if_true, lower, String.toList_ofList, web,
      String.ofList_toList]

-- A host is cut off within the authority.
theorem splitHost_eq {inBrackets : Bool} {cs name back : List Char}
    (h : splitHost true inBrackets cs = (name, back)) :
    name ++ back = cs ∧ (∀ c ∈ name, endsAuthority true c = false) ∧
      ∀ c ∈ back.head?, c = ':' ∨ endsAuthority true c = true := by
  induction cs generalizing inBrackets name back with
  | nil =>
    cases h
    simp
  | cons c cs ih =>
    simp only [splitHost] at h
    split at h
    · next stop =>
      cases h
      refine ⟨rfl, by simp, ?_⟩
      intro d hd
      cases hd
      simp only [Bool.or_eq_true, Bool.and_eq_true, decide_eq_true_eq] at stop
      exact stop.imp_left And.left
    · next goes =>
      obtain ⟨⟨front, behind⟩, hcut⟩ : ∃ found, splitHost true
        (if c = '[' then true else if c = ']' then false else inBrackets) cs = found := ⟨_, rfl⟩
      obtain ⟨whole, inside, stop⟩ := ih hcut
      rw [hcut] at h
      cases h
      refine ⟨by rw [List.cons_append, whole], ?_, stop⟩
      intro d hd
      rcases List.mem_cons.1 hd with rfl | hd
      · rw [← Bool.not_eq_true]
        intro ends
        exact goes (by simp [ends])
      · exact inside d hd

open Uri (isAuthorityChar isBareChar isPlainChar Port Whole)

variable {c : Char} {cs name port authority rest : List Char} {host : Host}

theorem isBareChar_of_isAuthorityChar (h : isAuthorityChar c = true) : isBareChar c = true := by
  simp [isBareChar, h]

theorem ends_of_isBareChar (h : isBareChar c = true) : endsAuthority true c = false := by
  rw [← Bool.not_eq_true]
  intro ends
  simp only [endsAuthority, Bool.true_and, Bool.or_eq_true, decide_eq_true_eq] at ends
  rcases ends with ((rfl | rfl) | rfl) | rfl <;> cases h

theorem isOuter_of_isBareChar (h : isBareChar c = true) : isOuter c = false := by
  simp only [isBareChar, isAuthorityChar, isPlainChar, Bool.or_eq_true, isLetter_iff, isDigit_iff,
    beq_iff_eq] at h
  rcases h with (((((h | h) | h) | rfl) | rfl) | rfl) | rfl
  · exact isOuter_of_lt (by omega)
  · exact isOuter_of_lt (by omega)
  · have marks : "-._~!$&'()*+,;=".toList.all (!isOuter ·) = true := rfl
    simpa using List.all_eq_true.1 marks c (List.contains_iff_mem.1 h)
  all_goals rfl

-- Without an at sign there is no user information.
theorem splitUser_eq_none (chars : ∀ c ∈ authority, isBareChar c = true)
    (ended : ∀ c ∈ rest.head?, endsAuthority true c = true) :
    splitUser true (authority ++ rest) = (none, authority ++ rest) := by
  have inside : ∀ c ∈ authority, (!endsAuthority true c) = true := fun c hc => by
    rw [ends_of_isBareChar (chars c hc)]
    rfl
  have ended : ∀ c ∈ rest.head?, (!endsAuthority true c) = false := by simpa using ended
  have noUser : (authority.reverse.dropWhile fun c => decide (c ≠ '@')) = [] := by
    rw [List.dropWhile_eq_nil_iff]
    intro c hc
    have here := chars c (List.mem_reverse.1 hc)
    rw [decide_eq_true_eq]
    rintro rfl
    cases here
  simp only [splitUser]
  rw [takeWhile_span inside ended, noUser]

theorem digits_of_checkPort (chars : ∀ c ∈ port, isBareChar c = true)
    (h : checkPort (port ++ rest) = .ok ()) : ∀ c ∈ port, isDigit c = true := by
  simp only [checkPort] at h
  split at h
  · cases h
  rw [← List.dropWhile_eq_nil_iff]
  by_contra left
  obtain ⟨c, more, stop⟩ := List.exists_cons_of_ne_nil left
  have inPort : c ∈ port :=
    (List.dropWhile_sublist isDigit).mem (stop ▸ List.mem_cons_self)
  rw [List.dropWhile_append, stop] at h
  simp [ends_of_isBareChar (chars c inPort)] at h

-- An authority of such characters is a host and perhaps a port.
theorem name_of_authority (chars : ∀ c ∈ authority, isBareChar c = true)
    (ended : ∀ c ∈ rest.head?, endsAuthority true c = true)
    (h : Url.authority true (authority ++ rest) = .ok host) :
    ∃ name port, authority = name ++ port ∧ parseHost name = .ok host ∧ Port port := by
  obtain ⟨⟨name, back⟩, hsplit⟩ :
    ∃ found, splitHost true false (authority ++ rest) = found := ⟨_, rfl⟩
  obtain ⟨whole, inside, stop⟩ := splitHost_eq hsplit
  simp only [Url.authority, splitUser_eq_none chars ended, hsplit] at h
  rw [if_neg (by simp)] at h
  split at h
  · cases h
  next named =>
  rw [if_pos trivial] at h
  obtain ⟨found, hname, h⟩ := bind_eq_ok_iff.1 h
  -- The host ends inside of the authority, because the rest begins with an end.
  obtain ⟨port, rfl, rfl⟩ : ∃ port, authority = name ++ port ∧ back = port ++ rest := by
    rcases List.append_eq_append_iff.1 whole with h | ⟨beyond, rfl, rfl⟩
    · exact h
    · cases beyond with
      | nil => exact ⟨[], by simp, rfl⟩
      | cons c beyond =>
        have ends := ended c rfl
        rw [inside c (by simp)] at ends
        cases ends
  have portChars : ∀ c ∈ port, isBareChar c = true :=
    fun c hc => chars c (List.mem_append_right _ hc)
  cases port with
  | nil =>
    rw [List.nil_append] at h
    split at h
    · cases ended ':' rfl
    · rw [if_neg (by simp)] at h
      cases h
      exact ⟨name, [], rfl, hname, .inl rfl⟩
  | cons c digits =>
    obtain rfl : c = ':' := by
      refine (stop c rfl).resolve_right fun ends => ?_
      rw [ends_of_isBareChar (portChars c (by simp))] at ends
      cases ends
    simp only [List.cons_append] at h
    rw [if_neg (show ¬name.isEmpty = true by simpa using named)] at h
    obtain ⟨_, hport, h⟩ := bind_eq_ok_iff.1 h
    rw [if_neg (by simp)] at h
    cases h
    refine ⟨name, _, rfl, hname, .inr ⟨digits, rfl, ?_⟩⟩
    exact digits_of_checkPort (fun c hc => portChars c (List.mem_cons_of_mem _ hc)) hport

-- A host outside of brackets is a domain name. It is refused for a colon and for a bracket,
-- and no percent sign hides them.
theorem notMem_of_parseHost (unbracketed : name.head? ≠ some '[') (h : parseHost name = .ok host)
    (delimiter : c = ':' ∨ c = '[' ∨ c = ']') : c ∉ name := by
  intro hc
  obtain ⟨b, encoded, number, ascii, literal, digitless⟩ : ∃ b : UInt8,
      String.utf8EncodeChar c = [b] ∧ Char.ofNat b.toNat = c ∧ b < 0x80 ∧ b ≠ 0x25 ∧
        Percent.hexDigit? b = none := by
    rcases delimiter with rfl | rfl | rfl
    · exact ⟨0x3A, by decide⟩
    · exact ⟨0x5B, by decide⟩
    · exact ⟨0x5D, by decide⟩
  obtain ⟨forbidden, kept, folded, below⟩ : Domain.isForbidden c = true ∧
      Domain.isIgnored c = false ∧ Domain.fold c = c ∧ c.toNat < 128 := by
    rcases delimiter with rfl | rfl | rfl <;> decide
  have inOctets : b ∈ octets (String.ofList name) := by
    rw [octets, String.toList_ofList]
    exact List.mem_flatMap.2 ⟨c, hc, by simp [encoded]⟩
  have inDecoded := Percent.mem_decode inOctets literal digitless
  unfold parseHost at h
  split at h
  · exact absurd rfl unbracketed
  split at h
  · cases h
  · next decoded hdecoded =>
    have here : c ∈ decoded.toList := number ▸ Utf8.mem_of_decode? hdecoded inDecoded ascii
    cases hnormal : Domain.normalize? decoded.toList with
    | none =>
      rw [hnormal] at h
      cases h
    | some normal =>
      rw [Domain.isForbidden_of_normalize? hnormal here kept folded below] at forbidden
      cases forbidden

theorem plain_of_brackets (bracketed : name.head? = some '[') (h : parseHost name = .ok host) :
    ∃ inner, name = '[' :: inner ++ [']'] ∧ (∀ c ∈ inner, isPlainChar c = true ∨ c = ':') ∧
      inner.count ':' ≤ 8 := by
  obtain ⟨inner, rfl⟩ := List.head?_eq_some_iff.1 bracketed
  simp only [parseHost] at h
  split at h
  · next closed =>
    split at h
    · next ip hip =>
      obtain ⟨inner, rfl⟩ := List.getLast?_eq_some_iff.1 closed
      rw [List.dropLast_concat] at hip
      exact ⟨inner, rfl, plain_of_whole_ipv6 hip⟩
    · cases h
  · cases h

theorem whole_of_parseHost (chars : ∀ c ∈ name, isAuthorityChar c = true)
    (h : parseHost name = .ok host) (hport : Port port) : Whole (name ++ port) := by
  by_cases bracketed : name.head? = some '['
  · obtain ⟨inner, rfl, plain, few⟩ := plain_of_brackets bracketed h
    rw [List.append_assoc]
    exact Uri.whole_of_brackets plain few hport
  · refine Uri.whole_of_name (fun c hc => ?_) hport
    have here := chars c hc
    simp only [isAuthorityChar, Bool.or_eq_true, beq_iff_eq, or_assoc] at here
    exact here.resolve_right fun delimiter => notMem_of_parseHost bracketed h delimiter hc

-- The scan leaves no percent sign in such an authority: no bracket outside of an IPv6 host
-- makes up for one.
theorem percentless_of_parseHost (h : parseHost name = .ok host) (hport : Port port)
    (noUser : ∀ c ∈ name ++ port, c ≠ '@') (whole : Whole (name ++ port)) : '%' ∉ name ++ port := by
  have strayless : ∀ c ∈ port, ¬(c = ']' ∨ c = '%') := by
    intro c hc stray
    rcases hport.plain.1 c hc with plain | rfl
    · rcases stray with rfl | rfl <;> cases plain
    · revert stray
      decide
  by_cases bracketed : name.head? = some '['
  · obtain ⟨inner, rfl, plain, -⟩ := plain_of_brackets bracketed h
    intro marked
    rcases List.mem_append.1 marked with marked | marked
    · have inInner : '%' ∈ inner := by simpa using marked
      rcases plain _ inInner with plain | same
      · cases plain
      · cases same
    · exact strayless _ marked (.inr rfl)
  · refine whole.percentless fun c hc => ⟨?_, noUser c hc⟩
    rintro rfl
    rcases List.mem_append.1 hc with hc | hc
    · exact notMem_of_parseHost bracketed h (.inr (.inr rfl)) hc
    · exact strayless _ hc (.inl rfl)

theorem split_web {scheme : List Char} (web : scheme.map Char.toLower = "http://".toList) :
    ∃ name, scheme = name ++ [':', '/', '/'] ∧ name.map Char.toLower = "http".toList := by
  have parts : scheme.map Char.toLower = "http".toList ++ [':', '/', '/'] := web
  obtain ⟨name, slashes, rfl, hname, hslashes⟩ := List.map_eq_append_iff.1 parts
  obtain ⟨a, _, rfl, ha, hslashes⟩ := List.map_eq_cons_iff.1 hslashes
  obtain ⟨b, _, rfl, hb, hslashes⟩ := List.map_eq_cons_iff.1 hslashes
  obtain ⟨c, _, rfl, hc, hslashes⟩ := List.map_eq_cons_iff.1 hslashes
  obtain rfl := List.map_eq_nil_iff.1 hslashes
  rw [eq_of_toLower_eq ha rfl, eq_of_toLower_eq hb rfl, eq_of_toLower_eq hc rfl]
  exact ⟨name, rfl, hname⟩

theorem ends_of_ends (h : Uri.endsAuthority c = true) :
    endsAuthority true c = true ∧ isOuter c = false := by
  simp only [Uri.endsAuthority, Bool.or_eq_true, beq_iff_eq] at h
  rcases h with (rfl | rfl) | rfl <;> decide

-- Cleaning loses no part of the scheme and the authority of a web address, and it leaves the
-- authority its end.
theorem cleaned_of_cut {text : String} {scheme : List Char}
    (cut : Uri.Cut text scheme authority rest) (chars : ∀ c ∈ authority, isBareChar c = true) :
    ∃ left, cleaned text = scheme ++ (authority ++ left) ∧
      ∀ c ∈ left.head?, endsAuthority true c = true := by
  obtain ⟨name, rfl, hname⟩ := split_web cut.web
  have visible : ∀ c ∈ (name ++ [':', '/', '/']) ++ authority, isOuter c = false := by
    intro c hc
    rcases List.mem_append.1 hc with hc | hc
    · rcases List.mem_append.1 hc with hc | hc
      · have letter := isLetter_iff.1 (isLetter_of_web hname c hc)
        exact isOuter_of_lt (by omega)
      · simp only [List.mem_cons, List.not_mem_nil, or_false] at hc
        rcases hc with rfl | rfl | rfl <;> rfl
    · exact isOuter_of_isBareChar (chars c hc)
  have nonempty : (name ++ [':', '/', '/']) ++ authority ≠ [] := by simp
  have whole := cut.whole
  rw [← List.append_assoc] at whole
  cases rest with
  | nil =>
    obtain ⟨left, hcleaned, hleft⟩ := cleaned_of_visible whole nonempty visible
    obtain rfl := hleft rfl
    exact ⟨[], by rw [hcleaned, List.append_assoc], by simp⟩
  | cons c rest =>
    obtain ⟨ends, cVisible⟩ := ends_of_ends (cut.ended c rfl)
    rw [List.append_cons] at whole
    obtain ⟨left, hcleaned, -⟩ := cleaned_of_visible whole (by simp) (by
      intro d hd
      rcases List.mem_append.1 hd with hd | hd
      · exact visible d hd
      · rwa [List.mem_singleton.1 hd])
    refine ⟨c :: left, by rw [hcleaned, List.append_assoc, List.append_assoc]; rfl, ?_⟩
    intro d hd
    cases hd
    exact ends

-- The lenient reader finds the authority of a web address where it was cut off.
theorem name_of_parse {text : String} {url : Url} {scheme : List Char}
    (cut : Uri.Cut text scheme authority rest) (chars : ∀ c ∈ authority, isBareChar c = true)
    (h : parse text = .ok url) :
    ∃ name port host, authority = name ++ port ∧ parseHost name = .ok host ∧ Port port := by
  obtain ⟨left, hcleaned, ended⟩ := cleaned_of_cut cut chars
  obtain ⟨name, rfl, hname⟩ := split_web cut.web
  have slashes : ('/' :: '/' :: (authority ++ left)).dropWhile isSlash = authority ++ left := by
    obtain ⟨c, _, rfl⟩ := List.exists_cons_of_ne_nil cut.named
    have stop := ends_of_isBareChar (chars c List.mem_cons_self)
    simp only [endsAuthority, Bool.true_and, Bool.or_eq_false_iff, decide_eq_false_iff_not] at stop
    simp [isSlash, stop]
  rw [List.append_assoc] at hcleaned
  simp only [parse, hcleaned, List.cons_append, List.nil_append, splitScheme?_append hname] at h
  rw [if_neg (by decide), if_pos (by decide), slashes] at h
  obtain ⟨host, hauthority, -⟩ := bind_eq_ok_iff.1 h
  obtain ⟨name, port, hsplit, hhost, hport⟩ := name_of_authority chars ended hauthority
  exact ⟨name, port, host, hsplit, hhost, hport⟩

-- What the lenient reader accepts passes the scan, if nothing in it has to be encoded.
theorem whole_of_parse {text : String} {url : Url} {scheme : List Char}
    (cut : Uri.Cut text scheme authority rest) (chars : ∀ c ∈ authority, isAuthorityChar c = true)
    (h : parse text = .ok url) : Whole authority := by
  obtain ⟨name, port, host, rfl, hhost, hport⟩ :=
    name_of_parse cut (fun c hc => isBareChar_of_isAuthorityChar (chars c hc)) h
  exact whole_of_parseHost (fun c hc => chars c (List.mem_append_left _ hc)) hhost hport

-- And what both accept has nothing in it that would have to be encoded.
theorem spelled_of_parse {text : String} {url : Url} {uri : Uri} (bare : Uri.Bare text)
    (h : parse text = .ok url) (read : Uri.parse text = .ok uri) (hscheme : uri.scheme = some "http") :
    Uri.Spelled text := by
  obtain ⟨scheme, authority, rest, cut, whole⟩ := Uri.parse_web_iff.1 ⟨uri, read, hscheme⟩
  have noUser : ∀ c ∈ authority, c ≠ '@' := fun c hc => bare c (by rwa [cut.authority_eq])
  have chars := whole.isBareChar noUser
  refine ⟨scheme, authority, rest, cut, fun c hc => ?_⟩
  have here := chars c hc
  simp only [isBareChar, Bool.or_eq_true, beq_iff_eq] at here
  refine here.resolve_right ?_
  rintro rfl
  obtain ⟨name, port, host, rfl, hhost, hport⟩ := name_of_parse cut chars h
  exact percentless_of_parseHost hhost hport noUser whole hc

end Url

end RoutingProcessor.Net
