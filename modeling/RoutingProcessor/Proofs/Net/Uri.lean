import RoutingProcessor.Net.Uri
import RoutingProcessor.Proofs.Text.Ascii
import RoutingProcessor.Proofs.Text.Span

namespace RoutingProcessor.Net

open Text

theorem bind_eq_ok_iff {ε α β : Type} {x : Except ε α} {f : α → Except ε β} {b : β} :
    x >>= f = .ok b ↔ ∃ a, x = .ok a ∧ f a = .ok b := by
  cases x <;> simp [bind, Except.bind]

namespace Uri

-- What may stand in an authority that has neither user information nor percent signs.
def isAuthorityChar (c : Char) : Bool := isPlainChar c || c == ':' || c == '[' || c == ']'

-- What may stand in an authority without user information.
def isBareChar (c : Char) : Bool := isAuthorityChar c || c == '%'

-- What may stand behind an authority: a path, a query and a fragment.
def Trails (cs : List Char) : Prop :=
  ∃ path query fragment, cs = path ++ query ++ fragment ∧ (∀ c ∈ path, isPathChar c = true) ∧
    (query = [] ∨ ∃ rest, query = '?' :: rest ∧ ∀ c ∈ rest, isQueryChar c = true) ∧
    ∀ c ∈ fragment.head?, c = '#'

theorem trails_of_splitPath {cs : List Char} {found : String × Option String}
    (h : splitPath cs = .ok found) : Trails cs := by
  have cut : cs.takeWhile isPathChar ++ cs.dropWhile isPathChar = cs :=
    List.takeWhile_append_dropWhile
  have inPath : ∀ c ∈ cs.takeWhile isPathChar, isPathChar c = true :=
    fun _ => List.mem_takeWhile_imp
  unfold splitPath at h
  split at h
  · next stop =>
    rw [stop] at cut
    exact ⟨_, [], [], by simpa using cut.symm, inPath, .inl rfl, by simp⟩
  · next fragment stop =>
    rw [stop] at cut
    exact ⟨_, [], '#' :: fragment, by simpa using cut.symm, inPath, .inl rfl, by simp⟩
  · next rest stop =>
    rw [stop] at cut
    have cutQuery : rest.takeWhile isQueryChar ++ rest.dropWhile isQueryChar = rest :=
      List.takeWhile_append_dropWhile
    have inQuery : ∀ c ∈ rest.takeWhile isQueryChar, isQueryChar c = true :=
      fun _ => List.mem_takeWhile_imp
    split at h
    · next stop =>
      rw [stop, List.append_nil] at cutQuery
      refine ⟨_, _, [], ?_, inPath, .inr ⟨_, rfl, inQuery⟩, by simp⟩
      rw [List.append_nil, cutQuery, cut]
    · next fragment stop =>
      rw [stop] at cutQuery
      refine ⟨_, _, '#' :: fragment, ?_, inPath, .inr ⟨_, rfl, inQuery⟩, by simp⟩
      rw [List.append_assoc, List.cons_append, cutQuery, cut]
    · cases h
  · cases h

theorem splitPath_of_trails {cs : List Char} (h : Trails cs) :
    ∃ found, splitPath cs = .ok found := by
  obtain ⟨path, query, fragment, rfl, inPath, inQuery, inFragment⟩ := h
  unfold splitPath
  rcases inQuery with rfl | ⟨rest, rfl, inQuery⟩
  · have stop : ∀ c ∈ fragment.head?, isPathChar c = false := stop_of_mark inFragment rfl
    rw [List.append_nil, takeWhile_span inPath stop, dropWhile_span inPath stop]
    cases fragment with
    | nil => exact ⟨_, rfl⟩
    | cons c fragment =>
      obtain rfl := inFragment c rfl
      exact ⟨_, rfl⟩
  · have stop : ∀ c ∈ ('?' :: rest ++ fragment).head?, isPathChar c = false :=
      stop_of_mark (show ∀ c ∈ ('?' :: rest ++ fragment).head?, c = '?' by simp) rfl
    have stopQuery : ∀ c ∈ fragment.head?, isQueryChar c = false := stop_of_mark inFragment rfl
    rw [List.append_assoc, takeWhile_span inPath stop, dropWhile_span inPath stop, List.cons_append]
    simp only
    rw [takeWhile_span inQuery stopQuery, dropWhile_span inQuery stopQuery]
    cases fragment with
    | nil => exact ⟨_, rfl⟩
    | cons c fragment =>
      obtain rfl := inFragment c rfl
      exact ⟨_, rfl⟩

theorem count_colon_of_plain {cs : List Char} (plain : ∀ c ∈ cs, isPlainChar c = true) :
    cs.count ':' = 0 := by
  rw [List.count_eq_zero]
  intro colon
  exact absurd (plain ':' colon) (by decide)

theorem isPlainChar_of_isDigit {c : Char} (h : isDigit c = true) : isPlainChar c = true := by
  simp [isPlainChar, h]

namespace AuthorityScan

variable {scan scan' : AuthorityScan} {colons : Nat} {percent opened closed : Bool}
  {c : Char} {cs front back : List Char}

theorem foldlM_cons (step : next scan c = .ok scan') :
    (c :: cs).foldlM next scan = cs.foldlM next scan' := by
  rw [List.foldlM_cons, step]
  rfl

theorem foldlM_append (run : front.foldlM next scan = .ok scan') :
    (front ++ back).foldlM next scan = back.foldlM next scan' := by
  rw [List.foldlM_append, run]
  rfl

theorem next_plain (plain : isPlainChar c = true) :
    next ⟨colons, percent, opened, closed, false⟩ c =
      .ok ⟨colons, percent, opened, closed, false⟩ := by
  unfold next
  split
  all_goals first | (exact absurd plain (by decide)) | simp [plain]

-- Between brackets and outside of them nothing but the colons is counted.
theorem foldlM_plain (plain : ∀ c ∈ cs, isPlainChar c = true ∨ c = ':')
    (room : colons + cs.count ':' ≤ 8) :
    cs.foldlM next ⟨colons, percent, opened, closed, false⟩ =
      .ok ⟨colons + cs.count ':', percent, opened, closed, false⟩ := by
  induction cs generalizing colons with
  | nil => rfl
  | cons c cs ih =>
    have rest : ∀ c ∈ cs, isPlainChar c = true ∨ c = ':' :=
      fun c hc => plain c (List.mem_cons_of_mem _ hc)
    by_cases colon : c = ':'
    · subst colon
      rw [List.count_cons_self] at room ⊢
      have step : next ⟨colons, percent, opened, closed, false⟩ ':' =
          .ok ⟨colons + 1, percent, opened, closed, false⟩ := by
        simp only [next]
        rw [if_neg (by omega)]
      rw [foldlM_cons step, ih rest (by omega),
        show colons + 1 + cs.count ':' = colons + (cs.count ':' + 1) by omega]
    · rw [foldlM_cons (next_plain ((plain c (List.mem_cons_self ..)).resolve_right colon))]
      rw [List.count_cons_of_ne colon] at room ⊢
      exact ih rest room

theorem foldlM_cons_eq_ok (h : (c :: cs).foldlM next scan = .ok scan') :
    ∃ between, next scan c = .ok between ∧ cs.foldlM next between = .ok scan' := by
  rw [List.foldlM_cons] at h
  exact bind_eq_ok_iff.1 h

theorem isBareChar_of_next (h : next scan c = .ok scan') : isBareChar c = true ∨ c = '@' := by
  unfold next at h
  split at h
  · exact .inl rfl
  · exact .inl rfl
  · exact .inl rfl
  · exact .inr rfl
  · exact .inl rfl
  · split at h
    · next plain => exact .inl (by simp [isBareChar, isAuthorityChar, plain])
    · cases h

theorem isBareChar_of_foldlM (h : cs.foldlM next scan = .ok scan') :
    ∀ c ∈ cs, isBareChar c = true ∨ c = '@' := by
  induction cs generalizing scan with
  | nil => simp
  | cons c cs ih =>
    obtain ⟨between, step, run⟩ := foldlM_cons_eq_ok h
    intro d hd
    rcases List.mem_cons.1 hd with rfl | hd
    · exact isBareChar_of_next step
    · exact ih run d hd

theorem percent_of_next (h : next scan c = .ok scan') (kept : c ≠ ']' ∧ c ≠ '@')
    (marked : scan.percent = true ∨ c = '%') : scan'.percent = true := by
  simp only [next] at h
  split at h
  · split at h <;> cases h
    exact marked.resolve_right (by decide)
  · split at h <;> cases h
    exact marked.resolve_right (by decide)
  · exact absurd rfl kept.1
  · exact absurd rfl kept.2
  · cases h
    rfl
  · next unmarked =>
    split at h <;> cases h
    exact marked.resolve_right unmarked

-- Only a closing bracket or an at sign makes up for a percent sign.
theorem percent_of_foldlM (h : cs.foldlM next scan = .ok scan')
    (kept : ∀ c ∈ cs, c ≠ ']' ∧ c ≠ '@') (marked : scan.percent = true ∨ '%' ∈ cs) :
    scan'.percent = true := by
  induction cs generalizing scan with
  | nil =>
    cases h
    exact marked.resolve_right List.not_mem_nil
  | cons c cs ih =>
    obtain ⟨between, step, run⟩ := foldlM_cons_eq_ok h
    have later : ∀ d ∈ cs, d ≠ ']' ∧ d ≠ '@' := fun d hd => kept d (List.mem_cons_of_mem _ hd)
    have here := kept c List.mem_cons_self
    rcases marked with marked | marked
    · exact ih run later (.inl (percent_of_next step here (.inl marked)))
    · rcases List.mem_cons.1 marked with same | marked
      · exact ih run later (.inl (percent_of_next step here (.inr same.symm)))
      · exact ih run later (.inr marked)

end AuthorityScan

-- The scan goes through the whole authority and is content with it.
def Whole (authority : List Char) : Prop :=
  ∃ scan, authority.foldlM AuthorityScan.next .start = .ok scan ∧ scan.isWhole = true

theorem Whole.isBareChar {authority : List Char} (whole : Whole authority)
    (noUser : ∀ c ∈ authority, c ≠ '@') : ∀ c ∈ authority, isBareChar c = true := by
  obtain ⟨scan, run, -⟩ := whole
  exact fun c hc => (AuthorityScan.isBareChar_of_foldlM run c hc).resolve_right (noUser c hc)

theorem Whole.percentless {authority : List Char} (whole : Whole authority)
    (kept : ∀ c ∈ authority, c ≠ ']' ∧ c ≠ '@') : '%' ∉ authority := by
  obtain ⟨scan, run, content⟩ := whole
  intro marked
  have percent := AuthorityScan.percent_of_foldlM run kept (.inr marked)
  simp [AuthorityScan.isWhole, percent] at content

-- A colon and digits, if there is a port at all.
def Port (cs : List Char) : Prop :=
  cs = [] ∨ ∃ digits, cs = ':' :: digits ∧ ∀ c ∈ digits, isDigit c = true

theorem Port.plain {port : List Char} (h : Port port) :
    (∀ c ∈ port, isPlainChar c = true ∨ c = ':') ∧ port.count ':' ≤ 1 := by
  rcases h with rfl | ⟨digits, rfl, all⟩
  · simp
  · have plain : ∀ c ∈ digits, isPlainChar c = true := fun c hc => isPlainChar_of_isDigit (all c hc)
    refine ⟨?_, by simp [count_colon_of_plain plain]⟩
    intro c hc
    rcases List.mem_cons.1 hc with rfl | hc
    · exact .inr rfl
    · exact .inl (plain c hc)

theorem whole_of_name {name port : List Char} (plain : ∀ c ∈ name, isPlainChar c = true)
    (hport : Port port) : Whole (name ++ port) := by
  obtain ⟨plainPort, onePort⟩ := hport.plain
  have one : (name ++ port).count ':' ≤ 1 := by
    rwa [List.count_append, count_colon_of_plain plain, Nat.zero_add]
  refine ⟨_, AuthorityScan.foldlM_plain ?_ (by omega), ?_⟩
  · intro c hc
    rcases List.mem_append.1 hc with hc | hc
    · exact .inl (plain c hc)
    · exact plainPort c hc
  · simpa [AuthorityScan.isWhole] using one

theorem whole_of_brackets {inner port : List Char}
    (plain : ∀ c ∈ inner, isPlainChar c = true ∨ c = ':') (few : inner.count ':' ≤ 8)
    (hport : Port port) : Whole ('[' :: inner ++ ']' :: port) := by
  obtain ⟨plainPort, onePort⟩ := hport.plain
  refine ⟨⟨port.count ':', false, true, true, false⟩, ?_, by simpa [AuthorityScan.isWhole] using onePort⟩
  have opening : AuthorityScan.next .start '[' = .ok ⟨0, false, true, false, false⟩ := rfl
  have closing (colons : Nat) : AuthorityScan.next ⟨colons, false, true, false, false⟩ ']' =
      .ok ⟨0, false, true, true, false⟩ := rfl
  rw [List.cons_append, AuthorityScan.foldlM_cons opening,
    AuthorityScan.foldlM_append (AuthorityScan.foldlM_plain plain (by omega)),
    AuthorityScan.foldlM_cons (closing _), AuthorityScan.foldlM_plain plainPort (by omega),
    Nat.zero_add]

-- How the text of a plain web address falls into its parts.
structure Cut (text : String) (scheme authority rest : List Char) : Prop where
  whole : text.toList = scheme ++ (authority ++ rest)
  web : scheme.map Char.toLower = "http://".toList
  named : authority ≠ []
  inside : ∀ c ∈ authority, endsAuthority c = false
  ended : ∀ c ∈ rest.head?, endsAuthority c = true
  trails : Trails rest
  short : (octets text).length ≤ 65534

variable {text scheme : String} {uri : Uri} {cs front authority rest : List Char}

theorem splitAuthority_eq_ok (h : splitAuthority cs = .ok (authority, rest)) :
    authority ++ rest = cs ∧ (∀ c ∈ authority, endsAuthority c = false) ∧
      (∀ c ∈ rest.head?, endsAuthority c = true) ∧ Whole authority := by
  simp only [splitAuthority] at h
  split at h
  · cases h
  obtain ⟨scan, run, h⟩ := bind_eq_ok_iff.1 h
  split at h
  · next content =>
    cases h
    refine ⟨List.takeWhile_append_dropWhile, fun c hc => ?_, fun c hc => ?_, scan, run, content⟩
    · simpa using List.mem_takeWhile_imp hc
    · simpa using head?_dropWhile _ _ c hc
  · cases h

theorem splitAuthority_append (named : authority ≠ [])
    (inside : ∀ c ∈ authority, endsAuthority c = false)
    (ended : ∀ c ∈ rest.head?, endsAuthority c = true) (whole : Whole authority) :
    splitAuthority (authority ++ rest) = .ok (authority, rest) := by
  obtain ⟨scan, run, content⟩ := whole
  have inside : ∀ c ∈ authority, (!endsAuthority c) = true := by simpa using inside
  have ended : ∀ c ∈ rest.head?, (!endsAuthority c) = false := by simpa using ended
  simp only [splitAuthority]
  rw [if_neg (by simp [named]), takeWhile_span inside ended, dropWhile_span inside ended, run]
  simp only [bind, Except.bind, content]
  rfl

theorem parseAbsolute_eq_ok (h : parseAbsolute scheme cs = .ok uri) :
    uri.scheme = some scheme ∧ ∃ authority rest, splitAuthority cs = .ok (authority, rest) ∧
      authority ≠ [] ∧ Trails rest := by
  obtain ⟨⟨authority, rest⟩, hauthority, h⟩ := bind_eq_ok_iff.1 h
  dsimp only at h
  split at h
  · cases h
  · next named =>
    obtain ⟨⟨path, query⟩, hpath, h⟩ := bind_eq_ok_iff.1 h
    cases h
    exact ⟨rfl, authority, rest, hauthority, by simpa using named, trails_of_splitPath hpath⟩

theorem parseAbsolute_append (hauthority : splitAuthority cs = .ok (authority, rest))
    (named : authority ≠ []) (trails : Trails rest) :
    ∃ uri, parseAbsolute scheme cs = .ok uri ∧ uri.scheme = some scheme := by
  obtain ⟨⟨path, query⟩, hpath⟩ := splitPath_of_trails trails
  simp only [parseAbsolute, hauthority, bind, Except.bind]
  rw [if_neg (by simp [named])]
  simp only [hpath]
  exact ⟨_, rfl, rfl⟩

theorem splitScheme_eq_web (h : splitScheme cs = .ok (some ("http", rest))) :
    ∃ front, cs = front ++ rest ∧ front.map Char.toLower = "http://".toList := by
  unfold splitScheme at h
  split at h
  · next web =>
    cases h
    refine ⟨cs.take 7, (List.take_append_drop 7 cs).symm, ?_⟩
    simpa [lower] using congrArg String.toList web
  · next other =>
    split at h
    · simp at h
    split at h
    · cases h
    split at h
    · next rest stop =>
      dsimp only at h
      split at h
      · cases h
      · -- The name and the slashes are there, so the scheme was known by its first letters.
        simp only [Except.ok.injEq, Option.some.injEq, Prod.mk.injEq] at h
        have name : cs.takeWhile isSchemeChar = ['h', 't', 't', 'p'] := by
          simpa using congrArg String.toList h.1
        have cut : cs.takeWhile isSchemeChar ++ cs.dropWhile isSchemeChar = cs :=
          List.takeWhile_append_dropWhile
        rw [name, stop] at cut
        have web : cs.take 7 = ['h', 't', 't', 'p', ':', '/', '/'] := by rw [← cut]; rfl
        exact absurd (by rw [web]; rfl) other
    · cases h

theorem length_of_web (web : front.map Char.toLower = "http://".toList) : front.length = 7 := by
  simpa using congrArg List.length web

theorem splitScheme_append (web : front.map Char.toLower = "http://".toList) :
    splitScheme (front ++ rest) = .ok (some ("http", rest)) := by
  have length := length_of_web web
  unfold splitScheme
  rw [List.take_left' length, List.drop_left' length, if_pos]
  rw [lower, String.toList_ofList, web, String.ofList_toList]

theorem parse_eq_ok (h : parse text = .ok uri) (hscheme : uri.scheme = some scheme) :
    (octets text).length ≤ 65534 ∧ ∃ rest, splitScheme text.toList = .ok (some (scheme, rest)) ∧
      parseAbsolute scheme rest = .ok uri := by
  have short : ¬(octets text).length > 65534 := by
    intro long
    simp only [parse, if_pos long] at h
    cases h
  refine ⟨by omega, ?_⟩
  -- Only the last of the forms has a scheme.
  simp only [parse, if_neg short] at h
  split at h
  · cases h
  · cases h
    cases hscheme
  · cases h
    cases hscheme
  · obtain ⟨⟨_, _⟩, -, h⟩ := bind_eq_ok_iff.1 h
    dsimp only at h
    split at h <;> cases h
    cases hscheme
  · obtain ⟨⟨_, _⟩, -, h⟩ := bind_eq_ok_iff.1 h
    cases h
    cases hscheme
  · obtain ⟨found, hsplit, h⟩ := bind_eq_ok_iff.1 h
    split at h
    · next name rest =>
      rw [(parseAbsolute_eq_ok h).1, Option.some.injEq] at hscheme
      subst hscheme
      exact ⟨rest, hsplit, h⟩
    · obtain ⟨⟨_, _⟩, -, h⟩ := bind_eq_ok_iff.1 h
      dsimp only at h
      split at h <;> cases h
      cases hscheme

theorem parse_of_splitScheme (short : (octets text).length ≤ 65534)
    (hsplit : splitScheme text.toList = .ok (some (scheme, rest)))
    (rooted : text.toList.head? ≠ some '/') (long : 1 < text.toList.length) :
    parse text = parseAbsolute scheme rest := by
  simp only [parse, if_neg (show ¬(octets text).length > 65534 by omega)]
  split <;> simp_all [bind, Except.bind]

-- A text leads to a plain web server just when it can be cut into its parts and the scan goes
-- through the authority.
theorem parse_web_iff :
    (∃ uri, parse text = .ok uri ∧ uri.scheme = some "http") ↔
      ∃ scheme authority rest, Cut text scheme authority rest ∧ Whole authority := by
  constructor
  · rintro ⟨uri, h, hscheme⟩
    obtain ⟨short, behind, hsplit, h⟩ := parse_eq_ok h hscheme
    obtain ⟨front, whole, web⟩ := splitScheme_eq_web hsplit
    obtain ⟨-, authority, rest, hauthority, named, trails⟩ := parseAbsolute_eq_ok h
    obtain ⟨rfl, inside, ended, content⟩ := splitAuthority_eq_ok hauthority
    exact ⟨front, authority, rest, ⟨whole, web, named, inside, ended, trails, short⟩, content⟩
  · rintro ⟨front, authority, rest, cut, content⟩
    have length := length_of_web cut.web
    have rooted : text.toList.head? ≠ some '/' := by
      intro rooted
      have h := congrArg List.head? cut.web
      cases front with
      | nil => cases length
      | cons c front =>
        obtain rfl : c = '/' := by simpa [cut.whole] using rooted
        exact absurd h (by simp)
    rw [parse_of_splitScheme cut.short (cut.whole ▸ splitScheme_append cut.web) rooted
      (by rw [cut.whole, List.length_append]; omega)]
    exact parseAbsolute_append (splitAuthority_append cut.named cut.inside cut.ended content)
      cut.named cut.trails

-- The text of a plain web address with nothing in front of its host and nothing encoded in it.
def Spelled (text : String) : Prop :=
  ∃ scheme authority rest, Cut text scheme authority rest ∧
    ∀ c ∈ authority, isAuthorityChar c = true

-- There is no user information where the authority would be.
def Bare (text : String) : Prop :=
  ∀ c ∈ (text.toList.drop 7).takeWhile (!endsAuthority ·), c ≠ '@'

theorem Cut.authority_eq {scheme : List Char} (cut : Cut text scheme authority rest) :
    (text.toList.drop 7).takeWhile (!endsAuthority ·) = authority := by
  rw [cut.whole, List.drop_left' (length_of_web cut.web)]
  exact takeWhile_span (by simpa using cut.inside) (by simpa using cut.ended)

end Uri

end RoutingProcessor.Net
