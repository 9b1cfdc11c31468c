import RoutingProcessor.Backend.Echo
import RoutingProcessor.Proofs.Backend.Table
import RoutingProcessor.Proofs.Json.Print
import RoutingProcessor.Proofs.Text.Ascii

namespace RoutingProcessor.Backend

open Http Text

theorem lower_lower (text : String) : lower (lower text) = lower text := by
  rw [lower, lower, String.toList_ofList, List.map_map, toLower_comp_toLower]

section Canonical

variable {part cs : List Char} {name other : String}

theorem notMem_of_mem_splitOn {c : Char} (h : part ∈ cs.splitOn c) : c ∉ part := by
  induction cs generalizing part with
  | nil =>
    rw [List.splitOn_nil, List.mem_singleton] at h
    simp [h]
  | cons d cs ih =>
    rw [List.splitOn_cons_eq_if_modifyHead] at h
    split at h
    case isTrue =>
      rcases List.mem_cons.1 h with rfl | h
      · simp
      · exact ih h
    case isFalse hd =>
      obtain ⟨first, rest, hsplit⟩ := List.exists_cons_of_ne_nil (List.splitOn_ne_nil c cs)
      rw [hsplit, List.modifyHead_cons] at h
      rcases List.mem_cons.1 h with rfl | h
      · have hfirst : c ∉ first := ih (by rw [hsplit]; exact List.mem_cons_self)
        have hne : c ≠ d := fun heq => hd (by simp [heq])
        simp [hne, hfirst]
      · exact ih (by rw [hsplit]; exact List.mem_cons_of_mem _ h)

theorem map_intercalate (f : Char → Char) (mark : List Char) (parts : List (List Char)) :
    (mark.intercalate parts).map f = (mark.map f).intercalate (parts.map (List.map f)) := by
  induction parts with
  | nil => rfl
  | cons part parts ih =>
    cases parts with
    | nil => simp
    | cons next parts =>
      rw [List.intercalate_cons_cons, List.map_append, List.map_append, ih, List.map_cons,
        List.map_cons, List.map_cons, List.intercalate_cons_cons]

theorem map_toLower_canonicalPart (part : List Char) :
    (canonicalPart part).map Char.toLower = part.map Char.toLower := by
  cases part with
  | nil => rfl
  | cons c rest =>
    simp only [canonicalPart, List.map_cons, List.map_map, toLower_toUpper, toLower_comp_toLower]

theorem canonicalPart_canonicalPart (part : List Char) :
    canonicalPart (canonicalPart part) = canonicalPart part := by
  cases part with
  | nil => rfl
  | cons c rest =>
    simp only [canonicalPart, List.map_map, toUpper_toUpper, toLower_comp_toLower]

theorem notMem_canonicalPart (h : '-' ∉ part) : '-' ∉ canonicalPart part := by
  intro hmem
  have hlower : '-' ∈ (canonicalPart part).map Char.toLower := by
    exact List.mem_map_of_mem (f := Char.toLower) hmem
  rw [map_toLower_canonicalPart] at hlower
  obtain ⟨c, hc, hdash⟩ := List.mem_map.1 hlower
  rw [eq_of_toLower_eq hdash rfl] at hc
  exact h hc

-- Letters apart, a name is spelled as it was.
theorem lower_canonicalName (name : String) : lower (canonicalName name) = lower name := by
  have dash : ['-'].map Char.toLower = ['-'] := rfl
  have parts : List.map Char.toLower ∘ canonicalPart = List.map Char.toLower :=
    funext map_toLower_canonicalPart
  rw [lower, lower, canonicalName, String.toList_ofList, map_intercalate, List.map_map, parts,
    ← map_intercalate, List.intercalate_splitOn]

theorem canonicalName_canonicalName (name : String) :
    canonicalName (canonicalName name) = canonicalName name := by
  have parts : canonicalPart ∘ canonicalPart = canonicalPart :=
    funext canonicalPart_canonicalPart
  have dashless : ∀ part ∈ (name.toList.splitOn '-').map canonicalPart, '-' ∉ part := by
    intro part hpart
    obtain ⟨given, hgiven, rfl⟩ := List.mem_map.1 hpart
    exact notMem_canonicalPart (notMem_of_mem_splitOn hgiven)
  have nonempty : (name.toList.splitOn '-').map canonicalPart ≠ [] :=
    mt List.map_eq_nil_iff.1 (List.splitOn_ne_nil _ _)
  rw [canonicalName, canonicalName, String.toList_ofList,
    List.splitOn_intercalate '-' dashless nonempty, List.map_map, parts]

-- Names in lower case are kept apart.
theorem eq_of_canonicalName (hname : lower name = name) (hother : lower other = other)
    (h : canonicalName name = canonicalName other) : name = other := by
  rw [← hname, ← hother, ← lower_canonicalName name, h, lower_canonicalName]

end Canonical

-- What an echo has to say of a request: a header under its canonical name, with its values in
-- the order of arrival. The host and the method have entries of their own.
inductive Echoed (r : Request) : String → String → Prop where
  | header {name : String} (given : ∃ h ∈ r.headers, lower h.1 = name) (host : name ≠ "host")
      (method : name ≠ "method") :
      Echoed r (canonicalName name) (String.intercalate ","
        ((r.headers.filter fun h => lower h.1 = name).map fun h => Utf8.decodeLossy h.2))
  | host :
      Echoed r "Host" (r.target.authority.getD (String.intercalate ","
        ((r.headers.filter fun h => lower h.1 = "host").map fun h => Utf8.decodeLossy h.2)))
  | method : Echoed r "Method" r.method

section Echo

variable {r : Request} {name key value : String}

theorem mem_names : name ∈ r.names ↔ ∃ h ∈ r.headers, lower h.1 = name := by
  rw [Request.names, List.mem_eraseDups, List.mem_map]

theorem lower_of_mem_names (h : name ∈ r.names) : lower name = name := by
  obtain ⟨header, -, rfl⟩ := mem_names.1 h
  exact lower_lower header.1

theorem joined_eq (r : Request) (name : String) :
    r.joined name = String.intercalate ","
      ((r.headers.filter fun h => lower h.1 = name).map fun h => Utf8.decodeLossy h.2) := by
  rw [Request.joined, Request.values, List.map_map]
  rfl

theorem joined_of_notMem (h : name ∉ r.names) : r.joined name = "" := by
  have empty : (r.headers.filter fun h => lower h.1 = name) = [] := by
    rw [List.filter_eq_nil_iff]
    intro header hheader hname
    exact h (mem_names.2 ⟨header, hheader, of_decide_eq_true hname⟩)
  rw [joined_eq, empty]
  rfl

theorem lookup_receivedTable :
    (receivedTable r).lookup key = some value ↔
      ∃ name ∈ r.names, canonicalName name = key ∧ r.joined name = value := by
  rw [receivedTable, Table.lookup_ofList, lastValue_iff_mem]
  · simp
  · intro a ha b hb hkey
    obtain ⟨m, hm, rfl⟩ := List.mem_map.1 ha
    obtain ⟨n, hn, rfl⟩ := List.mem_map.1 hb
    rw [eq_of_canonicalName (lower_of_mem_names hm) (lower_of_mem_names hn) hkey]

-- The host of the target, or else what the request says of it.
theorem host_echoTable (r : Request) :
    (r.target.authority.or ((receivedTable r).lookup "Host")).getD "" =
      r.target.authority.getD (r.joined "host") := by
  cases r.target.authority with
  | some authority => rfl
  | none =>
    rw [Option.none_or, Option.getD_none]
    cases hfound : (receivedTable r).lookup "Host" with
    | some value =>
      obtain ⟨name, hname, hkey, rfl⟩ := lookup_receivedTable.1 hfound
      have same : name = "host" := eq_of_canonicalName (lower_of_mem_names hname) rfl hkey
      rw [same]
      rfl
    | none =>
      have absent : "host" ∉ r.names := by
        intro hmem
        have given := lookup_receivedTable.2 ⟨"host", hmem, rfl, rfl⟩
        rw [show canonicalName "host" = "Host" from rfl, hfound] at given
        cases given
      rw [joined_of_notMem absent]
      rfl

theorem lookup_echoTable (r : Request) (key : String) :
    (echoTable r).lookup key =
      if key = "Method" then some r.method
      else if key = "Host" then some (r.target.authority.getD (r.joined "host"))
      else (receivedTable r).lookup key := by
  rw [echoTable, Table.lookup_insert, Table.lookup_insert, host_echoTable]

theorem echoed_iff : (echoTable r).lookup key = some value ↔ Echoed r key value := by
  rw [lookup_echoTable]
  constructor
  · split
    case isTrue h =>
      rintro ⟨⟩
      rw [h]
      exact .method
    case isFalse hmethod =>
      split
      case isTrue h =>
        rintro ⟨⟩
        rw [h, joined_eq]
        exact .host
      case isFalse hhost =>
        intro hfound
        obtain ⟨name, hname, rfl, rfl⟩ := lookup_receivedTable.1 hfound
        rw [joined_eq]
        refine .header (mem_names.1 hname) ?_ ?_
        · rintro rfl
          exact hhost rfl
        · rintro rfl
          exact hmethod rfl
  · intro h
    cases h with
    | @header name given host method =>
      have hname : name ∈ r.names := mem_names.2 given
      have notMethod : canonicalName name ≠ "Method" := fun h =>
        method (eq_of_canonicalName (lower_of_mem_names hname) rfl h)
      have notHost : canonicalName name ≠ "Host" := fun h =>
        host (eq_of_canonicalName (lower_of_mem_names hname) rfl h)
      rw [if_neg notMethod, if_neg notHost]
      exact lookup_receivedTable.2 ⟨name, hname, rfl, joined_eq r name⟩
    | host => rw [if_neg (by decide), if_pos rfl, joined_eq]
    | method => rw [if_pos rfl]

theorem sorted_echoTable (r : Request) : (echoTable r).Sorted :=
  Table.sorted_insert (Table.sorted_insert (Table.sorted_ofList _))

-- An echo has every header of the request, and no two of them under one name.
theorem headers_echoed (path : r.target.path = "/headers") :
    (∃ (body : String) (table : Table),
      respond r = (⟨.ok, [("content-type", "application/json")], body⟩, []) ∧
      (∃ echoes, Json.Object [("headers", echoes)] (octets body) ∧ Json.TextObject table echoes) ∧
      table.Sorted ∧ ∀ key value, (key, value) ∈ table ↔ Echoed r key value) ∧
      (∀ name, canonicalName (canonicalName name) = canonicalName name) ∧
      ∀ name other, lower name = name → lower other = other →
        canonicalName name = canonicalName other → name = other := by
  refine ⟨⟨(echoHeaders r).body, echoTable r, ?_, ?_, sorted_echoTable r, fun key value => ?_⟩,
    canonicalName_canonicalName, fun _ _ => eq_of_canonicalName⟩
  · rw [respond, if_pos path]
    rfl
  · exact ⟨octets (Json.textObject (echoTable r)),
      Json.object_object [("headers", Json.textObject (echoTable r))],
      Json.textObject_textObject (echoTable r)⟩
  · rw [Table.mem_iff_lookup (sorted_echoTable r), echoed_iff]

-- A header that came twice, one that looks like the method, and no host.
theorem repeated_header_echoed_once :
    let r : Request := ⟨"PUT", ⟨none, none, "/headers", none⟩,
      [("X-Id", [0x31]), ("method", [0x32]), ("x-id", [0xFF])]⟩
    r.target.path = "/headers" ∧ ∃ table : Table, table.Sorted ∧ ("X-Id", "1,\uFFFD") ∈ table ∧
      ("Host", "") ∈ table ∧ ("Method", "PUT") ∈ table ∧ ("Method", "2") ∉ table := by
  intro r
  obtain ⟨⟨body, table, -, -, sorted, mem⟩, -, -⟩ := headers_echoed (r := r) rfl
  have twice : Echoed r "X-Id" "1,\uFFFD" := echoed_iff.1 (by decide +kernel)
  refine ⟨rfl, table, sorted, (mem _ _).2 twice, (mem _ _).2 .host, (mem _ _).2 .method, ?_⟩
  rw [mem, ← echoed_iff]
  decide +kernel

end Echo

end RoutingProcessor.Backend
