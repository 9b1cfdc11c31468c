import Mathlib.Data.List.Nodup
import RoutingProcessor.Config.OfYaml
import RoutingProcessor.Proofs.Net.Uri
import RoutingProcessor.Proofs.Yaml.Node

namespace RoutingProcessor.Config

open Yaml

-- A scalar gives its text, wherever it is written and however.
def IsText (anchors : Node.Anchors) (node : Node) (text : String) : Prop :=
  ∃ style tag, node.resolve anchors = .scalar text style tag

-- The members of a section. A section of which nothing is written has none.
inductive Lists (anchors : Node.Anchors) (node : Node) : List (Node × Node) → Prop where
  | mapping {tag : Option String} {entries : List (Node × Node)}
      (found : node.resolve anchors = .mapping tag entries) : Lists anchors node entries
  | blank {tag : Option String} (found : node.resolve anchors = .scalar "" .plain tag) :
      Lists anchors node []

-- What a section gives under a key.
def Member (anchors : Node.Anchors) (node : Node) (key : String) (value : Node) : Prop :=
  ∃ entries, Lists anchors node entries ∧ ∃ entry ∈ entries,
    IsText anchors entry.1 key ∧ entry.2 = value

-- A section names its members, and gives those that are known at most once.
def IsSection (anchors : Node.Anchors) (keys : List String) (node : Node) : Prop :=
  ∃ entries, Lists anchors node entries ∧
    (∀ entry ∈ entries, ∃ name, IsText anchors entry.1 name) ∧
    entries.Pairwise fun a b => ∀ key ∈ keys, IsText anchors a.1 key → ¬ IsText anchors b.1 key

-- What a document gives under keys that lead inwards.
def Leads (anchors : Node.Anchors) : List String → Node → Node → Prop
  | [], node, found => found = node
  | key :: path, node, found =>
    ∃ value, Member anchors node key value ∧ Leads anchors path value found

-- A value is what a document gives under some keys, and a default if it gives nothing there.
structure Filled {α : Type} (anchors : Node.Anchors) (path : List String) (node : Node)
    (means : Node → α → Prop) (default a : α) : Prop where
  given : ∀ found, Leads anchors path node found → means found a
  left : (∀ found, ¬ Leads anchors path node found) → a = default

-- What a document says under some keys.
def Gives {α : Type} (anchors : Node.Anchors) (path : List String) (node : Node)
    (means : Node → α → Prop) (a : α) : Prop :=
  ∃ found, Leads anchors path node found ∧ means found a

variable {anchors : Node.Anchors} {node : Node} {wanted name key text : String}
  {entries rest : List (Node × Node)}

theorem IsText.unique {other : String} (h : IsText anchors node text)
    (h' : IsText anchors node other) : text = other := by
  obtain ⟨_, _, found⟩ := h
  obtain ⟨_, _, found'⟩ := h'
  rw [found] at found'
  cases found'
  rfl

-- Documents that say the same under some keys fill in the same.
theorem Filled.congr {α : Type} {anchors' : Node.Anchors} {node' : Node} {path : List String}
    {means means' : Node → α → Prop} {default a b : α}
    (h : Filled anchors path node means default a)
    (h' : Filled anchors' path node' means' default b)
    (unique : ∀ {found a b}, means' found a → means' found b → a = b)
    (same : ∀ c, Gives anchors path node means c ↔ Gives anchors' path node' means' c) : a = b := by
  by_cases leads : ∃ found, Leads anchors path node found
  · obtain ⟨found, leads⟩ := leads
    obtain ⟨found', leads', said⟩ := (same a).1 ⟨found, leads, h.given found leads⟩
    exact unique said (h'.given found' leads')
  · have none : ∀ found', ¬ Leads anchors' path node' found' := by
      intro found' leads'
      obtain ⟨found, there, -⟩ := (same b).2 ⟨found', leads', h'.given found' leads'⟩
      exact leads ⟨found, there⟩
    rw [h.left fun found there => leads ⟨found, there⟩, h'.left none]

theorem Lists.unique {other : List (Node × Node)} (h : Lists anchors node entries)
    (h' : Lists anchors node other) : entries = other := by
  cases h with
  | mapping found =>
    cases h' with
    | mapping found' =>
      rw [found] at found'
      cases found'
      rfl
    | blank found' =>
      rw [found] at found'
      cases found'
  | blank found =>
    cases h' with
    | mapping found' =>
      rw [found] at found'
      cases found'
    | blank => rfl

theorem leads_singleton {value : Node} :
    Leads anchors [key] node value ↔ Member anchors node key value := by
  simp [Leads]

-- What fills a section fills what the section is part of.
theorem Filled.cons {α β : Type} {path : List String} {inner : Node → β → Prop}
    {means : Node → α → Prop} {default s : β} (outer : Filled anchors [key] node inner default s)
    (get : β → α)
    (rest : ∀ value, inner value s → Filled anchors path value means (get default) (get s)) :
    Filled anchors (key :: path) node means (get default) (get s) where
  given := by
    rintro found ⟨value, member, leads⟩
    exact (rest value (outer.given value (leads_singleton.2 member))).given found leads
  left := by
    intro none
    by_cases member : ∃ value, Member anchors node key value
    · obtain ⟨value, member⟩ := member
      have said := outer.given value (leads_singleton.2 member)
      exact (rest value said).left fun found leads => none found ⟨value, member, leads⟩
    · rw [outer.left fun value leads => member ⟨value, leads_singleton.1 leads⟩]

namespace OfYaml

variable {σ : Type} {fields : List (Field Place Trouble σ)} {place : Place} {seen : List String}
  {s s' : σ} {key value : Node}

theorem scalarText_eq_ok_iff :
    scalarText wanted (node.resolve anchors) = .ok text ↔ IsText anchors node text := by
  unfold scalarText IsText
  cases node.resolve anchors <;> simp

-- A member is passed over, or it is known, given for the first time and put into place.
theorem members_cons_eq_ok_iff :
    members fields place seen ((key, value) :: rest) s = .ok s' ↔
      ∃ name, IsText place.anchors key name ∧
        ((fields.find? (fun field => field.key = name) = none ∧ value.isWhole = true ∧
            members fields place seen rest s = .ok s') ∨
          ∃ field put, fields.find? (fun field => field.key = name) = some field ∧ name ∉ seen ∧
            field.read ⟨value, place.anchors, memberPath place.path key⟩ = .ok put ∧
            members fields place (name :: seen) rest (put s) = .ok s') := by
  rw [members]
  cases named : scalarText "field identifier" (key.resolve place.anchors) with
  | error trouble =>
    have unnamed : ∀ name, ¬ IsText place.anchors key name := by
      intro name h
      rw [scalarText_eq_ok_iff.2 h] at named
      cases named
    simp [unnamed]
  | ok name =>
    have isName := scalarText_eq_ok_iff.1 named
    have only {p : String → Prop} :
        (∃ other, IsText place.anchors key other ∧ p other) ↔ p name := by
      constructor
      · rintro ⟨other, h, holds⟩
        rwa [isName.unique h]
      · exact fun holds => ⟨name, isName, holds⟩
    rw [only]
    cases known : fields.find? (fun field => field.key = name) with
    | none => cases whole : value.isWhole <;> simp [known]
    | some field =>
      by_cases again : name ∈ seen
      · simp [known, again]
      · cases read : field.read ⟨value, place.anchors, memberPath place.path key⟩ <;>
          simp [known, again, read]

-- A part of a section that only the member with a key sets, and what it is set to.
structure Views {α : Type} (fields : List (Field Place Trouble σ)) (anchors : Node.Anchors)
    (key : String) (get : σ → α) (means : Node → α → Prop) : Prop where
  known : key ∈ fields.map Field.key
  acts : ∀ field ∈ fields, ∀ s value path put, field.read ⟨value, anchors, path⟩ = .ok put →
    if field.key = key then means value (get (put s)) else get (put s) = get s

-- What is seen is not given again, what is given is set, and what is not given is left.
theorem view_members {α : Type} {key : String} {get : σ → α} {means : Node → α → Prop}
    (views : Views fields place.anchors key get means)
    (h : members fields place seen entries s = .ok s') :
    (key ∈ seen → ∀ entry ∈ entries, ¬ IsText place.anchors entry.1 key) ∧
      (∀ entry ∈ entries, IsText place.anchors entry.1 key → means entry.2 (get s')) ∧
      ((∀ entry ∈ entries, ¬ IsText place.anchors entry.1 key) → get s' = get s) := by
  induction entries generalizing seen s with
  | nil =>
    cases h
    simp
  | cons entry rest ih =>
    obtain ⟨node, value⟩ := entry
    obtain ⟨name, isName, ⟨unknown, -, h⟩ | ⟨field, put, known, fresh, read, h⟩⟩ :=
      members_cons_eq_ok_iff.1 h
    · have other : ¬ IsText place.anchors node key := by
        intro isKey
        obtain ⟨field, mem, rfl⟩ := List.mem_map.1 views.known
        have different := List.find?_eq_none.1 unknown field mem
        simp [isName.unique isKey] at different
      obtain ⟨hseen, hset, hleft⟩ := ih h
      simp only [List.forall_mem_cons]
      exact ⟨fun mem => ⟨other, hseen mem⟩, ⟨fun isKey => absurd isKey other, hset⟩,
        fun unsaid => hleft unsaid.2⟩
    · have mem := List.mem_of_find?_eq_some known
      have hname : field.key = name := by simpa using List.find?_some known
      obtain ⟨hseen, hset, hleft⟩ := ih h
      simp only [List.forall_mem_cons]
      by_cases isKey : IsText place.anchors node key
      · obtain rfl := isName.unique isKey
        have unsaid := hseen (by simp)
        have given : means value (get s') := by
          rw [hleft unsaid]
          simpa [hname] using views.acts field mem s value _ put read
        exact ⟨fun again => absurd again fresh, ⟨fun _ => given, hset⟩,
          fun none => absurd isKey none.1⟩
      · have other : field.key ≠ key := by
          rintro rfl
          exact isKey (hname ▸ isName)
        refine ⟨fun again => ⟨isKey, hseen (by simp [again])⟩, ⟨fun h => absurd h isKey, hset⟩, ?_⟩
        intro unsaid
        have same := views.acts field mem s value _ put read
        rw [hleft unsaid.2]
        rwa [if_neg other] at same

theorem isWhole_of_member (known : ∀ anchor ∈ anchors, anchor.2.isWhole = true)
    (whole : node.isWhole = true) {name : String} (member : Member anchors node name value) :
    value.isWhole = true := by
  obtain ⟨entries, lists, entry, hentry, -, rfl⟩ := member
  cases lists with
  | mapping found => exact Node.entriesWhole_of_resolve known whole found entry hentry
  | blank => cases hentry

theorem isWhole_of_leads (known : ∀ anchor ∈ anchors, anchor.2.isWhole = true) {path : List String}
    {found : Node} (whole : node.isWhole = true) (leads : Leads anchors path node found) :
    found.isWhole = true := by
  induction path generalizing node with
  | nil =>
    cases leads
    exact whole
  | cons key path ih =>
    obtain ⟨value, member, leads⟩ := leads
    exact ih (isWhole_of_member known whole member) leads

-- A value that a member can have, wherever it stands.
def Reads (field : Field Place Trouble σ) (anchors : Node.Anchors) (value : Node) : Prop :=
  ∃ path put, field.read ⟨value, anchors, path⟩ = .ok put

-- Fields that can be told apart by their keys, and whose values can be read anywhere if they
-- can be read at all.
structure Regular (fields : List (Field Place Trouble σ)) (anchors : Node.Anchors) : Prop where
  distinct : (fields.map Field.key).Nodup
  anywhere : ∀ field ∈ fields, ∀ value path, value.isWhole = true →
    (Reads field anchors value ↔ ∃ put, field.read ⟨value, anchors, path⟩ = .ok put)

-- Members that can be read where some keys were seen before: each has a name, those that are
-- known are given once, and their values are what they should be.
structure Proper (fields : List (Field Place Trouble σ)) (seen : List String)
    (anchors : Node.Anchors) (entries : List (Node × Node)) : Prop where
  named : ∀ entry ∈ entries, ∃ name, IsText anchors entry.1 name
  fresh : ∀ field ∈ fields, field.key ∈ seen → ∀ entry ∈ entries, ¬ IsText anchors entry.1 field.key
  once : entries.Pairwise fun a b => ∀ key ∈ fields.map Field.key,
    IsText anchors a.1 key → ¬ IsText anchors b.1 key
  typed : ∀ field ∈ fields, ∀ entry ∈ entries,
    IsText anchors entry.1 field.key → Reads field anchors entry.2

section Proper

variable {field : Field Place Trouble σ} {name : String}

theorem proper_cons_unknown (isName : IsText anchors key name)
    (unknown : ∀ field ∈ fields, field.key ≠ name) :
    Proper fields seen anchors ((key, value) :: rest) ↔ Proper fields seen anchors rest := by
  have other : ∀ field ∈ fields, ¬ IsText anchors key field.key :=
    fun field mem isKey => unknown field mem (isKey.unique isName)
  constructor
  · intro h
    exact ⟨(List.forall_mem_cons.1 h.named).2,
      fun field mem again => (List.forall_mem_cons.1 (h.fresh field mem again)).2,
      (List.pairwise_cons.1 h.once).2,
      fun field mem => (List.forall_mem_cons.1 (h.typed field mem)).2⟩
  · intro h
    constructor
    · exact List.forall_mem_cons.2 ⟨⟨name, isName⟩, h.named⟩
    · exact fun field mem again => List.forall_mem_cons.2 ⟨other field mem, h.fresh field mem again⟩
    · refine List.pairwise_cons.2 ⟨fun _ _ => ?_, h.once⟩
      exact List.forall_mem_map.2 fun field mem isKey => absurd isKey (other field mem)
    · exact fun field mem => List.forall_mem_cons.2
        ⟨fun isKey => absurd isKey (other field mem), h.typed field mem⟩

theorem proper_cons_known (distinct : (fields.map Field.key).Nodup) (known : field ∈ fields)
    (isKey : IsText anchors key field.key) :
    Proper fields seen anchors ((key, value) :: rest) ↔
      field.key ∉ seen ∧ Reads field anchors value ∧
        Proper fields (field.key :: seen) anchors rest := by
  constructor
  · intro h
    obtain ⟨apart, once⟩ := List.pairwise_cons.1 h.once
    refine ⟨fun again => ?_, (List.forall_mem_cons.1 (h.typed field known)).1 isKey, ?_⟩
    · exact (List.forall_mem_cons.1 (h.fresh field known again)).1 isKey
    · refine ⟨(List.forall_mem_cons.1 h.named).2, fun other mem again => ?_, once,
        fun other mem => (List.forall_mem_cons.1 (h.typed other mem)).2⟩
      obtain same | again := List.mem_cons.1 again
      · intro entry hentry
        exact same ▸ apart entry hentry field.key (List.mem_map_of_mem known) isKey
      · exact (List.forall_mem_cons.1 (h.fresh other mem again)).2
  · rintro ⟨unseen, reads, h⟩
    constructor
    · exact List.forall_mem_cons.2 ⟨⟨_, isKey⟩, h.named⟩
    · intro other mem again
      refine List.forall_mem_cons.2 ⟨fun isOther => ?_, h.fresh other mem (by simp [again])⟩
      exact unseen (isKey.unique isOther ▸ again)
    · refine List.pairwise_cons.2 ⟨fun entry hentry => ?_, h.once⟩
      refine List.forall_mem_map.2 fun other mem isOther => ?_
      exact h.fresh other mem (by simp [isOther.unique isKey]) entry hentry
    · refine fun other mem => List.forall_mem_cons.2 ⟨fun isOther => ?_, h.typed other mem⟩
      rwa [List.inj_on_of_nodup_map distinct mem known (isOther.unique isKey)]

end Proper

-- Proper members can be read, and no others.
theorem members_isOk_iff (regular : Regular fields place.anchors)
    (whole : ∀ entry ∈ entries, entry.2.isWhole = true) :
    (∃ s', members fields place seen entries s = .ok s') ↔
      Proper fields seen place.anchors entries := by
  induction entries generalizing seen s with
  | nil =>
    have none : Proper fields seen place.anchors [] := ⟨by simp, by simp, .nil, by simp⟩
    simp [members, none]
  | cons entry rest ih =>
    obtain ⟨key, value⟩ := entry
    obtain ⟨wholeValue, wholeRest⟩ := List.forall_mem_cons.1 whole
    constructor
    · rintro ⟨s', h⟩
      obtain ⟨name, isName, ⟨unknown, -, h⟩ | ⟨field, put, known, unseen, read, h⟩⟩ :=
        members_cons_eq_ok_iff.1 h
      · have unknown : ∀ field ∈ fields, field.key ≠ name := by simpa using unknown
        exact (proper_cons_unknown isName unknown).2 ((ih wholeRest).1 ⟨s', h⟩)
      · have mem := List.mem_of_find?_eq_some known
        obtain rfl : field.key = name := by simpa using List.find?_some known
        exact (proper_cons_known regular.distinct mem isName).2
          ⟨unseen, ⟨_, put, read⟩, (ih wholeRest).1 ⟨s', h⟩⟩
    · intro h
      obtain ⟨name, isName⟩ := h.named _ List.mem_cons_self
      cases found : fields.find? (fun field => field.key = name) with
      | none =>
        have unknown : ∀ field ∈ fields, field.key ≠ name := by simpa using found
        obtain ⟨s', h⟩ := (ih (s := s) wholeRest).2 ((proper_cons_unknown isName unknown).1 h)
        exact ⟨s', members_cons_eq_ok_iff.2 ⟨name, isName, .inl ⟨found, wholeValue, h⟩⟩⟩
      | some field =>
        have mem := List.mem_of_find?_eq_some found
        obtain rfl : field.key = name := by simpa using List.find?_some found
        obtain ⟨unseen, reads, h⟩ := (proper_cons_known regular.distinct mem isName).1 h
        obtain ⟨put, read⟩ :=
          (regular.anywhere field mem value (memberPath place.path key) wholeValue).1 reads
        obtain ⟨s', h⟩ := (ih (s := put s) wholeRest).2 h
        exact ⟨s', members_cons_eq_ok_iff.2
          ⟨_, isName, .inr ⟨field, put, found, unseen, read, h⟩⟩⟩

theorem placed_eq_ok_iff {α : Type} {read : Node → Except Trouble α} {a : α} :
    placed read place = .ok a ↔ read (place.node.resolve place.anchors) = .ok a := by
  unfold placed
  cases h : read (place.node.resolve place.anchors) <;> simp [Except.mapError]

theorem readSection_eq_ok_iff {name : String} :
    readSection name fields s place = .ok s' ↔
      ∃ entries, Lists place.anchors place.node entries ∧
        members fields place [] entries s = .ok s' := by
  rw [readSection, placed_eq_ok_iff]
  constructor
  · intro h
    split at h
    case h_1 tag entries found => exact ⟨entries, .mapping found, h⟩
    case h_2 tag found => exact ⟨[], .blank found, h⟩
    case h_3 => cases h
  · rintro ⟨entries, lists, h⟩
    cases lists with
    | mapping found => simpa [found] using h
    | blank found => simpa [found, members] using h

-- A section can be read if its members are what they should be.
theorem readSection_isOk_iff {name : String} (regular : Regular fields place.anchors)
    (known : ∀ anchor ∈ place.anchors, anchor.2.isWhole = true)
    (whole : place.node.isWhole = true) :
    (∃ s', readSection name fields s place = .ok s') ↔
      IsSection place.anchors (fields.map Field.key) place.node ∧
        ∀ field ∈ fields, ∀ value,
          Member place.anchors place.node field.key value → Reads field place.anchors value := by
  simp only [readSection_eq_ok_iff]
  have isOk {entries : List (Node × Node)} (lists : Lists place.anchors place.node entries) :
      (∃ s', members fields place [] entries s = .ok s') ↔
        Proper fields [] place.anchors entries := by
    refine members_isOk_iff regular ?_
    cases lists with
    | mapping found => exact Node.entriesWhole_of_resolve known whole found
    | blank => simp
  constructor
  · rintro ⟨s', entries, lists, h⟩
    have proper := (isOk lists).1 ⟨s', h⟩
    refine ⟨⟨entries, lists, proper.named, proper.once⟩, ?_⟩
    rintro field mem value ⟨entries', lists', entry, hentry, isKey, rfl⟩
    obtain rfl := lists.unique lists'
    exact proper.typed field mem entry hentry isKey
  · rintro ⟨⟨entries, lists, named, once⟩, typed⟩
    have proper : Proper fields [] place.anchors entries :=
      { named, once
        fresh := by simp
        typed := fun field mem entry hentry isKey =>
          typed field mem _ ⟨entries, lists, entry, hentry, isKey, rfl⟩ }
    obtain ⟨s', h⟩ := (isOk lists).2 proper
    exact ⟨s', entries, lists, h⟩

-- The values of a member can be read exactly if they are what the reader asks for.
theorem reads_members_iff {α : Type} {read : Place → Except Trouble α} {typed : Node → Prop}
    (known : ∀ anchor ∈ anchors, anchor.2.isWhole = true) (whole : node.isWhole = true)
    (spec : ∀ value path, value.isWhole = true →
      ((∃ a, read ⟨value, anchors, path⟩ = .ok a) ↔ typed value)) (key : String) :
    (∀ value, Member anchors node key value → ∃ path a, read ⟨value, anchors, path⟩ = .ok a) ↔
      ∀ value, Member anchors node key value → typed value := by
  refine forall₂_congr fun value member => ?_
  have wholeValue := isWhole_of_member known whole member
  constructor
  · rintro ⟨path, h⟩
    exact (spec value path wholeValue).1 h
  · intro h
    exact ⟨[], (spec value [] wholeValue).2 h⟩

-- What a section gives is set, and the rest is as in its default if that is what a section has
-- of which nothing is written.
theorem filled_readSection {α : Type} {name key : String} {default : σ} (get : σ → α)
    (means : Node → α → Prop) (views : Views fields place.anchors key get means)
    (agree : s = default) (h : readSection name fields s place = .ok s') :
    Filled place.anchors [key] place.node means (get default) (get s') := by
  obtain ⟨entries, lists, h⟩ := readSection_eq_ok_iff.1 h
  obtain ⟨-, given, left⟩ := view_members views h
  constructor
  · intro value leads
    obtain ⟨entries', lists', entry, hentry, isKey, rfl⟩ := leads_singleton.1 leads
    obtain rfl := lists.unique lists'
    exact given entry hentry isKey
  · intro none
    rw [← agree]
    refine left fun entry hentry isKey => none entry.2 (leads_singleton.2 ?_)
    exact ⟨entries, lists, entry, hentry, isKey, rfl⟩

end OfYaml

end RoutingProcessor.Config
