import Mathlib.Data.List.Induction
import RoutingProcessor.Backend.Table
import RoutingProcessor.Proofs.Text.Order

namespace RoutingProcessor.Backend

open Text

variable {pairs : List (String × String)} {name value key : String}

-- The last value that pairs give to a name.
def LastValue (pairs : List (String × String)) (name value : String) : Prop :=
  ∃ before after, pairs = before ++ (name, value) :: after ∧ ∀ pair ∈ after, pair.1 ≠ name

theorem lookup_cons (pair : String × String) (rest : List (String × String)) :
    (pair :: rest).lookup key = if key = pair.1 then some pair.2 else rest.lookup key := by
  obtain ⟨name, value⟩ := pair
  by_cases h : key = name
  · subst h
    simp
  · have hbeq : (key == name) = false := beq_false_of_ne h
    simp only [List.lookup_cons, hbeq, h, if_false]

theorem lastValue_concat (pair : String × String) :
    LastValue (pairs ++ [pair]) name value ↔
      if name = pair.1 then value = pair.2 else LastValue pairs name value := by
  constructor
  · rintro ⟨before, after, hsplit, hafter⟩
    induction after using List.reverseRecOn with
    | nil =>
      obtain ⟨-, hpair⟩ := List.append_inj' hsplit rfl
      cases hpair
      simp
    | append_singleton after last ih =>
      rw [← List.cons_append, ← List.append_assoc] at hsplit
      obtain ⟨hfront, hlast⟩ := List.append_inj' hsplit rfl
      cases hlast
      rw [if_neg (hafter pair (by simp)).symm]
      exact ⟨before, after, hfront, fun other h => hafter other (List.mem_append_left _ h)⟩
  · split
    case isTrue h =>
      rintro rfl
      exact ⟨pairs, [], by rw [h], by simp⟩
    case isFalse h =>
      rintro ⟨before, after, rfl, hafter⟩
      refine ⟨before, after ++ [pair], by simp, fun other hother => ?_⟩
      rcases List.mem_append.1 hother with hother | hother
      · exact hafter other hother
      · rw [List.mem_singleton.1 hother]
        exact Ne.symm h

theorem LastValue.mem (h : LastValue pairs name value) : (name, value) ∈ pairs := by
  obtain ⟨before, after, rfl, -⟩ := h
  simp

theorem LastValue.cons {pair : String × String} (h : LastValue pairs name value) :
    LastValue (pair :: pairs) name value := by
  obtain ⟨before, after, rfl, hafter⟩ := h
  exact ⟨pair :: before, after, rfl, hafter⟩

theorem lastValue_filter {p : String → Bool} :
    LastValue (pairs.filter fun pair => p pair.1) name value ↔
      p name = true ∧ LastValue pairs name value := by
  induction pairs using List.reverseRecOn with
  | nil => simp [LastValue]
  | append_singleton pairs pair ih =>
    rw [List.filter_append, lastValue_concat]
    by_cases hpair : p pair.1 = true
    · have kept : ([pair].filter fun pair => p pair.1) = [pair] := by simp [hpair]
      rw [kept, lastValue_concat]
      by_cases hname : name = pair.1
      · rw [if_pos hname, if_pos hname, hname]
        exact ⟨fun h => ⟨hpair, h⟩, And.right⟩
      · rw [if_neg hname, if_neg hname, ih]
    · have left : ([pair].filter fun pair => p pair.1) = [] := by simp [hpair]
      rw [left, List.append_nil, ih]
      refine and_congr_right fun hname => ?_
      rw [if_neg]
      rintro rfl
      exact hpair hname

theorem exists_lastValue {pair : String × String} (h : pair ∈ pairs) :
    ∃ value, LastValue pairs pair.1 value := by
  induction pairs using List.reverseRecOn with
  | nil => cases h
  | append_singleton pairs last ih =>
    simp only [lastValue_concat]
    by_cases hlast : pair.1 = last.1
    · exact ⟨last.2, by rw [if_pos hlast]⟩
    · have hne : pair ≠ last := fun heq => hlast (congrArg Prod.fst heq)
      have hmem : pair ∈ pairs := by simpa [hne] using h
      simpa only [if_neg hlast] using ih hmem

-- Where a name never changes its value, its last value is the only one.
theorem lastValue_iff_mem
    (steady : ∀ value ∈ pairs, ∀ other ∈ pairs, value.1 = other.1 → value.2 = other.2) :
    LastValue pairs name value ↔ (name, value) ∈ pairs := by
  constructor
  · exact LastValue.mem
  · intro h
    obtain ⟨last, hlast⟩ := exists_lastValue h
    have hvalue : value = last := steady _ h _ hlast.mem rfl
    rwa [hvalue]

namespace Table

variable {t : Table}

-- Each name once, in the order of the octets.
def Sorted (t : Table) : Prop := t.Pairwise fun a b => octets a.1 < octets b.1

theorem lookup_insert (t : Table) (name value key : String) :
    (t.insert name value).lookup key = if key = name then some value else t.lookup key := by
  induction t with
  | nil => rw [insert, lookup_cons]
  | cons pair rest ih =>
    obtain ⟨other, kept⟩ := pair
    rw [insert]
    split
    · rw [lookup_cons]
    split
    case isTrue h =>
      subst h
      rw [lookup_cons, lookup_cons]
      split <;> rfl
    case isFalse h =>
      rw [lookup_cons, lookup_cons, ih]
      by_cases hkey : key = other
      · have hne : key ≠ name := fun h' => h (h'.symm.trans hkey)
        rw [if_pos hkey, if_pos hkey, if_neg hne]
      · rw [if_neg hkey, if_neg hkey]

theorem mem_insert {pair : String × String} (h : pair ∈ t.insert name value) :
    pair = (name, value) ∨ pair ∈ t := by
  fun_induction insert name value t with
  | case1 => exact .inl (List.mem_singleton.1 h)
  | case2 => exact List.mem_cons.1 h
  | case3 =>
    rcases List.mem_cons.1 h with h | h
    · exact .inl h
    · exact .inr (List.mem_cons_of_mem _ h)
  | case4 other kept rest _ _ ih =>
    rcases List.mem_cons.1 h with h | h
    · exact .inr (List.mem_cons.2 (.inl h))
    · exact (ih h).imp_right (List.mem_cons_of_mem _)

theorem sorted_insert (h : t.Sorted) : (t.insert name value).Sorted := by
  fun_induction insert name value t with
  | case1 => exact List.pairwise_singleton _ _
  | case2 other kept rest hless =>
    refine List.pairwise_cons.2 ⟨fun pair hpair => ?_, h⟩
    have hname := octets_lt_octets hless
    rcases List.mem_cons.1 hpair with rfl | hpair
    · exact hname
    · exact List.lt_trans hname ((List.pairwise_cons.1 h).1 pair hpair)
  | case3 kept rest =>
    obtain ⟨hhead, hrest⟩ := List.pairwise_cons.1 h
    exact List.pairwise_cons.2 ⟨hhead, hrest⟩
  | case4 other kept rest hless hne ih =>
    obtain ⟨hhead, hrest⟩ := List.pairwise_cons.1 h
    refine List.pairwise_cons.2 ⟨fun pair hpair => ?_, ih hrest⟩
    rcases mem_insert hpair with rfl | hpair
    · apply octets_lt_octets
      by_contra hmore
      exact hne (String.le_antisymm (String.not_lt.1 hmore) (String.not_lt.1 hless))
    · exact hhead pair hpair

-- In a table each name has one value.
theorem mem_iff_lookup (h : t.Sorted) : (name, value) ∈ t ↔ t.lookup name = some value := by
  induction t with
  | nil => simp
  | cons pair rest ih =>
    obtain ⟨hhead, hrest⟩ := List.pairwise_cons.1 h
    rw [lookup_cons, List.mem_cons]
    by_cases hname : name = pair.1
    · have absent : (name, value) ∉ rest := by
        intro hmem
        have hless := hhead _ hmem
        rw [hname] at hless
        exact List.lt_irrefl _ hless
      rw [if_pos hname, Option.some.injEq]
      constructor
      · rintro (h | h)
        · rw [← h]
        · exact absurd h absent
      · rintro rfl
        exact .inl (Prod.ext hname rfl)
    · rw [if_neg hname, ← ih hrest]
      constructor
      · rintro (h | h)
        · exact absurd (congrArg Prod.fst h) hname
        · exact h
      · exact .inr

theorem ofList_concat (pairs : List (String × String)) (pair : String × String) :
    ofList (pairs ++ [pair]) = (ofList pairs).insert pair.1 pair.2 := by
  rw [ofList, List.foldl_append]
  rfl

theorem sorted_ofList (pairs : List (String × String)) : (ofList pairs).Sorted := by
  induction pairs using List.reverseRecOn with
  | nil => exact List.Pairwise.nil
  | append_singleton pairs pair ih =>
    rw [ofList_concat]
    exact sorted_insert ih

theorem lookup_ofList : (ofList pairs).lookup name = some value ↔ LastValue pairs name value := by
  induction pairs using List.reverseRecOn with
  | nil => simp [ofList, LastValue]
  | append_singleton pairs pair ih =>
    rw [ofList_concat, lookup_insert, lastValue_concat, ← ih]
    split
    · rw [Option.some.injEq, eq_comm]
    · rfl

-- A table made of pairs has the last value of each name.
theorem mem_ofList : (name, value) ∈ ofList pairs ↔ LastValue pairs name value :=
  (mem_iff_lookup (sorted_ofList pairs)).trans lookup_ofList

end Table

end RoutingProcessor.Backend
