import Mathlib.Data.List.Infix
import RoutingProcessor.Files.Directory

namespace RoutingProcessor.Files.Directory

-- What is left once all that some names lead to is removed. What held them stays.
def without (d : Directory) (names : List String) : Directory :=
  ⟨d.entries.filter (!names.isPrefixOf ·.1) ++ [(names.dropLast, .directory)]⟩

variable {d e : Directory} {names here rest : List String} {path : String}

theorem lookup_filter_key (entries : List (List String × Entry)) (keeps : List String → Bool)
    (names : List String) :
    (entries.filter fun e => keeps e.1).lookup names =
      if keeps names then entries.lookup names else none := by
  induction entries with
  | nil => simp
  | cons e rest ih =>
    obtain ⟨key, entry⟩ := e
    cases same : names == key with
    | true =>
      cases eq_of_beq same
      cases kept : keeps names <;> simp [kept, ih]
    | false => cases kept : keeps key <;> simp [kept, List.lookup_cons, same, ih]

theorem lookup_without (d : Directory) (names here : List String) :
    (d.without names).entries.lookup here =
      (if names <+: here then none else d.entries.lookup here).or
        (if here = names.dropLast then some .directory else none) := by
  have filtered := lookup_filter_key d.entries (!names.isPrefixOf ·) here
  have added : [(names.dropLast, Entry.directory)].lookup here =
      if here = names.dropLast then some .directory else none := by
    by_cases same : here = names.dropLast
    · simp [same]
    · simp [same, List.lookup_cons, beq_false_of_ne same]
  by_cases beneath : names <+: here
  · have removed : names.isPrefixOf here = true := List.isPrefixOf_iff_prefix.2 beneath
    simp [without, List.lookup_append, filtered, added, beneath, removed]
  · have kept : names.isPrefixOf here = false := by
      rw [← Bool.not_eq_true, List.isPrefixOf_iff_prefix]
      exact beneath
    simp [without, List.lookup_append, filtered, added, beneath, kept]

theorem any_prefix_without (d : Directory) (names here : List String) :
    ((d.without names).entries.any fun e => here.isPrefixOf e.1) ↔
      (∃ e ∈ d.entries, ¬names <+: e.1 ∧ here <+: e.1) ∨ here <+: names.dropLast := by
  simp only [without, List.any_append, List.any_filter, Bool.or_eq_true, List.any_eq_true,
    Bool.and_eq_true, Bool.not_eq_true', ← Bool.not_eq_true, List.isPrefixOf_iff_prefix,
    List.mem_singleton, exists_eq_left]

theorem not_prefix_dropLast (nonempty : names ≠ []) : ¬names <+: names.dropLast := by
  intro beneath
  have length := beneath.length_le
  have positive := List.length_pos_iff.2 nonempty
  simp only [List.length_dropLast] at length
  omega

theorem prefix_dropLast (above : here <+: names) (apart : ¬names <+: here) :
    here <+: names.dropLast := by
  obtain ⟨tail, rfl⟩ := above
  have nonempty : tail ≠ [] := by
    rintro rfl
    simp at apart
  exact List.dropLast_append_of_ne_nil nonempty ▸ List.prefix_append here tail.dropLast

theorem entry?_without (nonempty : names ≠ []) : entry? (d.without names) names = none := by
  have shorter := not_prefix_dropLast nonempty
  have other : names ≠ names.dropLast := fun same => shorter (same ▸ List.prefix_refl _)
  have empty : ¬((d.without names).entries.any fun e => names.isPrefixOf e.1) := by
    rw [any_prefix_without]
    simp [shorter]
  simp only [ entry?, lookup_without, List.prefix_refl, other, empty]
  simp [nonempty]

-- A directory above or beside the removed names stays one, also if nothing is left in it.
theorem directory_without (apart : ¬names <+: here) (dir : d.entry? here = some .directory) :
    entry? (d.without names) here = some .directory := by
  unfold entry? at dir ⊢
  split at dir
  case isTrue top => simp [top]
  case isFalse nested =>
    simp only [nested, lookup_without, apart]
    cases found : d.entries.lookup here with
    | some entry => simpa [found] using dir
    | none =>
      simp only [found] at dir
      split at dir
      case isFalse => cases dir
      case isTrue holds =>
        obtain ⟨e, mem, above⟩ := List.any_eq_true.1 holds
        rw [List.isPrefixOf_iff_prefix] at above
        have still : (d.without names).entries.any fun e => here.isPrefixOf e.1 := by
          rw [any_prefix_without]
          by_cases beneath : names <+: e.1
          · -- What was beneath the names is gone, but not the place that held them.
            have ordered := List.prefix_or_prefix_of_prefix above beneath
            exact .inr (prefix_dropLast (ordered.resolve_right apart) apart)
          · exact .inl ⟨e, mem, beneath, above⟩
        by_cases held : here = names.dropLast
        · simp [held]
        · simp [held, still]

theorem walk_of_file {entry : Entry} (file : d.entry? names = some entry)
    (nested : entry ≠ .directory) (way : d.walk names rest = .ok here) : rest = [] := by
  cases rest with
  | nil => rfl
  | cons name rest =>
    simp only [walk, file] at way
    cases way

-- The way to a file leads through directories, and ends there.
theorem walk_without {entry : Entry} (apart : ¬names <+: here)
    (file : d.entry? names = some entry) (nested : entry ≠ .directory)
    (way : d.walk here rest = .ok names) : (d.without names).walk here rest = .ok names := by
  fun_induction walk d here rest with
  | case1 here => simpa [walk] using way
  | case2 | case3 | case7 => cases way
  | case4 here name rest dir short skipped ih =>
    rw [walk, directory_without apart dir]
    simpa [short, skipped] using ih apart way
  | case5 here rest dir short skipped ih =>
    have higher : ¬names <+: here.dropLast := fun h => apart (h.trans (List.dropLast_prefix here))
    rw [walk, directory_without apart dir]
    simpa [short, skipped] using ih higher way
  | case6 here name rest dir short skipped up ih =>
    rw [walk, directory_without apart dir]
    simp only [short, skipped, up]
    by_cases reached : names <+: here ++ [name]
    · cases (List.prefix_concat_iff.1 reached).resolve_right apart
      cases walk_of_file file nested way
      simp [walk]
    · simpa using ih reached way

-- The working directory itself is no file.
theorem ne_nil_of_file {entry : Entry} (file : d.entry? names = some entry)
    (nested : entry ≠ .directory) : names ≠ [] := by
  rintro rfl
  simp only [ entry?, List.isEmpty_nil, if_true, Option.some.injEq] at file
  exact nested file.symm

theorem place_without {entry : Entry} (file : d.entry? names = some entry)
    (nested : entry ≠ .directory) (placed : d.place path = .ok names) :
    (d.without names).place path = .ok names := by
  have below : ¬names <+: [] := by simpa using ne_nil_of_file file nested
  unfold place at placed ⊢
  split at placed
  case isTrue => cases placed
  case isFalse short =>
    split at placed
    case isTrue => cases placed
    case isFalse known =>
      rw [if_neg short, if_neg known]
      exact walk_without below file nested placed

theorem exists_of_remove_ok (removed : d.remove path = .ok e) :
    ∃ names entry, d.place path = .ok names ∧ d.entry? names = some entry ∧
      entry ≠ .directory ∧ e = d.without names := by
  unfold remove at removed
  cases placed : d.place path with
  | error code => simp [placed, bind, Except.bind] at removed
  | ok names =>
    simp only [placed, bind, Except.bind] at removed
    split at removed
    · cases removed
    · cases removed
    · next entry nested file =>
      cases removed
      exact ⟨names, entry, rfl, file, nested, rfl⟩

-- A path that was removed leads nowhere any more.
theorem find_of_remove_ok (removed : d.remove path = .ok e) : e.find path = .error notFound := by
  obtain ⟨names, entry, placed, file, nested, rfl⟩ := exists_of_remove_ok removed
  have still := place_without file nested placed
  have gone : entry? (d.without names) names = none := entry?_without (ne_nil_of_file file nested)
  simp only [find, still, bind, Except.bind, gone]
  rfl

-- Nor does one at which there was nothing to remove.
theorem find_of_remove_notFound (absent : d.remove path = .error notFound) :
    d.find path = .error notFound := by
  unfold remove at absent
  unfold find
  cases placed : d.place path with
  | error code => simpa [placed, bind, Except.bind] using absent
  | ok names =>
    simp only [placed, bind, Except.bind] at absent ⊢
    split at absent
    · next none => rw [none]; rfl
    · cases absent
    · cases absent

end RoutingProcessor.Files.Directory
