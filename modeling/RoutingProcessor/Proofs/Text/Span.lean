import Mathlib.Data.List.TakeWhile

namespace RoutingProcessor.Text

variable {α : Type} {p : α → Bool} {front back : List α}

-- A span ends where the class of its characters does.
theorem takeWhile_span (all : ∀ a ∈ front, p a = true) (stop : ∀ a ∈ back.head?, p a = false) :
    (front ++ back).takeWhile p = front := by
  rw [List.takeWhile_append_of_pos all]
  cases back with
  | nil => simp
  | cons a rest => simp [stop a rfl]

theorem dropWhile_span (all : ∀ a ∈ front, p a = true) (stop : ∀ a ∈ back.head?, p a = false) :
    (front ++ back).dropWhile p = back := by
  rw [List.dropWhile_append_of_pos all]
  cases back with
  | nil => rfl
  | cons a rest => simp [stop a rfl]

theorem stop_of_mark {mark : α} (begins : ∀ a ∈ back.head?, a = mark) (stops : p mark = false) :
    ∀ a ∈ back.head?, p a = false := by
  intro a ha
  rw [begins a ha, stops]

theorem head?_dropWhile (p : α → Bool) (cs : List α) :
    ∀ a ∈ (cs.dropWhile p).head?, p a = false := by
  intro a ha
  have h := List.head?_dropWhile_not p cs
  rwa [Option.mem_def.1 ha] at h

-- All of a class at the front, and what stops it.
theorem exists_span (p : α → Bool) (l : List α) :
    ∃ front back, l = front ++ back ∧ (∀ a ∈ front, p a = true) ∧ ∀ a ∈ back.head?, p a = false :=
  ⟨l.takeWhile p, l.dropWhile p, List.takeWhile_append_dropWhile.symm,
    fun _ => List.mem_takeWhile_imp, head?_dropWhile p l⟩

-- What stops a span is kept, with all that is behind it.
theorem dropWhile_append_cons {a : α} (stop : p a = false) (front back : List α) :
    (front ++ a :: back).dropWhile p = front.dropWhile p ++ a :: back := by
  induction front with
  | nil => simp [stop]
  | cons c front ih =>
    by_cases h : p c = true
    · simp [h, ih]
    · simp [h]

end RoutingProcessor.Text
