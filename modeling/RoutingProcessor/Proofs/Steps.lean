import Mathlib.Data.List.Destutter
import Mathlib.Logic.Relation

namespace RoutingProcessor

-- What every step keeps is kept by any number of steps.
theorem kept_later {State : Type} {Step : State → State → Prop} {P : State → Prop}
    (kept_step : ∀ {s t}, P s → Step s t → P t) {s t : State} (kept : P s)
    (later : Relation.ReflTransGen Step s t) : P t := by
  induction later with
  | refl => exact kept
  | tail _ step ih => exact kept_step ih step

section Destutter

variable {α : Type} [DecidableEq α]

theorem destutter'_concat (first next : α) (passed : List α) :
    (passed ++ [next]).destutter' (· ≠ ·) first =
      if (first :: passed).getLast (by simp) = next then passed.destutter' (· ≠ ·) first
      else passed.destutter' (· ≠ ·) first ++ [next] := by
  induction passed generalizing first with
  | nil => by_cases same : first = next <;> simp [same]
  | cons second passed ih =>
    by_cases same : first = second
    · subst same
      have again : ¬first ≠ first := by simp
      rw [List.cons_append, List.destutter'_cons_neg _ again, List.destutter'_cons_neg _ again, ih,
        List.getLast_cons_cons]
    · rw [List.cons_append, List.destutter'_cons_pos _ same, List.destutter'_cons_pos _ same, ih,
        List.getLast_cons_cons]
      split <;> rfl

-- One more is added to what a run has passed through if the last of it was another.
theorem destutter_concat {passed : List α} {last next : α} (ends : passed.getLast? = some last) :
    (passed ++ [next]).destutter (· ≠ ·) =
      if last = next then passed.destutter (· ≠ ·) else passed.destutter (· ≠ ·) ++ [next] := by
  cases passed with
  | nil => cases ends
  | cons first passed =>
    have last_eq : (first :: passed).getLast (by simp) = last := by
      simpa [List.getLast?_eq_some_getLast] using ends
    rw [List.cons_append, List.destutter_cons', List.destutter_cons', destutter'_concat, last_eq]

end Destutter

end RoutingProcessor
