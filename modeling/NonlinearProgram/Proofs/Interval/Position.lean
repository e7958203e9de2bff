import NonlinearProgram.Proofs.Interval
import NonlinearProgram.Proofs.Scalar.Ordered

/-!
# Below, above or inside

A number lies below an interval, above it, or inside. How far it is outside is told by comparisons
with the ends, the closest point of the interval by a larger and a smaller one of two numbers; where
the number lies tells both. So a distance is never not a number, it is zero where the interval
encloses the value and more outside, and the closest point lies in the interval.
-/

namespace NonlinearProgram.Interval

open Scalar LawfulScalar OrderedScalar

def Encloses {α : Type} [Scalar α] (i : Interval α) (value : α) : Prop :=
  atMost i.lower value = true ∧ atMost value i.upper = true

variable {α : Type} [Scalar α]

/-- Where a number lies, with its distance and its projection: below the lower end, above the upper
end, or inside. -/
inductive Position (i : Interval α) (v : α) : Prop
  | below (h : less v i.lower = true) (distance : i.distance v = i.lower - v)
      (project : i.project v = i.lower)
  | above (h : less i.upper v = true) (distance : i.distance v = v - i.upper)
      (project : i.project v = i.upper)
  | inside (h : i.Encloses v) (distance : i.distance v = 0.0) (project : i.project v = v)

theorem distance_of_isNaN (i : Interval α) {v : α} (hv : isNaN v = true) :
    i.distance v = infinity := by
  unfold distance
  rw [if_pos hv]

section Lawful

variable [LawfulScalar α] (i : Interval α) {v : α}

theorem encloses_iff (hv : isNaN v = false) :
    i.Encloses v ↔ less v i.lower = false ∧ less i.upper v = false := by
  unfold Encloses
  rw [atMost_eq_not_less i.isNaN_lower hv, atMost_eq_not_less hv i.isNaN_upper, Bool.not_eq_true',
    Bool.not_eq_true']

theorem less_upper_lower : less i.upper i.lower = false := by
  rw [← Bool.not_eq_true', ← atMost_eq_not_less i.isNaN_lower i.isNaN_upper]
  exact i.ordered

theorem project_eq_ite (v : α) :
    i.project v = if less v i.lower then i.lower else if less i.upper v then i.upper else v := by
  unfold project larger smaller
  by_cases hbelow : less v i.lower = true
  · rw [if_pos hbelow, if_pos hbelow, i.less_upper_lower, if_neg Bool.false_ne_true]
  · rw [if_neg hbelow, if_neg hbelow]

theorem position (hv : isNaN v = false) : i.Position v := by
  have hdistance : i.distance v = if less v i.lower then i.lower - v
      else if less i.upper v then v - i.upper else 0.0 := by
    unfold distance
    rw [hv, if_neg Bool.false_ne_true]
  have hproject := i.project_eq_ite v
  by_cases hbelow : less v i.lower = true
  · rw [if_pos hbelow] at hdistance hproject
    exact .below hbelow hdistance hproject
  · rw [if_neg hbelow] at hdistance hproject
    by_cases habove : less i.upper v = true
    · rw [if_pos habove] at hdistance hproject
      exact .above habove hdistance hproject
    · rw [if_neg habove] at hdistance hproject
      have hinside : i.Encloses v :=
        (i.encloses_iff hv).2 ⟨Bool.eq_false_iff.2 hbelow, Bool.eq_false_iff.2 habove⟩
      exact .inside hinside hdistance hproject

theorem project_eq_self (h : i.Encloses v) : i.project v = v := by
  obtain ⟨hbelow, habove⟩ := (i.encloses_iff (isNaN_of_atMost h.1).2).1 h
  rw [project_eq_ite, hbelow, habove, if_neg Bool.false_ne_true, if_neg Bool.false_ne_true]

end Lawful

section Ordered

variable [OrderedScalar α] (i : Interval α) {v : α}

theorem encloses_project (hv : isNaN v = false) : i.Encloses (i.project v) := by
  cases i.position hv with
  | below _ _ hproject =>
      rw [hproject]
      exact ⟨atMost_refl i.isNaN_lower, i.ordered⟩
  | above _ _ hproject =>
      rw [hproject]
      exact ⟨i.ordered, atMost_refl i.isNaN_upper⟩
  | inside hinside _ hproject =>
      rw [hproject]
      exact hinside

/-- Outside an interval there is a difference to one of its ends, and it is not rounded to zero. -/
theorem isDistance_distance (v : α) : IsDistance (i.distance v) := by
  cases hv : isNaN v with
  | true =>
      rw [i.distance_of_isNaN hv]
      exact .infinity
  | false =>
      cases i.position hv with
      | below hbelow hdistance _ =>
          rw [hdistance]
          exact .inr (zero_less_sub hbelow)
      | above habove hdistance _ =>
          rw [hdistance]
          exact .inr (zero_less_sub habove)
      | inside _ hdistance _ => exact .inl hdistance

theorem distance_eq_zero_iff : i.distance v = 0.0 ↔ i.Encloses v := by
  cases hv : isNaN v with
  | true =>
      rw [i.distance_of_isNaN hv]
      constructor
      · intro h
        exact absurd h (IsDistance.ne_zero_of_less zero_less_infinity)
      · intro h
        rw [(isNaN_of_atMost h.1).2] at hv
        cases hv
  | false =>
      cases i.position hv with
      | below hbelow hdistance _ =>
          rw [i.encloses_iff hv, hdistance, hbelow]
          exact ⟨fun h => absurd h (IsDistance.ne_zero_of_less (zero_less_sub hbelow)), nofun⟩
      | above habove hdistance _ =>
          rw [i.encloses_iff hv, hdistance, habove]
          exact ⟨fun h => absurd h (IsDistance.ne_zero_of_less (zero_less_sub habove)), nofun⟩
      | inside hinside hdistance _ => exact ⟨fun _ => hinside, fun _ => hdistance⟩

theorem contains_zero_iff : i.contains v 0.0 = true ↔ i.Encloses v :=
  (i.isDistance_distance v).atMost_zero_iff.trans i.distance_eq_zero_iff

end Ordered

end NonlinearProgram.Interval
