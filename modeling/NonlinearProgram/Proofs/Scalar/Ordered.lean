import NonlinearProgram.Proofs.Scalar.Lawful

/-!
# Ordered scalars

What comparing distances relies on: the order is transitive and ends with infinity, different
numbers have a difference that is not zero, and positive numbers that are at most each other are the
same.
The machine rounds differences, but none of them to zero. A distance is zero or positive; of some
distances the largest is told by the bounds it keeps.
-/

namespace NonlinearProgram

open Scalar

/-- A lawful scalar type with an order in which differences can be told from zero. -/
class OrderedScalar (α : Type) [Scalar α] : Prop extends LawfulScalar α where
  atMost_of_less : ∀ {a b : α}, less a b = true → atMost a b = true
  atMost_trans : ∀ {a b c : α}, atMost a b = true → atMost b c = true → atMost a c = true
  atMost_infinity : ∀ {a : α}, isNaN a = false → atMost a infinity = true
  zero_less_infinity : less (0.0 : α) infinity = true
  eq_of_atMost : ∀ {a b : α}, less 0.0 a = true → atMost a b = true → atMost b a = true → a = b
  zero_less_sub : ∀ {a b : α}, less a b = true → less 0.0 (b - a) = true

namespace Scalar

open LawfulScalar OrderedScalar

variable {α : Type} [Scalar α] [OrderedScalar α] {a b t : α}

def IsDistance (a : α) : Prop := a = 0.0 ∨ less 0.0 a = true

theorem atMost_refl (h : isNaN a = false) : atMost a a = true := by
  cases hless : less a a with
  | true => exact atMost_of_less hless
  | false => rw [atMost_eq_not_less h h, hless, Bool.not_false]

theorem less_asymm (h : less a b = true) : less b a = false := by
  obtain ⟨ha, hb⟩ := isNaN_of_less h
  rw [← Bool.not_eq_true', ← atMost_eq_not_less ha hb]
  exact atMost_of_less h

namespace IsDistance

theorem infinity : IsDistance (Scalar.infinity : α) := .inr zero_less_infinity

theorem zero_atMost (h : IsDistance a) : atMost 0.0 a = true := by
  rcases h with rfl | h
  · exact atMost_refl isNaN_zero
  · exact atMost_of_less h

theorem ne_zero_of_less (h : less 0.0 a = true) : a ≠ 0.0 := by
  rintro rfl
  exact Bool.false_ne_true ((less_asymm h).symm.trans h)

theorem isNaN_eq_false (h : IsDistance a) : isNaN a = false := (isNaN_of_atMost h.zero_atMost).2

theorem atMost_zero_iff (h : IsDistance a) : atMost a 0.0 = true ↔ a = 0.0 := by
  constructor
  · intro hzero
    rcases h with h | h
    · exact h
    · rw [atMost_eq_not_less (isNaN_of_less h).2 isNaN_zero, h] at hzero
      cases hzero
  · rintro rfl
    exact atMost_refl isNaN_zero

theorem eq_of_atMost (ha : IsDistance a) (hb : IsDistance b) (hab : atMost a b = true)
    (hba : atMost b a = true) : a = b := by
  rcases ha with rfl | ha
  · exact (hb.atMost_zero_iff.1 hba).symm
  · exact OrderedScalar.eq_of_atMost ha hab hba

theorem eq_of_bounds (ha : IsDistance a) (hb : IsDistance b)
    (h : ∀ t, atMost 0.0 t = true → (atMost a t = true ↔ atMost b t = true)) : a = b := by
  refine ha.eq_of_atMost hb ?_ ?_
  · exact (h b hb.zero_atMost).2 (atMost_refl hb.isNaN_eq_false)
  · exact (h a ha.zero_atMost).1 (atMost_refl ha.isNaN_eq_false)

theorem eq_infinity (ha : IsDistance a) (h : atMost Scalar.infinity a = true) :
    a = Scalar.infinity :=
  ha.eq_of_atMost infinity (atMost_infinity ha.isNaN_eq_false) h

end IsDistance

theorem larger_atMost_iff (ha : isNaN a = false) (hb : isNaN b = false) :
    atMost (larger a b) t = true ↔ atMost a t = true ∧ atMost b t = true := by
  unfold larger
  by_cases h : less a b = true
  · rw [if_pos h]
    exact ⟨fun hbt => ⟨atMost_trans (atMost_of_less h) hbt, hbt⟩, And.right⟩
  · have hba : atMost b a = true := by
      rw [atMost_eq_not_less hb ha, Bool.eq_false_iff.2 h, Bool.not_false]
    rw [if_neg h]
    exact ⟨fun hat => ⟨hat, atMost_trans hba hat⟩, And.left⟩

end Scalar

end NonlinearProgram
