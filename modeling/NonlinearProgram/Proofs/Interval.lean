import NonlinearProgram.Interval
import NonlinearProgram.Proofs.Scalar.Lawful

/-!
# Intervals over lawful scalars

The ends of an interval are numbers, so the distance of any value from it is a number as well, and
a positive finite factor gives an interval again.
-/

namespace NonlinearProgram.Interval

open Scalar LawfulScalar

variable {α : Type} [Scalar α] [LawfulScalar α]

theorem isNaN_lower (i : Interval α) : isNaN i.lower = false := (isNaN_of_atMost i.ordered).1

theorem isNaN_upper (i : Interval α) : isNaN i.upper = false := (isNaN_of_atMost i.ordered).2

theorem isNaN_distance (i : Interval α) {value : α} (h : isFinite value = true) :
    isNaN (i.distance value) = false := by
  unfold distance
  rw [isNaN_of_isFinite h, if_neg Bool.false_ne_true]
  by_cases hbelow : less value i.lower = true
  · rw [if_pos hbelow]
    exact isNaN_sub_of_isFinite_right i.isNaN_lower h
  · rw [if_neg hbelow]
    by_cases habove : less i.upper value = true
    · rw [if_pos habove]
      exact isNaN_sub_of_isFinite_left h i.isNaN_upper
    · rw [if_neg habove]
      exact isNaN_zero

theorem between_ends (i : Interval α) : between i.lower i.upper = .ok i := by
  unfold between
  rw [i.isNaN_lower, i.isNaN_upper, Bool.or_false, if_neg Bool.false_ne_true, dif_pos i.ordered]

theorem scaled_eq_ok (i : Interval α) {s : α} (hs : isScale s = true) :
    ∃ b, i.scaled s = .ok b ∧ b.lower = i.lower * s ∧ b.upper = i.upper * s := by
  obtain ⟨hpos, hfin⟩ := Bool.and_eq_true_iff.1 hs
  let b : Interval α := ⟨i.lower * s, i.upper * s, mul_atMost_mul hpos hfin i.ordered⟩
  refine ⟨b, ?_, rfl, rfl⟩
  unfold scaled
  rw [if_pos hs]
  exact b.between_ends

theorem ends_of_scaled {α : Type} [Scalar α] {i b : Interval α} {s : α} (h : i.scaled s = .ok b) :
    b.lower = i.lower * s ∧ b.upper = i.upper * s := by
  unfold scaled between at h
  split at h
  · split at h
    · cases h
    · split at h
      · cases h
        exact ⟨rfl, rfl⟩
      · cases h
  · cases h

theorem eq_of_ends {α : Type} [Scalar α] {i j : Interval α} (hlower : i.lower = j.lower)
    (hupper : i.upper = j.upper) : i = j := by
  obtain ⟨lower, upper, ordered⟩ := i
  subst hlower hupper
  rfl

end NonlinearProgram.Interval
