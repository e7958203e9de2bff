import NonlinearProgram.Proofs.Interval.Position
import NonlinearProgram.Proofs.Problem.Invariant
import NonlinearProgram.Proofs.Scalar.Cancelling
import NonlinearProgram.Proofs.Scalar.Modulus
import NonlinearProgram.Proofs.Solver.Sparse

/-!
# Projections onto intervals

Over exact scalars the distance of a finite number from an interval is how far its projection is,
and nothing in the interval is closer. An infinity outside is infinitely far from everything inside,
so whether an interval contains a value with a tolerance is always told by what is in the interval.
A problem without a starting point starts where the origin is projected to, variable by variable.
-/

namespace NonlinearProgram

open Scalar LawfulScalar

namespace Interval

/-- Projection and distance of an interval are one metric projection. -/
structure MetricProjection (i : Interval Exact) : Prop where
  /-- A projection lies in the interval. -/
  encloses : ∀ v, isNaN v = false → i.Encloses (i.project v)
  /-- What lies in the interval is its own projection. -/
  fixes : ∀ v, i.Encloses v → i.project v = v
  isNaN_distance : ∀ v, isNaN v = false → isNaN (i.distance v) = false
  zero_atMost : ∀ v, isNaN v = false → atMost 0.0 (i.distance v) = true
  eq_zero_iff : ∀ v, isNaN v = false → (i.distance v = 0.0 ↔ i.Encloses v)
  /-- The distance of a finite number is how far its projection is. -/
  measures : ∀ v, isFinite v = true → i.distance v = modulus (v - i.project v)
  /-- Nothing in the interval is closer to a finite number than its projection. -/
  closest : ∀ v w, isFinite v = true → i.Encloses w →
    atMost (modulus (v - i.project v)) (modulus (v - w)) = true
  /-- What is contained with a tolerance is in the interval or as close to something in it. -/
  contains_iff : ∀ v t, isNaN v = false → atMost 0.0 t = true → (i.contains v t = true ↔
    ∃ w, i.Encloses w ∧ (w = v ∨ atMost (modulus (v - w)) t = true))
  distance_notANumber : i.distance .notANumber = .infinity

section Metric

open Exact

variable (i : Interval Exact) {v w t : Exact}

/-- The distance is how far the projection is, but for infinities inside: they have no difference to
themselves. -/
theorem distance_eq_modulus (hv : isNaN v = false) (h : isFinite v = true ∨ ¬ i.Encloses v) :
    i.distance v = modulus (v - i.project v) := by
  cases i.position hv with
  | below hbelow hdistance hproject =>
      rw [hdistance, hproject, modulus_sub_comm, modulus_of_pos (zero_less_sub hbelow)]
  | above habove hdistance hproject =>
      rw [hdistance, hproject, modulus_of_pos (zero_less_sub habove)]
  | inside hinside hdistance hproject =>
      have hfin : isFinite v = true := h.resolve_right (not_not.2 hinside)
      rw [hdistance, hproject, CancellingScalar.sub_self hfin, CancellingScalar.modulus_zero]

theorem distance_atMost (hv : isNaN v = false) (hw : i.Encloses w) (h : isNaN (v - w) = false) :
    atMost (i.distance v) (modulus (v - w)) = true := by
  cases i.position hv with
  | below hbelow hdistance _ =>
      have hswap : isNaN (w - v) = false := by
        rw [← isNaN_modulus_eq, modulus_sub_comm, isNaN_modulus_eq, h]
      have hends : atMost (i.lower - v) (w - v) = true :=
        sub_atMost_sub hw.1 (atMost_refl hv) (isNaN_of_less (zero_less_sub hbelow)).2 hswap
      rw [hdistance, modulus_sub_comm]
      exact atMost_trans hends (atMost_modulus hswap)
  | above habove hdistance _ =>
      have hends : atMost (v - i.upper) (v - w) = true :=
        sub_atMost_sub (atMost_refl hv) hw.2 (isNaN_of_less (zero_less_sub habove)).2 h
      rw [hdistance]
      exact atMost_trans hends (atMost_modulus h)
  | inside _ hdistance _ =>
      rw [hdistance]
      exact zero_atMost_modulus h

theorem project_closest (hv : isFinite v = true) (hw : i.Encloses w) :
    atMost (modulus (v - i.project v)) (modulus (v - w)) = true := by
  have hnumber := isNaN_of_isFinite hv
  rw [← i.distance_eq_modulus hnumber (.inl hv)]
  exact i.distance_atMost hnumber hw
    (isNaN_sub_of_isFinite_left hv (isNaN_of_atMost hw.1).2)

/-- An interval contains with a tolerance what is in it or as close to something in it. -/
theorem contains_iff_exists (hv : isNaN v = false) (ht : atMost 0.0 t = true) :
    i.contains v t = true ↔
      ∃ w, i.Encloses w ∧ (w = v ∨ atMost (modulus (v - w)) t = true) := by
  constructor
  · intro h
    by_cases hinside : i.Encloses v
    · exact ⟨v, hinside, .inl rfl⟩
    · refine ⟨i.project v, i.encloses_project hv, .inr ?_⟩
      rw [← i.distance_eq_modulus hv (.inr hinside)]
      exact h
  · rintro ⟨w, hw, rfl | hclose⟩
    · rw [contains, i.distance_eq_zero_iff.2 hw]
      exact ht
    · have hdifference := (isNaN_of_atMost hclose).1
      rw [isNaN_modulus_eq] at hdifference
      exact atMost_trans (i.distance_atMost hv hw hdifference) hclose

theorem metricProjection : i.MetricProjection where
  encloses _ := i.encloses_project
  fixes _ := i.project_eq_self
  isNaN_distance v _ := (i.isDistance_distance v).isNaN_eq_false
  zero_atMost v _ := (i.isDistance_distance v).zero_atMost
  eq_zero_iff _ _ := i.distance_eq_zero_iff
  measures _ hv := i.distance_eq_modulus (isNaN_of_isFinite hv) (.inl hv)
  closest _ _ := i.project_closest
  contains_iff _ _ := i.contains_iff_exists
  distance_notANumber := i.distance_of_isNaN rfl

end Metric

end Interval

namespace Problem

theorem initialPoint_of_none {α : Type} [Scalar α] {p : Problem α} (h : p.startingPoint = none) :
    p.initialPoint = p.argumentBounds.map (·.project 0.0) := by
  rw [initialPoint, h, Option.getD_none]

theorem forall₂_encloses_initialPoint {α : Type} [Scalar α] [OrderedScalar α] {p : Problem α}
    (h : p.startingPoint = none) :
    List.Forall₂ Interval.Encloses p.argumentBounds p.initialPoint := by
  rw [initialPoint_of_none h, List.forall₂_map_right_iff, List.forall₂_same]
  exact fun i _ => i.encloses_project isNaN_zero

variable {p : Problem Exact} {xs : List Exact}

theorem forall₂_initialPoint_atMost (h : p.startingPoint = none)
    (hxs : List.Forall₂ Interval.Encloses p.argumentBounds xs) :
    List.Forall₂ (fun y x => atMost (modulus y) (modulus x) = true) p.initialPoint xs := by
  rw [initialPoint_of_none h, List.forall₂_map_left_iff]
  refine hxs.imp fun i x hx => ?_
  have hzero : isFinite (0.0 : Exact) = true := by rw [Exact.zero_eq]; rfl
  have hclosest := i.project_closest hzero hx
  rw [Exact.modulus_zero_sub, Exact.modulus_zero_sub] at hclosest
  exact hclosest

/-- **Projection and distance are one metric projection.** The projection of a number onto an
interval lies in it and is the closest number of it, the distance is how far that is, and an
interval contains with a tolerance what has something in it as close as that. So a problem that can
be assembled, and that has no starting point, starts at the point of its box which is closest to the
origin in every coordinate. -/
theorem metricProjection_and_initialPoint :
    (∀ i : Interval Exact, i.MetricProjection) ∧
    ∀ p : Problem Exact, p.Reachable → p.startingPoint = none →
      p.initialPoint.length = p.inputSize ∧
      List.Forall₂ Interval.Encloses p.argumentBounds p.initialPoint ∧
      ∀ xs, List.Forall₂ Interval.Encloses p.argumentBounds xs →
        List.Forall₂ (fun y x => atMost (modulus y) (modulus x) = true) p.initialPoint xs := by
  refine ⟨Interval.metricProjection, fun p hp hstart => ⟨?_, ?_, ?_⟩⟩
  · exact hp.wellFormed.length_initialPoint
  · exact forall₂_encloses_initialPoint hstart
  · exact fun xs => forall₂_initialPoint_atMost hstart

end Problem

def cornered : Problem Exact :=
  { coupled with
    argumentBounds := [⟨.finite 2, .infinity, rfl⟩, ⟨.negativeInfinity, .finite (-1), rfl⟩] }

theorem cornered_reachable : cornered.Reachable :=
  .step coupled_reachable (.argumentBounds (.several
    [.interval ⟨.finite 2, .infinity, rfl⟩, .interval ⟨.negativeInfinity, .finite (-1), rfl⟩])) rfl

/-- The origin is projected to the corner, which is also closer to it than points with infinite
coordinates. -/
theorem metricProjection_and_initialPoint_cornered :
    cornered.Reachable ∧ cornered.startingPoint = none ∧
      cornered.initialPoint = [.finite 2, .finite (-1)] ∧
      List.Forall₂ Interval.Encloses cornered.argumentBounds cornered.initialPoint ∧
      List.Forall₂ (fun y x => atMost (modulus y) (modulus x) = true) cornered.initialPoint
        [.finite 3, .negativeInfinity] := by
  have hbox : List.Forall₂ Interval.Encloses cornered.argumentBounds
      [.finite 3, .negativeInfinity] := .cons ⟨rfl, rfl⟩ (.cons ⟨rfl, rfl⟩ .nil)
  obtain ⟨-, hproblem⟩ := Problem.metricProjection_and_initialPoint
  obtain ⟨-, hencloses, hclosest⟩ := hproblem cornered cornered_reachable rfl
  refine ⟨cornered_reachable, rfl, ?_, hencloses, hclosest _ hbox⟩
  rw [Problem.initialPoint_of_none rfl, Exact.zero_eq]
  rfl

end NonlinearProgram
