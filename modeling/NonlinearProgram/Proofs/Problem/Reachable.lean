import NonlinearProgram.Problem.Assembly
import NonlinearProgram.Proofs.Tensor

/-!
# Problems that can be assembled

A problem is created and then changed call by call; a refused call changes nothing. What every
call keeps, and so every problem that can be assembled has, is that the parts agree in size: a
bound for each variable, a bound and a valid scale for each component, and functions of one input
size.
-/

namespace NonlinearProgram

open Scalar

variable {α : Type} [Scalar α]

inductive Assembly (α : Type) [Scalar α] where
  | argumentBound (index : Datum α) (bound : BoundArgument α)
  | argumentBounds (bounds : BoundsArgument α)
  | allArgumentBounds (bound : BoundArgument α)
  | startingPoint (x : Datum α)
  | constraint (f : Function α) (bounds : BoundsArgument α) (scales : Option (Datum α))
  | freeze

def Assembly.apply (p : Problem α) : Assembly α → Except (Error α) (Problem α)
  | argumentBound index bound => p.setArgumentBound index bound
  | argumentBounds bounds => p.setArgumentBounds bounds
  | allArgumentBounds bound => p.setAllArgumentBounds bound
  | startingPoint x => p.setStartingPoint x
  | constraint f bounds scales => do return (← (p.addConstraint f bounds scales).outcome).1
  | freeze => .ok p.freeze

/-- The problems that come from a new problem by calls. -/
inductive Problem.Reachable : Problem α → Prop
  | create {objective : Function α} {names : Option (Datum α)} {p : Problem α}
      (h : Problem.create objective names = .ok p) : p.Reachable
  | step {p q : Problem α} (hp : p.Reachable) (call : Assembly α)
      (h : call.apply p = .ok q) : q.Reachable

/-- One bound and one valid scale for each component. -/
structure Constraint.WellFormed (c : Constraint α) : Prop where
  length_bounds : c.bounds.length = c.size
  length_scales : c.scales.length = c.size
  isScale : ∀ s ∈ c.scales, Interval.isScale s = true

/-- The parts of a problem agree in size. -/
structure Problem.WellFormed (p : Problem α) : Prop where
  outputSize : p.objective.outputSize = 1
  length_names : p.argumentNames.length = p.inputSize
  length_bounds : p.argumentBounds.length = p.inputSize
  length_start : ∀ x ∈ p.startingPoint, x.length = p.inputSize
  constraints : ∀ c ∈ p.constraints, c.WellFormed
  inputSizes : ∀ c ∈ p.constraints, c.function.inputSize = p.inputSize

theorem Constraint.checkScale_eq_ok {name : String} {given : Datum α} {scale : α}
    (h : Constraint.checkScale name given = .ok scale) : Interval.isScale scale = true := by
  obtain ⟨s, -, h⟩ := bind_eq_ok_iff.1 h
  split at h
  · next hscale =>
      rw [pure_eq_ok_iff] at h
      rw [← h]
      exact hscale
  · cases h

theorem Constraint.make_eq_ok {f : Function α} {bounds : List (BoundArgument α)}
    {scales : List (Datum α)} {c : Constraint α} (h : Constraint.make f bounds scales = .ok c) :
    c.function = f ∧ c.WellFormed := by
  unfold Constraint.make at h
  obtain ⟨hbounds, h⟩ := check_eq_ok_iff.1 h
  obtain ⟨hscales, h⟩ := check_eq_ok_iff.1 h
  obtain ⟨intervals, hintervals, h⟩ := bind_eq_ok_iff.1 h
  obtain ⟨factors, hfactors, h⟩ := bind_eq_ok_iff.1 h
  rw [pure_eq_ok_iff] at h
  subst h
  rw [mapM_eq_ok_iff] at hintervals hfactors
  refine ⟨rfl, ?_, ?_, ?_⟩
  · exact hintervals.length_eq.symm.trans (not_not.1 hbounds)
  · exact hfactors.length_eq.symm.trans (not_not.1 hscales)
  · intro s hs
    obtain ⟨given, -, hgiven⟩ := exists_of_mem_right hfactors hs
    exact Constraint.checkScale_eq_ok hgiven

namespace Problem

theorem newConstraint_eq_ok {p : Problem α} {f : Function α} {bounds : BoundsArgument α}
    {scales : Option (Datum α)} {c : Constraint α} (h : p.newConstraint f bounds scales = .ok c) :
    c.function.inputSize = p.inputSize ∧ c.WellFormed := by
  obtain ⟨-, -, h⟩ := bind_eq_ok_iff.1 h
  obtain ⟨hsize, h⟩ := check_eq_ok_iff.1 h
  obtain ⟨items, -, h⟩ := bind_eq_ok_iff.1 h
  obtain ⟨given, -, h⟩ := bind_eq_ok_iff.1 h
  obtain ⟨factors, -, h⟩ := bind_eq_ok_iff.1 h
  obtain ⟨hf, hc⟩ := Constraint.make_eq_ok h
  rw [hf]
  exact ⟨not_not.1 hsize, hc⟩

/-- Adding a constraint puts it at the end, under the number of constraints before it. -/
theorem addConstraint_eq_ok {p q : Problem α} {f : Function α} {bounds : BoundsArgument α}
    {scales : Option (Datum α)} {position : Nat}
    (h : (p.addConstraint f bounds scales).outcome = .ok (q, position)) :
    ∃ c, p.newConstraint f bounds scales = .ok c ∧ q = p.append c ∧
      position = p.constraints.length := by
  obtain ⟨c, hc, h⟩ := Attempt.outcome_bind_eq_ok_iff.1 h
  obtain ⟨-, -, h⟩ := Attempt.outcome_bind_eq_ok_iff.1 h
  rw [Attempt.outcome_pure, Except.ok.injEq, Prod.mk.injEq] at h
  exact ⟨c, hc, h.1.symm, h.2.symm⟩

theorem wellFormed_create {objective : Function α} {names : Option (Datum α)} {p : Problem α}
    (h : create objective names = .ok p) : p.WellFormed := by
  unfold create at h
  obtain ⟨houtput, h⟩ := check_eq_ok_iff.1 h
  obtain ⟨given, -, h⟩ := bind_eq_ok_iff.1 h
  obtain ⟨hnames, h⟩ := check_eq_ok_iff.1 h
  rw [pure_eq_ok_iff] at h
  subst h
  exact {
    outputSize := not_not.1 houtput
    length_names := (List.length_map _).trans (not_not.1 hnames)
    length_bounds := List.length_replicate
    length_start := nofun
    constraints := nofun
    inputSizes := nofun }

variable {p q : Problem α}

theorem WellFormed.setArgumentBound {index : Datum α} {bound : BoundArgument α}
    (hp : p.WellFormed) (h : p.setArgumentBound index bound = .ok q) : q.WellFormed := by
  obtain ⟨-, -, h⟩ := bind_eq_ok_iff.1 h
  obtain ⟨within, -, h⟩ := bind_eq_ok_iff.1 h
  obtain ⟨-, h⟩ := check_eq_ok_iff.1 h
  obtain ⟨i, -, h⟩ := bind_eq_ok_iff.1 h
  obtain ⟨position, -, h⟩ := bind_eq_ok_iff.1 h
  rw [pure_eq_ok_iff] at h
  subst h
  have hlength : (p.argumentBounds.set position i).length = p.inputSize := by
    rw [List.length_set, hp.length_bounds]
  exact { hp with length_bounds := hlength }

theorem WellFormed.setArgumentBounds {bounds : BoundsArgument α} (hp : p.WellFormed)
    (h : p.setArgumentBounds bounds = .ok q) : q.WellFormed := by
  obtain ⟨-, -, h⟩ := bind_eq_ok_iff.1 h
  obtain ⟨items, -, h⟩ := bind_eq_ok_iff.1 h
  obtain ⟨hlength, h⟩ := check_eq_ok_iff.1 h
  obtain ⟨intervals, hintervals, h⟩ := bind_eq_ok_iff.1 h
  rw [pure_eq_ok_iff] at h
  subst h
  rw [mapM_eq_ok_iff] at hintervals
  have hlength : intervals.length = p.inputSize :=
    hintervals.length_eq.symm.trans (not_not.1 hlength)
  exact { hp with length_bounds := hlength }

theorem WellFormed.setStartingPoint {x : Datum α} (hp : p.WellFormed)
    (h : p.setStartingPoint x = .ok q) : q.WellFormed := by
  obtain ⟨-, -, h⟩ := bind_eq_ok_iff.1 h
  obtain ⟨t, ht, h⟩ := bind_eq_ok_iff.1 h
  obtain ⟨hshape, h⟩ := check_eq_ok_iff.1 h
  rw [pure_eq_ok_iff] at h
  subst h
  have hlength := (Tensor.eq_vector_of_ofDatum ht (not_not.1 hshape)).2
  refine { hp with length_start := ?_ }
  intro y hy
  rw [Option.mem_some_iff] at hy
  rw [← hy]
  exact hlength

theorem WellFormed.append {c : Constraint α} (hp : p.WellFormed) (hc : c.WellFormed)
    (hsize : c.function.inputSize = p.inputSize) : (p.append c).WellFormed := by
  refine { hp with constraints := ?_, inputSizes := ?_ }
  · intro d hd
    rcases List.mem_append.1 hd with hd | hd
    · exact hp.constraints d hd
    · rw [List.mem_singleton.1 hd]
      exact hc
  · intro d hd
    rcases List.mem_append.1 hd with hd | hd
    · exact hp.inputSizes d hd
    · rw [List.mem_singleton.1 hd]
      exact hsize

theorem WellFormed.apply (hp : p.WellFormed) {call : Assembly α} (h : call.apply p = .ok q) :
    q.WellFormed := by
  cases call with
  | argumentBound index bound => exact hp.setArgumentBound h
  | argumentBounds bounds => exact hp.setArgumentBounds h
  | allArgumentBounds bound => exact hp.setArgumentBounds h
  | startingPoint x => exact hp.setStartingPoint h
  | constraint f bounds scales =>
      obtain ⟨⟨q', position⟩, hadd, h⟩ := bind_eq_ok_iff.1 h
      obtain ⟨c, hc, hq, -⟩ := addConstraint_eq_ok hadd
      obtain ⟨hsize, hc⟩ := newConstraint_eq_ok hc
      rw [pure_eq_ok_iff] at h
      rw [← h, hq]
      exact hp.append hc hsize
  | freeze =>
      cases h
      exact { hp with }

theorem Reachable.wellFormed (hp : p.Reachable) : p.WellFormed := by
  induction hp with
  | create h => exact wellFormed_create h
  | step _ call h ih => exact ih.apply h

end Problem

end NonlinearProgram
