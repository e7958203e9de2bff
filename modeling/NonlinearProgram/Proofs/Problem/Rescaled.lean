import NonlinearProgram.Proofs.Problem.Acceptance
import NonlinearProgram.Proofs.Problem.Numbering
import NonlinearProgram.Solver.InteriorPoint

/-!
# Problems that differ in their scales

Two problems with the same objective, the same bounds and starting point, and the same constraints
may have been given different scales. Whatever is asked of a problem itself is read off functions
and bounds, so on two such problems it comes to the same, errors included. Scales stay apart from
everything else while problems are assembled: calls that give different scales keep two problems the
same but for these.
-/

namespace NonlinearProgram

variable {α : Type} [Scalar α]

/-- Two constraints are the same but for their scales. -/
structure Constraint.Rescaled (c d : Constraint α) : Prop where
  function : c.function = d.function
  bounds : c.bounds = d.bounds

/-- Two problems are the same but for the scales of their constraints. What the variables are called
and whether the problems are frozen does not matter. -/
structure Problem.Rescaled (p q : Problem α) : Prop where
  objective : p.objective = q.objective
  argumentBounds : p.argumentBounds = q.argumentBounds
  startingPoint : p.startingPoint = q.startingPoint
  constraints : List.Forall₂ Constraint.Rescaled p.constraints q.constraints

namespace Constraint

variable {cs ds : List (Constraint α)} (h : List.Forall₂ Rescaled cs ds)

theorem Rescaled.violation_eq {c d : Constraint α} (h : c.Rescaled d) (x : Datum α) :
    c.violation x = d.violation x := by
  unfold violation
  rw [h.function, h.bounds]

include h

theorem isEmpty_eq_of_rescaled : cs.isEmpty = ds.isEmpty := by
  cases h with
  | nil => rfl
  | cons _ _ => rfl

theorem stackedValues_eq_of_rescaled (x : Datum α) : stackedValues cs x = stackedValues ds x := by
  unfold stackedValues
  rw [mapM_eq_of_forall₂ h fun c d hcd => by rw [hcd.function]]

theorem stackedJacobian_eq_of_rescaled (x : Datum α) :
    stackedJacobian cs x = stackedJacobian ds x := by
  unfold stackedJacobian
  rw [mapM_eq_of_forall₂ h fun c d hcd => by rw [hcd.function]]

theorem components_eq_of_rescaled : components cs = components ds :=
  flatMap_eq_of_forall₂ h fun c d hcd => by rw [size, size, hcd.function]

theorem totalSize_eq_of_rescaled : Problem.totalSize cs = Problem.totalSize ds := by
  induction h with
  | nil => rfl
  | @cons c d cs ds hcd _ ih =>
      change c.size + Problem.totalSize cs = d.size + Problem.totalSize ds
      rw [ih, size, size, hcd.function]

end Constraint

namespace Problem.Rescaled

variable {p q : Problem α} (h : p.Rescaled q)

include h

theorem inputSize_eq : p.inputSize = q.inputSize := congrArg Function.inputSize h.objective

theorem componentCount_eq : p.componentCount = q.componentCount :=
  Constraint.totalSize_eq_of_rescaled h.constraints

theorem componentBounds_eq : p.componentBounds = q.componentBounds :=
  flatMap_eq_of_forall₂ h.constraints fun _ _ hcd => hcd.bounds

theorem initialPoint_eq : p.initialPoint = q.initialPoint := by
  unfold initialPoint
  rw [h.startingPoint, h.argumentBounds]

theorem constraintValues_eq (x : Datum α) : p.constraintValues x = q.constraintValues x :=
  Constraint.stackedValues_eq_of_rescaled h.constraints x

theorem constraintViolation_eq (x : Datum α) :
    p.constraintViolation x = q.constraintViolation x := by
  unfold constraintViolation argumentDistances
  rw [h.argumentBounds, mapM_eq_of_forall₂ h.constraints fun _ _ hcd => hcd.violation_eq x]

theorem isFeasible_eq (x : Datum α) (tolerance : α) :
    p.isFeasible x tolerance = q.isFeasible x tolerance := by
  unfold isFeasible
  rw [h.constraintViolation_eq]

theorem boundedValues_eq (x : Datum α) : p.boundedValues x = q.boundedValues x := by
  unfold boundedValues
  rw [h.argumentBounds, mapM_eq_of_forall₂ h.constraints fun c d hcd => by
    rw [hcd.function, hcd.bounds]]

theorem isFeasibleWithin_eq (x tolerance : Datum α) :
    p.isFeasibleWithin x tolerance = q.isFeasibleWithin x tolerance := by
  unfold isFeasibleWithin isMeasured
  rw [h.constraintViolation_eq, h.boundedValues_eq]

theorem checkProblem_eq (b : Backend α) : b.checkProblem p = b.checkProblem q := by
  unfold Backend.checkProblem
  rw [h.objective, forM_eq_of_forall₂ h.constraints fun c d hcd => by rw [hcd.function]]

end Problem.Rescaled

namespace StackedConstraints

variable {cs ds : List (Constraint α)} (h : List.Forall₂ Constraint.Rescaled cs ds)
  (scales : List α)

include h

theorem values_eq_of_rescaled (x : Datum α) :
    (mk cs scales).values x = (mk ds scales).values x := by
  unfold values
  rw [Constraint.isEmpty_eq_of_rescaled h, Constraint.stackedValues_eq_of_rescaled h]

theorem jacobian_eq_of_rescaled (x : Datum α) :
    (mk cs scales).jacobian x = (mk ds scales).jacobian x := by
  unfold jacobian
  rw [Constraint.isEmpty_eq_of_rescaled h, Constraint.stackedJacobian_eq_of_rescaled h]

theorem hessian_eq_of_rescaled (x : Datum α) (weights : Tensor α) :
    (mk cs scales).hessian x weights = (mk ds scales).hessian x weights := by
  unfold hessian Constraint.scaledHessian
  rw [Constraint.stackedHessian_eq_foldlM, Constraint.stackedHessian_eq_foldlM,
    Constraint.components_eq_of_rescaled h]

end StackedConstraints

namespace Problem.Rescaled

variable {p q : Problem α} (h : p.Rescaled q)

include h

theorem stackedUnscaled_eq :
    q.stackedUnscaled = ⟨q.constraints, List.replicate p.componentCount 1.0⟩ := by
  rw [h.componentCount_eq]
  rfl

theorem stackedUnscaled_values_eq : p.stackedUnscaled.values = q.stackedUnscaled.values := by
  funext x
  rw [h.stackedUnscaled_eq]
  exact StackedConstraints.values_eq_of_rescaled h.constraints _ x

theorem jacobianEntries_eq : p.jacobianEntries = q.jacobianEntries := by
  funext x
  unfold jacobianEntries
  rw [h.stackedUnscaled_eq]
  exact congrArg (fun a => Except.bind a _)
    (StackedConstraints.jacobian_eq_of_rescaled h.constraints _ x)

theorem lagrangianEntries_eq : p.lagrangianEntries = q.lagrangianEntries := by
  funext x multipliers factor
  have hconstraints : p.stackedUnscaled.hessian x multipliers =
      q.stackedUnscaled.hessian x multipliers := by
    rw [h.stackedUnscaled_eq]
    exact StackedConstraints.hessian_eq_of_rescaled h.constraints _ x multipliers
  unfold lagrangianEntries
  rw [hconstraints, h.objective, h.inputSize_eq]

end Problem.Rescaled

/-- Two calls are the same but for the scales that they give. -/
inductive Assembly.Rescales : Assembly α → Assembly α → Prop
  | same (call : Assembly α) : Rescales call call
  | constraint (f : Function α) (bounds : BoundsArgument α) (scales scales' : Option (Datum α)) :
      Rescales (.constraint f bounds scales) (.constraint f bounds scales')

namespace Problem

/-- Two problems are assembled from one objective by calls that differ in the scales they give. -/
inductive SideBySide : Problem α → Problem α → Prop
  | create {objective : Function α} {names names' : Option (Datum α)} {p q : Problem α}
      (hp : Problem.create objective names = .ok p)
      (hq : Problem.create objective names' = .ok q) : SideBySide p q
  | step {p q p' q' : Problem α} (h : SideBySide p q) {call call' : Assembly α}
      (hcall : call.Rescales call') (hp : call.apply p = .ok p') (hq : call'.apply q = .ok q') :
      SideBySide p' q'

variable {p q p' q' : Problem α}

theorem create_eq_ok {objective : Function α} {names : Option (Datum α)}
    (h : create objective names = .ok p) :
    p.objective = objective ∧
      p.argumentBounds = List.replicate objective.inputSize Interval.unbounded ∧
      p.startingPoint = none ∧ p.constraints = [] := by
  unfold create at h
  obtain ⟨-, h⟩ := check_eq_ok_iff.1 h
  obtain ⟨given, -, h⟩ := bind_eq_ok_iff.1 h
  obtain ⟨-, h⟩ := check_eq_ok_iff.1 h
  rw [pure_eq_ok_iff] at h
  subst h
  exact ⟨rfl, rfl, rfl, rfl⟩

namespace Rescaled

variable (h : p.Rescaled q)

include h

theorem append {c d : Constraint α} (hcd : c.Rescaled d) :
    (p.append c).Rescaled (q.append d) where
  objective := h.objective
  argumentBounds := h.argumentBounds
  startingPoint := h.startingPoint
  constraints := List.rel_append h.constraints (.cons hcd .nil)

theorem constraint {f : Function α} {bounds : BoundsArgument α} {scales scales' : Option (Datum α)}
    (hp : (Assembly.constraint f bounds scales).Changes p p')
    (hq : (Assembly.constraint f bounds scales').Changes q q') : p'.Rescaled q' := by
  obtain ⟨c, hc, rfl⟩ := hp
  obtain ⟨d, hd, rfl⟩ := hq
  refine h.append ⟨hc.function.trans hd.function.symm, ?_⟩
  have hbounds := BoundsArgument.itemsOrSingle_eq_ok_iff.2 hc.bounds
  rw [BoundsArgument.itemsOrSingle_eq_ok_iff.2 hd.bounds, Except.ok.injEq] at hbounds
  exact (List.map_injective_iff.2 fun _ _ => BoundArgument.interval.inj) hbounds.symm

/-- A call changes the part that it names, whatever the scales of the problem are. -/
theorem changes {call : Assembly α} (hp : call.Changes p p') (hq : call.Changes q q') :
    p'.Rescaled q' := by
  cases call with
  | argumentBound index bound =>
      obtain ⟨k, i, hk, -, hi, rfl⟩ := hp
      obtain ⟨k', i', hk', -, hi', rfl⟩ := hq
      obtain rfl : k = k' := Int.ofNat.inj (Option.some.inj (hk.symm.trans hk'))
      obtain rfl : i = i' := BoundArgument.interval.inj (hi.symm.trans hi')
      exact { h with argumentBounds := congrArg (List.set · k i) h.argumentBounds }
  | argumentBounds bounds =>
      obtain ⟨intervals, hbounds, -, rfl⟩ := hp
      obtain ⟨intervals', hbounds', -, rfl⟩ := hq
      have hintervals := BoundsArgument.several.inj (hbounds.symm.trans hbounds')
      exact { h with argumentBounds :=
        (List.map_injective_iff.2 fun _ _ => BoundArgument.interval.inj) hintervals }
  | allArgumentBounds bound =>
      obtain ⟨intervals, hbound, hlength, rfl⟩ := hp
      obtain ⟨intervals', hbound', hlength', rfl⟩ := hq
      rw [h.inputSize_eq] at hlength
      refine { h with argumentBounds := ?_ }
      refine List.ext_getElem (hlength.trans hlength'.symm) fun k hk hk' => ?_
      have hi := hbound _ (List.getElem_mem hk)
      exact BoundArgument.interval.inj (hi.symm.trans (hbound' _ (List.getElem_mem hk')))
  | startingPoint x =>
      obtain ⟨xs, hx, -, rfl⟩ := hp
      obtain ⟨xs', hx', -, rfl⟩ := hq
      have hxs := Except.ok.inj (hx.symm.trans hx')
      exact { h with startingPoint := congrArg (fun t => some t.entries) hxs }
  | constraint f bounds scales => exact h.constraint hp hq
  | freeze =>
      obtain rfl := hp
      obtain rfl := hq
      exact { h with }

theorem apply {call call' : Assembly α} (hcall : call.Rescales call') (hp : call.apply p = .ok p')
    (hq : call'.apply q = .ok q') : p'.Rescaled q' := by
  cases hcall with
  | same => exact h.changes (Assembly.changes_of_apply hp) (Assembly.changes_of_apply hq)
  | constraint f bounds scales scales' =>
      exact h.constraint (Assembly.changes_of_apply hp) (Assembly.changes_of_apply hq)

end Rescaled

theorem SideBySide.rescaled (h : p.SideBySide q) : p.Rescaled q := by
  induction h with
  | create hp hq =>
      obtain ⟨hobjective, hbounds, hstart, hconstraints⟩ := create_eq_ok hp
      obtain ⟨hobjective', hbounds', hstart', hconstraints'⟩ := create_eq_ok hq
      refine ⟨hobjective.trans hobjective'.symm, hbounds.trans hbounds'.symm,
        hstart.trans hstart'.symm, ?_⟩
      rw [hconstraints, hconstraints']
      exact .nil
  | step _ hcall hp hq ih => exact ih.apply hcall hp hq

theorem SideBySide.reachable (h : p.SideBySide q) : p.Reachable ∧ q.Reachable := by
  induction h with
  | create hp hq => exact ⟨.create hp, .create hq⟩
  | step _ _ hp hq ih => exact ⟨.step ih.1 _ hp, .step ih.2 _ hq⟩

end Problem

end NonlinearProgram
