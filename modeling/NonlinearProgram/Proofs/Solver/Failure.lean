import NonlinearProgram.Proofs.Function.Failure
import NonlinearProgram.Proofs.Solver.Stacked

/-!
# How evaluations of a problem fail

A problem of which the parts agree in size evaluates its functions at vectors of their input size
and at indices of their outputs, and it combines what they return in lists of equal length. So
values, Jacobians and weighted Hessians of all components fail only through hooks of the functions.
-/

namespace NonlinearProgram

variable {α : Type} [Scalar α]

namespace Function

variable {f : Function α} {xs : List α}

theorem failsOnly_scalarValue (hxs : xs.length = f.inputSize) :
    FailsOnly (f.FailsAt xs) (f.scalarValue (.vector xs)) := by
  refine (failsOnly_compute hxs).bind fun values hvalues => ?_
  have hpos : 0 < values.length := by
    rw [length_of_compute hvalues]
    exact f.outputSize_pos
  unfold Tensor.entryAt
  rw [List.getElem?_eq_getElem hpos]
  exact .ok _

theorem failsOnly_scalarGradient (hxs : xs.length = f.inputSize)
    (hf : f.hooks.gradient?.isSome = true) :
    FailsOnly (f.FailsAt xs) (f.scalarGradient (.vector xs)) :=
  failsOnly_gradient hxs hf f.outputSize_pos

end Function

namespace Constraint

variable {constraints : List (Constraint α)} {x : Datum α}

/-- A numbered component is an output of one of the constraints, and its number is one of those
that there are. -/
theorem mem_components {component : (Function α × Nat) × Nat}
    (h : component ∈ (components constraints).zipIdx) :
    ∃ c ∈ constraints, component.1.1 = c.function ∧ component.1.2 < c.size ∧
      component.2 < Problem.totalSize constraints := by
  obtain ⟨⟨f, i⟩, k⟩ := component
  obtain ⟨-, hk, hfi⟩ := List.mem_zipIdx h
  rw [length_components, Nat.zero_add] at hk
  have hmem : (f, i) ∈ components constraints := by
    rw [hfi]
    exact List.getElem_mem _
  obtain ⟨c, hc, hci⟩ := List.mem_flatMap.1 hmem
  obtain ⟨j, hj, hfj⟩ := List.mem_map.1 hci
  cases hfj
  exact ⟨c, hc, rfl, List.mem_range.1 hj, hk⟩

end Constraint

namespace Problem

variable {p : Problem α} {xs : List α}

/-- The errors that hooks of a problem's functions bring about at a point. -/
def HookFails (p : Problem α) (xs : List α) (e : Error α) : Prop :=
  p.objective.FailsAt xs e ∨ ∃ c ∈ p.constraints, c.function.FailsAt xs e

/-- The errors that hooks of a problem's functions fail with at a point. -/
def HookRaises (p : Problem α) (xs : List α) (e : Error α) : Prop :=
  p.objective.RaisesAt xs e ∨ ∃ c ∈ p.constraints, c.function.RaisesAt xs e

theorem HookFails.hookRaises {p : Problem α} {xs : List α} {e : Error α} (h : p.HookFails xs e)
    (he : e.RefusesRequest) : p.HookRaises xs e := by
  rcases h with h | ⟨c, hc, h⟩
  · exact .inl (h.raisesAt he)
  · exact .inr ⟨c, hc, h.raisesAt he⟩

def HasGradients (p : Problem α) : Prop :=
  ∀ c ∈ p.constraints, c.function.hooks.gradient?.isSome = true

def HasHessians (p : Problem α) : Prop :=
  ∀ c ∈ p.constraints, c.function.hooks.hessian?.isSome = true

variable (hp : p.WellFormed) (hxs : xs.length = p.inputSize)

include hp hxs

theorem failsOnly_stackedValues :
    FailsOnly (p.HookFails xs) (Constraint.stackedValues p.constraints (.vector xs)) := by
  refine FailsOnly.bind (.mapM fun c hc => ?_) fun values _ => .pure _
  have hlength : xs.length = c.function.inputSize := hxs.trans (hp.inputSizes c hc).symm
  exact (Function.failsOnly_compute hlength).mono fun e he => .inr ⟨c, hc, he⟩

theorem failsOnly_stackedJacobian (hgradients : p.HasGradients) :
    FailsOnly (p.HookFails xs) (Constraint.stackedJacobian p.constraints (.vector xs)) := by
  refine FailsOnly.bind (.mapM fun c hc => ?_) fun blocks _ => ?_
  · have hlength : xs.length = c.function.inputSize := hxs.trans (hp.inputSizes c hc).symm
    exact (Function.failsOnly_jacobian hlength (hgradients c hc)).mono fun e he => .inr ⟨c, hc, he⟩
  · rw [Tensor.ofDatum_vector]
    exact .pure _

section Stack

variable {scales : List α} (hscales : scales.length = p.componentCount)

include hscales

theorem failsOnly_values :
    FailsOnly (p.HookFails xs)
      ((StackedConstraints.mk p.constraints scales).values (.vector xs)) := by
  unfold StackedConstraints.values
  split
  · exact .pure _
  · refine (failsOnly_stackedValues hp hxs).bind fun values hvalues => ?_
    have hlength : scales.length = values.length :=
      hscales.trans (length_of_constraintValues hvalues).symm
    exact .of_eq_ok (Tensor.pairUp_of_length_eq _ _ _ hlength)

theorem failsOnly_jacobian (hgradients : p.HasGradients) :
    FailsOnly (p.HookFails xs)
      ((StackedConstraints.mk p.constraints scales).jacobian (.vector xs)) := by
  unfold StackedConstraints.jacobian
  refine (failsOnly_stackedJacobian hp hxs hgradients).bind fun a ha => ?_
  split
  · exact .pure _
  · have hlength : scales.length = a.rows.length :=
      hscales.trans (Constraint.length_rows_of_stackedJacobian ha).symm
    exact FailsOnly.bind (.of_eq_ok (Tensor.pairUp_of_length_eq _ _ _ hlength)) fun _ _ => .pure _

theorem failsOnly_hessian (hhessians : p.HasHessians) {weights : List α}
    (hweights : weights.length = p.componentCount) :
    FailsOnly (p.HookFails xs)
      ((StackedConstraints.mk p.constraints scales).hessian (.vector xs) (.vector weights)) := by
  unfold StackedConstraints.hessian Constraint.scaledHessian
  rw [Constraint.stackedHessian_eq_foldlM, Tensor.ofDatum_vector]
  -- Whatever the sum of the components before is, the next one adds an output of a constraint.
  refine FailsOnly.foldlM (fun component hcomponent total => ?_) _
  obtain ⟨c, hc, hf, hi, hk⟩ := Constraint.mem_components hcomponent
  obtain ⟨⟨f, i⟩, k⟩ := component
  cases hf
  have hlength : xs.length = c.function.inputSize := hxs.trans (hp.inputSizes c hc).symm
  have hweight := Constraint.weight_eq_ok
    (List.getElem?_eq_getElem (hk.trans_eq hweights.symm))
    (List.getElem?_eq_getElem (hk.trans_eq hscales.symm))
  unfold Constraint.addHessian
  simp only [hweight, ofExcept_eq]
  change FailsOnly _ (if _ then _ else _)
  split
  · exact .pure _
  · refine FailsOnly.bind ?_ fun a _ => .pure _
    exact (Function.failsOnly_hessian hlength (hhessians c hc) hi).mono fun e he => .inr ⟨c, hc, he⟩

end Stack

end Problem

namespace Problem

variable {p : Problem α} {xs : List α} (hp : p.WellFormed) (hxs : xs.length = p.inputSize)

include hxs

theorem failsOnly_objective : FailsOnly (p.HookFails xs) (p.objective.scalarValue (.vector xs)) :=
  (Function.failsOnly_scalarValue hxs).mono fun _ => .inl

theorem failsOnly_objectiveGradient (h : p.objective.hooks.gradient?.isSome = true) :
    FailsOnly (p.HookFails xs) (p.objective.scalarGradient (.vector xs)) :=
  (Function.failsOnly_scalarGradient hxs h).mono fun _ => .inl

theorem failsOnly_objectiveHessian (h : p.objective.hooks.hessian?.isSome = true) :
    FailsOnly (p.HookFails xs) (p.objective.hessian (.vector xs) (.whole 0)) :=
  (Function.failsOnly_hessian hxs h p.objective.outputSize_pos).mono fun _ => .inl

include hp

theorem failsOnly_lagrangianEntries (hobjective : p.objective.hooks.hessian?.isSome = true)
    (hhessians : p.HasHessians) {ws : List α} (hws : ws.length = p.componentCount) (factor : α) :
    FailsOnly (p.HookFails xs) (p.lagrangianEntries (.vector xs) (.vector ws) factor) := by
  refine (failsOnly_objectiveHessian hxs hobjective).bind fun _ _ => ?_
  exact (failsOnly_hessian hp hxs List.length_replicate hhessians hws).bind fun _ _ => .pure _

end Problem

end NonlinearProgram
