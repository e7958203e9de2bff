import NonlinearProgram.Proofs.Solver.Callbacks
import NonlinearProgram.Proofs.Tensor.Matching

/-!
# Models that fail alike

A library that looks at its answers only to see whether there are any cannot tell two models apart
whose callbacks fail at the same points with the same errors. One that follows a script is such a
library: it makes the same requests of both and ends in the same way.
-/

namespace NonlinearProgram

variable {α : Type} [Scalar α]

/-- Two blocks have the same callbacks, and these fail alike. -/
structure ConstraintBlock.Mirrors (a b : ConstraintBlock α) : Prop where
  value : ∀ x, FailsLike (a.value x) (b.value x)
  jacobian : Option.Rel (fun f g => ∀ x, FailsLike (f x) (g x)) a.jacobian b.jacobian
  hessian : Option.Rel (fun f g => ∀ x weights, FailsLike (f x weights) (g x weights)) a.hessian
    b.hessian

/-- Two minimisers are handed the same objective, and blocks that fail alike. -/
structure MinimizerModel.Mirrors (m n : MinimizerModel α) : Prop where
  objective : m.objective = n.objective
  gradient : m.gradient = n.gradient
  hessian : m.hessian = n.hessian
  blocks : List.Forall₂ ConstraintBlock.Mirrors m.blocks n.blocks

/-- A library of either kind finds the same requests refused, with the same errors. -/
inductive Handover.Mirrors : Handover α → Handover α → Prop
  | minimizer {m n : MinimizerModel α} (h : ∀ request, FailsLike (m.serve request).2
      (n.serve request).2) : Mirrors (.minimizer m) (.minimizer n)
  | interior {m n : InteriorModel α} (h : ∀ request, FailsLike (m.serve request).2
      (n.serve request).2) : Mirrors (.interior m) (.interior n)

section Callbacks

variable {β γ : Type} {R : β → γ → Prop}

omit [Scalar α] in
theorem required_inStep (fault : Fault) {o : Option β} {o' : Option γ} (h : Option.Rel R o o') :
    InStep R (required fault o : Except (Error α) β) (required fault o') := by
  cases h with
  | some h => exact .ok h
  | none => exact .error _

omit [Scalar α] in
theorem Datum.itemAt_inStep {xs : List β} {ys : List γ} (h : List.Forall₂ R xs ys) (k : Datum α) :
    InStep R (k.itemAt xs : Except (Error α) β) (k.itemAt ys) := by
  have hfrom : ∀ k : Int, InStep R (itemFrom xs k : Except (Error α) β) (itemFrom ys k) := by
    intro k
    unfold itemFrom
    rw [h.length_eq]
    generalize (if k < 0 then k + (ys.length : Int) else k) = j
    by_cases hj : 0 ≤ j
    · have hitem := rel_getElem? h j.toNat
      simp only [if_pos hj]
      generalize xs[j.toNat]? = x at hitem ⊢
      generalize ys[j.toNat]? = y at hitem ⊢
      cases hitem with
      | some h => exact .ok h
      | none => exact .error _
    · simp only [if_neg hj]
      exact .error _
  cases k with
  | whole k => exact hfrom k
  | flag b => exact hfrom _
  | _ => exact .error _

omit [Scalar α] in
theorem MinimizerModel.serve_incomplete (m : MinimizerModel α) {name : Option String}
    (block : Option (Datum α)) (error : Error α) (h : name ≠ some "hess") :
    m.serve (.incomplete name block error) = (m, .error error) := by
  unfold serve uncounted
  split <;> simp_all

omit [Scalar α] in
theorem MinimizerModel.Mirrors.answer {m n : MinimizerModel α} (h : m.Mirrors n)
    (request : Request α) : FailsLike (m.serve request).2 (n.serve request).2 := by
  have hblock : ∀ k, InStep ConstraintBlock.Mirrors (m.blockAt k) (n.blockAt k) :=
    Datum.itemAt_inStep h.blocks
  cases request with
  | value x =>
      refine (InStep.of_eq ?_).failsLike
      unfold MinimizerModel.serve
      rw [h.objective]
  | gradient x =>
      refine (InStep.of_eq ?_).failsLike
      unfold MinimizerModel.serve
      rw [h.gradient]
      cases n.gradient <;> rfl
  | hessian x =>
      refine (InStep.of_eq ?_).failsLike
      unfold MinimizerModel.serve MinimizerModel.uncounted
      rw [h.hessian]
  | blockValue k x =>
      exact (hblock k).bind fun a b hab => (hab.value x).bind fun _ _ _ => .ok trivial
  | blockJacobian k x =>
      exact (hblock k).bind fun a b hab => (required_inStep _ hab.jacobian).bind fun f g hfg =>
        (hfg x).bind fun _ _ _ => .ok trivial
  | blockHessian k x weights =>
      exact (hblock k).bind fun a b hab => (required_inStep _ hab.hessian).bind fun f g hfg =>
        (hfg x weights).bind fun _ _ _ => .ok trivial
  | incomplete name block error =>
      by_cases hname : name = some "hess"
      · subst hname
        cases block with
        | none => exact .error _
        | some k =>
            exact (hblock k).bind fun a b hab => (required_inStep _ hab.hessian).bind fun _ _ _ =>
              .error _
      · rw [m.serve_incomplete block error hname, n.serve_incomplete block error hname]
        exact .error _
  | other name block =>
      cases block with
      | none => exact .error _
      | some k =>
          have hfound : FailsLike ((some k).mapM m.blockAt) ((some k).mapM n.blockAt) :=
            (hblock k).bind fun _ _ _ => .ok trivial
          exact hfound.bind fun _ _ _ => .error _
  | _ => exact (InStep.of_eq rfl).failsLike

end Callbacks

namespace Conduct

variable {σ τ Outcome : Type} {serve : σ → Request α → σ × Except (Error α) (Response α)}
  {serve' : τ → Request α → τ × Except (Error α) (Response α)}

omit [Scalar α] in
theorem run_script (hserve : Steady serve) (hserve' : Steady serve')
    (requests : List (Request α)) (ending : Except (Error α) Outcome) {s : σ} {t : τ}
    (h : ∀ request, FailsLike (serve s request).2 (serve' t request).2) :
    ((script requests ending).run serve s).2.1.map (·.1) =
        ((script requests ending).run serve' t).2.1.map (·.1) ∧
      ((script requests ending).run serve s).2.2 =
        ((script requests ending).run serve' t).2.2 := by
  induction requests generalizing s t with
  | nil => cases ending <;> exact ⟨rfl, rfl⟩
  | cons request rest ih =>
      have hanswer := h request
      have hrest := ih (s := (serve s request).1) (t := (serve' t request).1) fun other => by
        rw [hserve, hserve']
        exact h other
      simp only [script, run]
      generalize (serve s request).2 = response at hanswer ⊢
      generalize (serve' t request).2 = response' at hanswer ⊢
      cases hanswer with
      | ok _ => exact ⟨congrArg (request :: ·) hrest.1, hrest.2⟩
      | error e => exact ⟨rfl, rfl⟩

end Conduct

end NonlinearProgram
