import NonlinearProgram.Benchmark.HockSchittkowski
import NonlinearProgram.Proofs.Function.FiniteDifference

/-!
# The derivatives of Hock-Schittkowski problem 71

The objective, the product and the sum of squares of problem 71 are polynomials of degree at most
two in every variable, so the differences of their values and gradients are exact. That the
derivatives in closed form are theirs is read off the differences.
-/

namespace NonlinearProgram.HockSchittkowski

open Exact

/-- The value, the gradient and the Hessian of `a * d * (a + b + c) + c`. -/
def objectiveFormula : Formula 4 1 where
  value _ x := x 0 * x 3 * (x 0 + x 1 + x 2) + x 2
  gradient _ x := ![x 0 * x 3 + x 3 * (x 0 + x 1 + x 2), x 0 * x 3, x 0 * x 3 + 1,
    x 0 * (x 0 + x 1 + x 2)]
  hessian _ x := ![![2 * x 3, x 3, x 3, 2 * x 0 + x 1 + x 2], ![x 3, 0, 0, x 0],
    ![x 3, 0, 0, x 0], ![2 * x 0 + x 1 + x 2, x 0, x 0, 0]]

def productFormula : Formula 4 1 where
  value _ x := x 0 * x 1 * x 2 * x 3
  gradient _ x := ![x 1 * x 2 * x 3, x 0 * x 2 * x 3, x 0 * x 1 * x 3, x 0 * x 1 * x 2]
  hessian _ x := ![![0, x 2 * x 3, x 1 * x 3, x 1 * x 2], ![x 2 * x 3, 0, x 0 * x 3, x 0 * x 2],
    ![x 1 * x 3, x 0 * x 3, 0, x 0 * x 1], ![x 1 * x 2, x 0 * x 2, x 0 * x 1, 0]]

def squaresFormula : Formula 4 1 where
  value _ x := ∑ i, x i * x i
  gradient _ x i := 2 * x i
  hessian _ _ i j := 2 * if i = j then 1 else 0

section Differences

variable (x : Fin 4 → Rat) (i j : Fin 4) (t : Rat)

theorem add_single_apply :
    (x + Pi.single j t : Fin 4 → Rat) i = x i + if i = j then t else 0 := by
  rw [Pi.add_apply, Pi.single_apply]

theorem sub_single_apply :
    (x - Pi.single j t : Fin 4 → Rat) i = x i - if i = j then t else 0 := by
  rw [Pi.sub_apply, Pi.single_apply]

end Differences

-- Once the variables are told apart, every difference is a polynomial identity.
theorem differencesExact_objective : objectiveFormula.DifferencesExact where
  value k x j t := by
    match j with
    | 0 | 1 | 2 | 3 =>
        simp only [objectiveFormula, add_single_apply, sub_single_apply, Fin.reduceEq, if_true,
          if_false, Matrix.cons_val]
        ring
  gradient k x i j t := by
    match i, j with
    | 0, 0 | 0, 1 | 0, 2 | 0, 3 | 1, 0 | 1, 1 | 1, 2 | 1, 3
    | 2, 0 | 2, 1 | 2, 2 | 2, 3 | 3, 0 | 3, 1 | 3, 2 | 3, 3 =>
        simp only [objectiveFormula, add_single_apply, sub_single_apply, Fin.reduceEq, if_true,
          if_false, Matrix.cons_val]
        ring

theorem differencesExact_product : productFormula.DifferencesExact where
  value k x j t := by
    match j with
    | 0 | 1 | 2 | 3 =>
        simp only [productFormula, add_single_apply, sub_single_apply, Fin.reduceEq, if_true,
          if_false, Matrix.cons_val]
        ring
  gradient k x i j t := by
    match i, j with
    | 0, 0 | 0, 1 | 0, 2 | 0, 3 | 1, 0 | 1, 1 | 1, 2 | 1, 3
    | 2, 0 | 2, 1 | 2, 2 | 2, 3 | 3, 0 | 3, 1 | 3, 2 | 3, 3 =>
        simp only [productFormula, add_single_apply, sub_single_apply, Fin.reduceEq, if_true,
          if_false, Matrix.cons_val]
        ring

theorem differencesExact_squares : squaresFormula.DifferencesExact where
  value k x j t := by
    match j with
    | 0 | 1 | 2 | 3 =>
        simp only [squaresFormula, Fin.sum_univ_four, add_single_apply, sub_single_apply,
          Fin.reduceEq, if_true, if_false]
        ring
  gradient k x i j t := by
    simp only [squaresFormula, add_single_apply, sub_single_apply]
    by_cases h : i = j
    · rw [if_pos h, if_pos h]
      ring
    · rw [if_neg h, if_neg h]
      ring

theorem fractions_four (x : Fin 4 → Rat) :
    fractions x = [finite (x 0), finite (x 1), finite (x 2), finite (x 3)] := rfl

theorem follows_closedForm {family name : String} {value : List Exact → Exact}
    {gradient : List Exact → List Exact} {hessian : List Exact → List (List Exact)}
    {F : Formula 4 1} (hvalue : ∀ x, value (fractions x) = finite (F.value 0 x))
    (hgradient : ∀ x, gradient (fractions x) = fractions (F.gradient 0 x))
    (hhessian : ∀ x, hessian (fractions x) = (Matrix.ofFractions (F.hessian 0 x)).rows) :
    (closedForm family name value gradient hessian).Follows F := by
  -- There is one output, so an index is zero.
  refine Function.HooksFollow.follows ⟨fun x => ?_, fun k x => ⟨_, rfl, ?_⟩,
    fun k x => ⟨_, rfl, ?_⟩⟩ rfl rfl
  · have hsingle : fractions (fun k => F.value k x) = [finite (F.value 0 x)] := rfl
    rw [hsingle, ← hvalue]
    rfl
  · rw [Subsingleton.elim k 0, hgradient]
  · rw [Subsingleton.elim k 0, hhessian]
    rfl

theorem follows_objective : (objective : Function Exact).Follows objectiveFormula := by
  refine follows_closedForm (fun x => rfl) (fun x => ?_) fun x => ?_
  · rw [fractions_four, objectiveGradient, one_eq]
    rfl
  · rw [fractions_four, objectiveHessian, two_eq, zero_eq]
    rfl

theorem follows_product : (product : Function Exact).Follows productFormula := by
  refine follows_closedForm (fun x => rfl) (fun x => rfl) fun x => ?_
  rw [fractions_four, productHessian, zero_eq]
  rfl

theorem follows_squares : (squares : Function Exact).Follows squaresFormula := by
  refine follows_closedForm (fun x => dot_fractions x x) (fun x => ?_) fun x => ?_
  · have hdouble (a : Rat) : (2.0 : Exact) * finite a = finite (2 * a) := by
      rw [two_eq, finite_mul_finite]
    exact map_fractions hdouble x
  · rw [squaresHessian, Matrix.generate_eq_ofFn]
    refine congrArg Matrix.rows (congrArg Matrix.ofFn (funext fun i => funext fun j => ?_))
    rw [two_eq, one_eq, zero_eq, ← apply_ite finite, finite_mul_finite]
    exact congrArg (fun q => finite (2 * q)) (if_congr Fin.val_inj rfl rfl)

end NonlinearProgram.HockSchittkowski
