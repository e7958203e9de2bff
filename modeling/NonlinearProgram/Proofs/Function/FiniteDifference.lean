import Mathlib.Algebra.BigOperators.Pi
import NonlinearProgram.Function.FiniteDifference
import NonlinearProgram.Proofs.Function.Formula

/-!
# Central differences of a formula

A central difference is asked of a function a step ahead of a point and a step behind it in each
variable. Where a formula has degree at most two in every variable, the differences of its values
are its gradient and those of its gradient its Hessian, whatever the step. Then lifting a function
that follows the formula by differences changes neither its gradients nor its Jacobian.
-/

namespace NonlinearProgram

open Exact

variable {n m : Nat}

namespace Formula

/-- A step ahead and a step behind in one variable differ in the value and in the gradient as the
slope and the curvature there say. -/
structure DifferencesExact (F : Formula n m) : Prop where
  value (k : Fin m) (x : Fin n → Rat) (j : Fin n) (t : Rat) :
    F.value k (x + Pi.single j t) - F.value k (x - Pi.single j t) = 2 * t * F.gradient k x j
  gradient (k : Fin m) (x : Fin n → Rat) (i j : Fin n) (t : Rat) :
    F.gradient k (x + Pi.single j t) i - F.gradient k (x - Pi.single j t) i =
      2 * t * F.hessian k x i j

end Formula

theorem sum_mul_sub_sum_mul (a x : Fin n → Rat) (j : Fin n) (t : Rat) :
    ∑ i, a i * (x + Pi.single j t : Fin n → Rat) i -
      ∑ i, a i * (x - Pi.single j t : Fin n → Rat) i = 2 * t * a j := by
  have hsingle : ∑ i, a i * (Pi.single j t : Fin n → Rat) i = a j * t := by
    simp [Pi.single_apply]
  simp only [Pi.add_apply, Pi.sub_apply, mul_add, mul_sub, Finset.sum_add_distrib,
    Finset.sum_sub_distrib, hsingle]
  ring

theorem Exact.two_eq : (2.0 : Exact) = finite 2 := by decide +kernel

theorem stepIn_fractions (j : Fin n) (t : Rat) :
    stepIn n j (finite t) = fractions (Pi.single j t) := by
  rw [stepIn, Matrix.map_range_eq_ofFn, fractions]
  refine congrArg List.ofFn (funext fun i => ?_)
  rw [Pi.single_apply, zero_eq, apply_ite finite]
  exact if_congr Fin.val_inj rfl rfl

theorem mapM_range_eq_ok {ε β : Type} {f : Nat → Except ε β} {g : Fin n → β}
    (h : ∀ j : Fin n, f j = .ok (g j)) : (List.range n).mapM f = .ok (List.ofFn g) := by
  rw [← List.map_coe_finRange_eq_range, List.ofFn_eq_map, mapM_eq_ok_iff,
    List.forall₂_map_left_iff, List.forall₂_map_right_iff, List.forall₂_same]
  exact fun j _ => h j

theorem Function.jacobian_eq_ofFn {f : Function Exact} {d : Datum Exact}
    {rows : Fin f.outputSize → List Exact}
    (h : ∀ k, f.gradient d (.whole k.val) = .ok (rows k)) :
    f.jacobian d = .ok ⟨f.inputSize, List.ofFn rows⟩ := by
  rw [jacobian_eq_mapM (hook_of_gradient (h ⟨0, f.outputSize_pos⟩)).1, mapM_range_eq_ok h]
  rfl

section Steps

variable {α : Type} [Scalar α]

def ahead (x : List α) (ε : α) (j : Nat) : List α :=
  List.zipWith (· + ·) x (stepIn x.length j ε)

def behind (x : List α) (ε : α) (j : Nat) : List α :=
  List.zipWith (· - ·) x (stepIn x.length j ε)

theorem centralDifferences_eq_ok {β γ : Type} {f : List α → Except (Error α) β} {x : List α} {ε : α}
    {a b : Fin n → β} (hx : x.length = n) (ha : ∀ j : Fin n, f (ahead x ε j) = .ok (a j))
    (hb : ∀ j : Fin n, f (behind x ε j) = .ok (b j)) (quotient : α → β → β → γ) :
    centralDifferences f quotient x (.number ε) =
      .ok (List.ofFn fun j => quotient (2.0 * ε) (a j) (b j)) := by
  have hstep : stepSize (.number ε) = .ok ε := rfl
  have hwidth : stepWidth (.number ε) = .ok (2.0 * ε) := rfl
  subst hx
  unfold centralDifferences
  refine mapM_range_eq_ok fun j => ?_
  have haheadj : f (List.zipWith (· + ·) x (stepIn x.length j ε)) = .ok (a j) := ha j
  have hbehindj : f (List.zipWith (· - ·) x (stepIn x.length j ε)) = .ok (b j) := hb j
  simp only [hstep, ok_bind, haheadj, hbehindj, hwidth]
  rfl

end Steps

theorem centralDifferences_fractions {β γ : Type} {f : List Exact → Except (Error Exact) β}
    {g : (Fin n → Rat) → β} (hf : ∀ y, f (fractions y) = .ok (g y))
    (quotient : Exact → β → β → γ) (x : Fin n → Rat) (t : Rat) :
    centralDifferences f quotient (fractions x) (.number (finite t)) =
      .ok (List.ofFn fun j =>
        quotient (finite (2 * t)) (g (x + Pi.single j t)) (g (x - Pi.single j t))) := by
  have hahead (j : Fin n) : ahead (fractions x) (finite t) j = fractions (x + Pi.single j t) := by
    rw [ahead, length_fractions, stepIn_fractions]
    exact zipWith_fractions finite_add_finite _ _
  have hbehind (j : Fin n) : behind (fractions x) (finite t) j = fractions (x - Pi.single j t) := by
    rw [behind, length_fractions, stepIn_fractions]
    exact zipWith_fractions finite_sub_finite _ _
  rw [← finite_mul_finite, ← two_eq]
  refine centralDifferences_eq_ok (length_fractions x) (fun j => ?_) (fun j => ?_) quotient
  · rw [hahead, hf]
  · rw [hbehind, hf]

theorem quotient_finite {a b d t : Rat} (ht : t ≠ 0) (h : a - b = 2 * t * d) :
    quotient (finite (2 * t)) (finite a) (finite b) = finite d := by
  have hwidth : 2 * t ≠ 0 := mul_ne_zero two_ne_zero ht
  rw [quotient, finite_sub_finite, finite_div_finite hwidth, h, mul_div_cancel_left₀ d hwidth]

namespace Tensor

variable {α : Type}

def number (v : α) : Tensor α := ⟨[], [v]⟩

theorem rowsOf_one (xs : List α) : rowsOf 1 xs.length xs = xs.map fun v => [v] := by
  induction xs with
  | nil => rfl
  | cons v xs ih => exact congrArg ([v] :: ·) ih

theorem part_vector {xs : List α} {k : Nat} {v : α} (h : xs[k]? = some v) :
    (vector xs).part (.whole k) = .ok (number v) := by
  have hrow : (rowsOf (capacity []) xs.length xs)[k]? = some [v] := by
    change (rowsOf 1 xs.length xs)[k]? = _
    rw [rowsOf_one, List.getElem?_map, h]
    rfl
  simp only [part, vector, Int.natCast_nonneg, if_true, Int.toNat_natCast, hrow]
  rfl

theorem stack_number (xs : List α) : stack (xs.map number) = vector xs := by
  have hentries : (xs.map number).flatMap (·.entries) = xs := by
    rw [List.flatMap_map]
    exact List.flatMap_singleton' xs
  cases xs with
  | nil => rfl
  | cons v xs =>
      change Tensor.mk [(xs.map number).length + 1] (((v :: xs).map number).flatMap _) = _
      rw [hentries, List.length_map]
      rfl

end Tensor

theorem Function.component_eq_ok {α : Type} [Scalar α] {f : Function α} {x values : List α}
    (h : f.compute (.vector x) = .ok values) {k : Nat} {v : α} (hv : values[k]? = some v) :
    f.component (.whole k) x = .ok (.number v) := by
  rw [component, h, ok_bind]
  exact Tensor.part_vector hv

namespace Function.Follows

variable {f : Function Exact} {F : Formula n m} {t : Rat}

theorem component_fractions (h : f.Follows F) (k : Fin m) (x : Fin n → Rat) :
    f.component (.whole k.val) (fractions x) = .ok (.number (finite (F.value k x))) :=
  component_eq_ok (h.compute x) (getElem?_fractions (fun k => F.value k x) k)

theorem differenceGradient_eq (h : f.Follows F) (hF : F.DifferencesExact) (ht : t ≠ 0) (k : Fin m)
    (x : Fin n → Rat) :
    differenceGradient f (fractions x) (.whole k.val) (.number (finite t)) =
      .ok (.vector (fractions (F.gradient k x))) := by
  have hquotients (j : Fin n) : quotients (finite (2 * t))
      (.number (finite (F.value k (x + Pi.single j t))))
      (.number (finite (F.value k (x - Pi.single j t)))) =
        .number (finite (F.gradient k x j)) := by
    rw [quotients]
    exact congrArg Tensor.number (quotient_finite ht (hF.value k x j t))
  rw [differenceGradient, centralDifferences_fractions (h.component_fractions k), ok_bind]
  simp only [hquotients]
  rw [← Tensor.stack_number, fractions, List.map_ofFn]
  rfl

theorem differenceRows_eq (h : f.Follows F) (hF : F.DifferencesExact) (ht : t ≠ 0) (k : Fin m)
    (x : Fin n → Rat) :
    differenceRows f (fractions x) (.whole k.val) (.number (finite t)) =
      .ok (Matrix.ofFractions (F.hessian k x)).transpose.rows := by
  have hquotients (j : Fin n) : List.zipWith (quotient (finite (2 * t)))
      (fractions (F.gradient k (x + Pi.single j t)))
      (fractions (F.gradient k (x - Pi.single j t))) =
        fractions fun i => F.hessian k x i j := by
    refine List.ext_getElem (by simp) fun i hi hi' => ?_
    rw [length_fractions] at hi'
    simp only [fractions, List.getElem_zipWith, List.getElem_ofFn]
    exact quotient_finite ht (hF.gradient k x ⟨i, hi'⟩ j t)
  rw [differenceRows, centralDifferences_fractions (h.gradient k), Matrix.transpose_ofFractions,
    Matrix.rows_ofFractions]
  simp only [hquotients]

theorem gradient_finiteDifferences (h : f.Follows F) (hF : F.DifferencesExact) (ht : t ≠ 0)
    {d : Datum Exact} {x : Fin n → Rat} (hd : Tensor.ofDatum d = .ok (.vector (fractions x)))
    (k : Fin m) : (f.finiteDifferences (.number (finite t))).gradient d (.whole k.val) =
      .ok (fractions (F.gradient k x)) := by
  obtain ⟨rfl, rfl⟩ := And.intro h.inputSize h.outputSize
  have hargument : (f.finiteDifferences (.number (finite t))).checkArgument d =
      .ok (fractions x) := checkArgument_eq_ok_iff.2 ⟨hd, length_fractions x⟩
  have hindex : (f.finiteDifferences (.number (finite t))).checkIndex (.whole k.val) = .ok () :=
    checkIndex_whole k.isLt
  unfold Function.gradient
  simp only [finiteDifferences, Hooks.gradient?] at hargument hindex ⊢
  rw [hargument, ok_bind, hindex, ok_bind, h.differenceGradient_eq hF ht]
  exact if_pos (length_fractions _)

end Function.Follows

end NonlinearProgram
