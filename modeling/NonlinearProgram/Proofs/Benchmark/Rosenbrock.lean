import Mathlib.Algebra.MvPolynomial.Eval
import Mathlib.Tactic.LinearCombination
import NonlinearProgram.Benchmark.Rosenbrock
import NonlinearProgram.Proofs.Function.Formula

/-!
# The derivatives of the chained Rosenbrock function

A term of the function takes two neighbouring variables, and a variable is in the term after it and
in the term before it. So the gradient is a sum over the terms of what each gives to its two
variables, and the Hessian of what each gives to their two rows and columns. The recursion that
carries a contribution along the variables adds up to that sum, and so does the table of the entries
on the diagonal and beside it. What the first order misses of a term is the square of the step times
a polynomial, and sums of these are again.
-/

namespace NonlinearProgram

open Exact

/-- A quantity that is a polynomial in the variables of a point and in a step. -/
def IsPolynomial {n : Nat} (r : (Fin n → Rat) → Rat → Rat) : Prop :=
  ∃ P : MvPolynomial (Option (Fin n)) Rat, ∀ x t, r x t = P.eval fun v => v.elim t x

namespace IsPolynomial

variable {n : Nat} {r s : (Fin n → Rat) → Rat → Rat}

theorem const (c : Rat) : IsPolynomial fun (_ : Fin n → Rat) _ => c :=
  ⟨.C c, fun x t => by rw [MvPolynomial.eval_C]⟩

theorem entry (j : Fin n) : IsPolynomial fun x _ => x j :=
  ⟨.X (some j), fun x t => by rw [MvPolynomial.eval_X, Option.elim_some]⟩

theorem step : IsPolynomial fun (_ : Fin n → Rat) t => t :=
  ⟨.X none, fun x t => by rw [MvPolynomial.eval_X, Option.elim_none]⟩

theorem add (hr : IsPolynomial r) (hs : IsPolynomial s) :
    IsPolynomial fun x t => r x t + s x t := by
  obtain ⟨P, hP⟩ := hr
  obtain ⟨Q, hQ⟩ := hs
  exact ⟨P + Q, fun x t => by simp only [hP, hQ, map_add]⟩

theorem sub (hr : IsPolynomial r) (hs : IsPolynomial s) :
    IsPolynomial fun x t => r x t - s x t := by
  obtain ⟨P, hP⟩ := hr
  obtain ⟨Q, hQ⟩ := hs
  exact ⟨P - Q, fun x t => by simp only [hP, hQ, map_sub]⟩

theorem mul (hr : IsPolynomial r) (hs : IsPolynomial s) :
    IsPolynomial fun x t => r x t * s x t := by
  obtain ⟨P, hP⟩ := hr
  obtain ⟨Q, hQ⟩ := hs
  exact ⟨P * Q, fun x t => by simp only [hP, hQ, map_mul]⟩

theorem sum {m : Nat} {rs : Fin m → (Fin n → Rat) → Rat → Rat}
    (h : ∀ i, IsPolynomial (rs i)) : IsPolynomial fun x t => ∑ i, rs i x t := by
  choose P hP using h
  exact ⟨∑ i, P i, fun x t => by simp only [hP, map_sum]⟩

end IsPolynomial

/-- A rate of change along a variable: what it misses of the change is the square of the step times
a polynomial. -/
def IsSlope {n : Nat} (f slope : (Fin n → Rat) → Rat) (j : Fin n) : Prop :=
  ∃ r, IsPolynomial r ∧ ∀ x t, f (x + Pi.single j t) - f x - t * slope x = t ^ 2 * r x t

namespace Rosenbrock

namespace Term

def value (h k : Rat) : Rat := 100 * (k - h * h) ^ 2 + (1 - h) ^ 2

def slopeHere (h k : Rat) : Rat := -400 * h * (k - h * h) - 2 * (1 - h)

def slopeNext (h k : Rat) : Rat := 200 * (k - h * h)

def curvature (h k : Rat) : Rat := 1200 * (h * h) - 400 * k + 2

/-- What the first order misses of a term, where its variables move at the rates `a` and `b`. -/
def valueRest (a b h k t : Rat) : Rat :=
  100 * ((b - 2 * a * h - a * a * t) * (b - 2 * a * h - a * a * t) - 2 * a * a * (k - h * h)) +
    a * a

def slopeRest (a b h t : Rat) : Rat := -400 * (a * b - 3 * a * a * h - a * a * a * t)

theorem value_add (h k a b t : Rat) :
    value (h + a * t) (k + b * t) - value h k - t * (a * slopeHere h k + b * slopeNext h k) =
      t ^ 2 * valueRest a b h k t := by
  unfold value slopeHere slopeNext valueRest
  ring

theorem slopeHere_add (h k a b t : Rat) :
    slopeHere (h + a * t) (k + b * t) - slopeHere h k - t * (a * curvature h k + b * (-400 * h)) =
      t ^ 2 * slopeRest a b h t := by
  unfold slopeHere curvature slopeRest
  ring

theorem slopeNext_add (h k a b t : Rat) :
    slopeNext (h + a * t) (k + b * t) - slopeNext h k - t * (a * (-400 * h) + b * 200) =
      t ^ 2 * (-200 * (a * a)) := by
  unfold slopeNext
  ring

section Rest

open IsPolynomial

variable {n : Nat} (a b : Rat) (i j : Fin n)

theorem isPolynomial_valueRest :
    IsPolynomial fun (x : Fin n → Rat) t => valueRest a b (x i) (x j) t := by
  have hslope : IsPolynomial fun (x : Fin n → Rat) t => b - 2 * a * x i - a * a * t :=
    ((const b).sub ((const (2 * a)).mul (entry i))).sub ((const (a * a)).mul step)
  have hgap : IsPolynomial fun (x : Fin n → Rat) _ => x j - x i * x i :=
    (entry j).sub ((entry i).mul (entry i))
  exact ((const 100).mul ((hslope.mul hslope).sub ((const (2 * a * a)).mul hgap))).add
    (const (a * a))

theorem isPolynomial_slopeRest :
    IsPolynomial fun (x : Fin n → Rat) t => slopeRest a b (x i) t :=
  (const (-400)).mul (((const (a * b)).sub ((const (3 * a * a)).mul (entry i))).sub
    ((const (a * a * a)).mul step))

end Rest

theorem value_nonneg (h k : Rat) : 0 ≤ value h k := by
  unfold value
  positivity

theorem value_eq_zero_iff (h k : Rat) : value h k = 0 ↔ h = 1 ∧ k = 1 := by
  constructor
  · intro hzero
    have hhere : (1 - h) ^ 2 = 0 := by
      have hgap := sq_nonneg (k - h * h)
      have hsq := sq_nonneg (1 - h)
      unfold value at hzero
      linarith
    have hh : h = 1 := (sub_eq_zero.1 (pow_eq_zero_iff two_ne_zero |>.1 hhere)).symm
    subst hh
    have hk : (k - 1 * 1) ^ 2 = 0 := by
      unfold value at hzero
      linarith
    refine ⟨rfl, ?_⟩
    linarith [pow_eq_zero_iff two_ne_zero |>.1 hk]
  · rintro ⟨rfl, rfl⟩
    norm_num [value]

end Term

variable {m : Nat}

def here (i : Fin m) (j : Fin (m + 1)) : Rat := if i.val = j.val then 1 else 0

def next (i : Fin m) (j : Fin (m + 1)) : Rat := if i.val + 1 = j.val then 1 else 0

def formula (m : Nat) : Formula (m + 1) 1 where
  value _ x := ∑ i : Fin m, Term.value (x i.castSucc) (x i.succ)
  gradient _ x j := ∑ i : Fin m, (here i j * Term.slopeHere (x i.castSucc) (x i.succ) +
    next i j * Term.slopeNext (x i.castSucc) (x i.succ))
  hessian _ x r c := ∑ i : Fin m,
    (here i r * (here i c * Term.curvature (x i.castSucc) (x i.succ) +
        next i c * (-400 * x i.castSucc)) +
      next i r * (here i c * (-400 * x i.castSucc) + next i c * 200))

section Formula

variable (k : Fin 1) (x : Fin (m + 1) → Rat)

theorem step_castSucc (i : Fin m) (j : Fin (m + 1)) (t : Rat) :
    (x + Pi.single j t : Fin (m + 1) → Rat) i.castSucc = x i.castSucc + here i j * t := by
  rw [Pi.add_apply, Pi.single_apply, here, ite_mul, Rat.one_mul, Rat.zero_mul]
  exact congrArg (x i.castSucc + ·) (if_congr Fin.ext_iff rfl rfl)

theorem step_succ (i : Fin m) (j : Fin (m + 1)) (t : Rat) :
    (x + Pi.single j t : Fin (m + 1) → Rat) i.succ = x i.succ + next i j * t := by
  rw [Pi.add_apply, Pi.single_apply, next, ite_mul, Rat.one_mul, Rat.zero_mul]
  exact congrArg (x i.succ + ·) (if_congr Fin.ext_iff rfl rfl)

theorem isSlope_gradient (j : Fin (m + 1)) :
    IsSlope ((formula m).value k) (fun x => (formula m).gradient k x j) j := by
  refine ⟨_, IsPolynomial.sum fun i => Term.isPolynomial_valueRest (here i j) (next i j)
    i.castSucc i.succ, fun x t => ?_⟩
  simp only [formula, step_castSucc, step_succ, Finset.mul_sum, ← Finset.sum_sub_distrib]
  exact Finset.sum_congr rfl fun i _ => Term.value_add _ _ _ _ _

theorem isSlope_hessian (r c : Fin (m + 1)) :
    IsSlope (fun x => (formula m).gradient k x r) (fun x => (formula m).hessian k x r c) c := by
  refine ⟨_, IsPolynomial.sum fun i =>
    ((IsPolynomial.const (here i r)).mul
      (Term.isPolynomial_slopeRest (here i c) (next i c) i.castSucc)).add
      (IsPolynomial.const (next i r * (-200 * (here i c * here i c)))), fun x t => ?_⟩
  simp only [formula, step_castSucc, step_succ, Finset.mul_sum, ← Finset.sum_sub_distrib]
  refine Finset.sum_congr rfl fun i _ => ?_
  have hhere := Term.slopeHere_add (x i.castSucc) (x i.succ) (here i c) (next i c) t
  have hnext := Term.slopeNext_add (x i.castSucc) (x i.succ) (here i c) (next i c) t
  linear_combination here i r * hhere + next i r * hnext

theorem hessian_comm (r c : Fin (m + 1)) :
    (formula m).hessian k x r c = (formula m).hessian k x c r := by
  simp only [formula]
  refine Finset.sum_congr rfl fun i _ => ?_
  ring

theorem value_nonneg : 0 ≤ (formula m).value k x :=
  Finset.sum_nonneg fun _ _ => Term.value_nonneg _ _

theorem value_eq_zero_iff (hm : 0 < m) : (formula m).value k x = 0 ↔ x = 1 := by
  have hsum : (formula m).value k x = 0 ↔ ∀ i : Fin m, x i.castSucc = 1 ∧ x i.succ = 1 := by
    simp only [formula, Finset.sum_eq_zero_iff_of_nonneg fun i _ => Term.value_nonneg _ _,
      Finset.mem_univ, true_imp_iff, Term.value_eq_zero_iff]
  rw [hsum]
  constructor
  · intro h
    funext j
    cases j using Fin.cases with
    | zero => exact (h ⟨0, hm⟩).1
    | succ i => exact (h i).2
  · rintro rfl i
    exact ⟨rfl, rfl⟩

theorem gradient_one (j : Fin (m + 1)) : (formula m).gradient k 1 j = 0 := by
  simp only [formula]
  refine Finset.sum_eq_zero fun i _ => ?_
  norm_num [Term.slopeHere, Term.slopeNext]

end Formula

section Terms

variable (a b : Rat)

theorem gap_finite : gap (finite a) (finite b) = finite (b - a * a) := by
  rw [gap, finite_mul_finite, finite_sub_finite]

theorem term_finite : (100.0 * (gap (finite a) (finite b) * gap (finite a) (finite b)) +
    (1.0 - finite a) * (1.0 - finite a) : Exact) = finite (Term.value a b) := by
  simp only [gap_finite, ofScientific_eq, finite_sub_finite, finite_mul_finite,
    finite_add_finite, Term.value]
  congr 1
  norm_num
  ring

theorem slopeHere_finite :
    slopeHere (finite a) (finite b) = finite (Term.slopeHere a b) := by
  simp only [slopeHere, gap_finite, ofScientific_eq, neg_finite, finite_sub_finite,
    finite_mul_finite, Term.slopeHere]
  norm_num

theorem slopeNext_finite :
    slopeNext (finite a) (finite b) = finite (Term.slopeNext a b) := by
  simp only [slopeNext, gap_finite, ofScientific_eq, finite_mul_finite, Term.slopeNext]
  norm_num

theorem curvature_finite :
    curvature (finite a) (finite b) = finite (Term.curvature a b) := by
  have hpower : Scalar.power (finite a) 2 = finite (a * a) := rfl
  simp only [curvature, hpower, ofScientific_eq, finite_sub_finite, finite_mul_finite,
    finite_add_finite, Term.curvature]
  norm_num

end Terms

theorem terms_fractions (x : Fin (m + 1) → Rat) :
    terms (fractions x) = fractions fun i : Fin m => Term.value (x i.castSucc) (x i.succ) := by
  induction m with
  | zero => rfl
  | succ m ih =>
      have htail := ih fun i => x i.succ
      rw [fractions_succ] at htail
      rw [fractions_succ x, fractions_succ fun i => x i.succ, terms, term_finite, htail]
      exact (fractions_succ fun i : Fin (m + 1) => Term.value (x i.castSucc) (x i.succ)).symm

theorem value_fractions (k : Fin 1) (x : Fin (m + 1) → Rat) :
    value (fractions x) = finite ((formula m).value k x) := by
  rw [value, terms_fractions, pairwiseSum_fractions]
  rfl

theorem gradient_zero (k : Fin 1) (x : Fin (m + 2) → Rat) :
    (formula (m + 1)).gradient k x 0 = Term.slopeHere (x 0) (x 1) := by
  simp [formula, Fin.sum_univ_succ, here, next]

/-- The other variables are in the terms after the first, and the second is in that as well. -/
theorem gradient_succ (k : Fin 1) (x : Fin (m + 2) → Rat) (j : Fin (m + 1)) :
    (formula (m + 1)).gradient k x j.succ = (formula m).gradient k (fun i => x i.succ) j +
      if j = 0 then Term.slopeNext (x 0) (x 1) else 0 := by
  have hfirst : here (0 : Fin (m + 1)) j.succ = 0 := if_neg (Nat.succ_ne_zero j.val).symm
  have hsecond : next (0 : Fin (m + 1)) j.succ = if j = 0 then 1 else 0 := by
    refine if_congr ?_ rfl rfl
    rw [Fin.ext_iff, Fin.val_succ, Fin.val_zero]
    omega
  have hhere (i : Fin m) : here i.succ j.succ = here i j := by simp [here]
  have hnext (i : Fin m) : next i.succ j.succ = next i j := by simp [next]
  simp only [formula, Fin.sum_univ_succ, hfirst, hsecond, hhere, hnext, Fin.castSucc_zero,
    Fin.castSucc_succ, Fin.succ_zero_eq_one, boole_mul]
  ring

theorem gradientFrom_fractions (k : Fin 1) (carried : Option Rat) (x : Fin (m + 1) → Rat) :
    gradientFrom (carried.map finite) (fractions x) =
      fractions fun j => (formula m).gradient k x j + if j = 0 then carried.getD 0 else 0 := by
  induction m generalizing carried with
  | zero =>
      have hlast : (0.0 : Exact) + (carried.map finite).getD 0.0 = finite (0 + carried.getD 0) := by
        rw [zero_eq, Option.getD_map, finite_add_finite]
      exact congrArg (fun v => [v]) hlast
  | succ m ih =>
      have htail := ih (some (Term.slopeNext (x 0) (x 1))) fun i => x i.succ
      rw [fractions_succ] at htail
      rw [fractions_succ x, fractions_succ fun i => x i.succ, gradientFrom.eq_def]
      simp only [slopeHere_finite, slopeNext_finite]
      rw [fractions_succ]
      refine congrArg₂ List.cons ?_ (htail.trans (congrArg fractions (funext fun j => ?_)))
      · rw [gradient_zero, if_pos rfl]
        cases carried with
        | none => exact congrArg finite (Rat.add_zero _).symm
        | some before => rfl
      · rw [gradient_succ, if_neg (Fin.succ_ne_zero j), Rat.add_zero]
        rfl

theorem gradient_fractions (k : Fin 1) (x : Fin (m + 1) → Rat) :
    gradient (fractions x) = fractions ((formula m).gradient k x) := by
  refine (gradientFrom_fractions k none x).trans (congrArg fractions (funext fun j => ?_))
  rw [Option.getD_none, ite_self, Rat.add_zero]

theorem sum_here (f : Fin m → Rat) (r : Fin (m + 1)) :
    ∑ i, here i r * f i = if h : r.val < m then f ⟨r.val, h⟩ else 0 := by
  split
  · next h =>
      rw [Finset.sum_eq_single ⟨r.val, h⟩]
      · rw [here, if_pos rfl, Rat.one_mul]
      · intro i _ hi
        rw [here, if_neg (fun heq => hi (Fin.ext heq)), Rat.zero_mul]
      · exact fun hmem => absurd (Finset.mem_univ _) hmem
  · next h =>
      refine Finset.sum_eq_zero fun i _ => ?_
      rw [here, if_neg (by omega), Rat.zero_mul]

theorem sum_next (f : Fin m → Rat) (r : Fin (m + 1)) :
    ∑ i, next i r * f i = if h : 0 < r.val then f ⟨r.val - 1, by omega⟩ else 0 := by
  split
  · next h =>
      rw [Finset.sum_eq_single ⟨r.val - 1, by omega⟩]
      · rw [next, if_pos (Nat.sub_add_cancel h), Rat.one_mul]
      · intro i _ hi
        rw [next, if_neg (fun heq => hi (Fin.ext (by simp only; omega))), Rat.zero_mul]
      · exact fun hmem => absurd (Finset.mem_univ _) hmem
  · next h =>
      refine Finset.sum_eq_zero fun i _ => ?_
      rw [next, if_neg (by omega), Rat.zero_mul]

theorem sum_here_mul (u w : Fin m → Rat) (r c : Fin (m + 1)) :
    ∑ i, here i r * (here i c * u i + next i c * w i) =
      if r.val = c.val then if h : r.val < m then u ⟨r.val, h⟩ else 0
      else if h : r.val + 1 = c.val then w ⟨r.val, by omega⟩ else 0 := by
  rw [sum_here]
  by_cases hsame : r.val = c.val
  · rw [if_pos hsame]
    simp [here, next, hsame]
  · rw [if_neg hsame]
    by_cases hbeside : r.val + 1 = c.val
    · simp [here, next, hsame, hbeside, show r.val < m by omega]
    · simp [here, next, hsame, hbeside]

theorem sum_next_mul (w v : Fin m → Rat) (r c : Fin (m + 1)) :
    ∑ i, next i r * (here i c * w i + next i c * v i) =
      if r.val = c.val then if h : 0 < r.val then v ⟨r.val - 1, by omega⟩ else 0
      else if h : c.val + 1 = r.val then w ⟨c.val, by omega⟩ else 0 := by
  rw [sum_next]
  by_cases hfirst : 0 < r.val
  · simp only [dif_pos hfirst, here, next, Nat.sub_add_cancel hfirst]
    by_cases hsame : r.val = c.val
    · rw [if_pos hsame, if_neg (by omega), if_pos hsame, Rat.zero_mul, Rat.one_mul, Rat.zero_add]
    · by_cases hbeside : c.val + 1 = r.val
      · have hterm : (⟨r.val - 1, by omega⟩ : Fin m) = ⟨c.val, by omega⟩ :=
          Fin.ext (Nat.sub_eq_of_eq_add hbeside.symm)
        rw [if_pos (by omega), if_neg hsame, if_neg hsame, dif_pos hbeside, hterm, Rat.one_mul,
          Rat.zero_mul, Rat.add_zero]
      · rw [if_neg (by omega), if_neg hsame, if_neg hsame, dif_neg hbeside, Rat.zero_mul,
          Rat.zero_mul, Rat.add_zero]
  · rw [dif_neg hfirst, dif_neg hfirst, dif_neg (by omega), ite_self]

theorem hessian_apply (k : Fin 1) (x : Fin (m + 1) → Rat) (r c : Fin (m + 1)) :
    (formula m).hessian k x r c =
      if r.val = c.val then (if r.val = 0 then 0 else 200) +
        (if h : r.val < m then Term.curvature (x r) (x ⟨r.val + 1, Nat.succ_lt_succ h⟩) else 0)
      else if r.val + 1 = c.val then -400 * x r
      else if c.val + 1 = r.val then -400 * x c
      else 0 := by
  simp only [formula, Finset.sum_add_distrib, sum_here_mul, sum_next_mul]
  by_cases hsame : r.val = c.val
  · simp only [if_pos hsame]
    by_cases hfirst : r.val = 0
    · rw [if_pos hfirst, dif_neg (show ¬0 < r.val by omega), Rat.add_zero, Rat.zero_add]
      rfl
    · rw [if_neg hfirst, dif_pos (show 0 < r.val by omega), Rat.add_comm]
      rfl
  · simp only [if_neg hsame]
    by_cases habove : r.val + 1 = c.val
    · rw [dif_pos habove, if_pos habove, dif_neg (by omega), Rat.add_zero]
      rfl
    · rw [dif_neg habove, if_neg habove, Rat.zero_add]
      by_cases hbelow : c.val + 1 = r.val
      · rw [dif_pos hbelow, if_pos hbelow]
        rfl
      · rw [dif_neg hbelow, if_neg hbelow]

theorem hessian_eq_zero {k : Fin 1} {x : Fin (m + 1) → Rat} {r c : Fin (m + 1)}
    (h : r.val + 1 < c.val ∨ c.val + 1 < r.val) : (formula m).hessian k x r c = 0 := by
  rw [hessian_apply, if_neg (by omega), if_neg (by omega), if_neg (by omega)]

theorem hessianEntry_fractions (k : Fin 1) (x : Fin (m + 1) → Rat) (r c : Fin (m + 1)) :
    hessianEntry (fractions x) r c = finite ((formula m).hessian k x r c) := by
  have hcross (a : Rat) : (-400.0 : Exact) * finite a = finite (-400 * a) := by
    rw [ofScientific_eq, neg_finite, finite_mul_finite]
    norm_num
  have hbefore : (if r.val = 0 then 0.0 else 0.0 + 200.0 : Exact) =
      finite (if r.val = 0 then 0 else 200) := by
    rw [zero_eq, ofScientific_eq 2000, finite_add_finite, apply_ite finite]
    norm_num
  rw [hessian_apply, hessianEntry, hbefore, getElem?_fractions, getElem?_fractions]
  by_cases hsame : r.val = c.val
  · rw [if_pos hsame, if_pos hsame]
    by_cases hlast : r.val < m
    · have hnext := getElem?_fractions x ⟨r.val + 1, Nat.succ_lt_succ hlast⟩
      rw [dif_pos hlast]
      simp only [hnext, curvature_finite, finite_add_finite]
    · have hnone : (fractions x)[r.val + 1]? = none := by
        rw [List.getElem?_eq_none]
        rw [length_fractions]
        omega
      rw [dif_neg hlast, Rat.add_zero]
      simp only [hnone]
  · rw [if_neg hsame, if_neg hsame, apply_ite finite, apply_ite finite, Option.map_some,
      Option.map_some, Option.getD_some, Option.getD_some, hcross, hcross, zero_eq]

theorem hessian_fractions (k : Fin 1) (x : Fin (m + 1) → Rat) :
    hessian (fractions x) = Matrix.ofFractions ((formula m).hessian k x) := by
  rw [hessian, length_fractions, Matrix.generate_eq_ofFn]
  exact congrArg Matrix.ofFn (funext fun r => funext fun c => hessianEntry_fractions k x r c)

def hooks : Hooks Exact :=
  .twiceDifferentiable
    (fun x => .ok (.tensor (.vector [value x])))
    (fun x _ => .ok (.tensor (.vector (gradient x))))
    (fun x _ => .ok (.tensor (hessian x).toTensor))

theorem hooksFollow : Function.HooksFollow hooks (formula m) where
  compute x := by
    rw [hooks, Hooks.compute, value_fractions 0]
    rfl
  gradient k x := ⟨_, rfl, by rw [gradient_fractions k]⟩
  hessian k x := ⟨_, rfl, by rw [hessian_fractions k]⟩

theorem exists_function_follows (hm : 1 ≤ m) :
    ∃ g : Function Exact, function (.whole (m + 1 : Nat)) = .ok g ∧ g.Follows (formula m) := by
  have henough : isBelowTwo (.whole (m + 1 : Nat) : Datum Exact) = .ok false :=
    congrArg Except.ok (decide_eq_false (by omega))
  have hfunction : (function (.whole (m + 1 : Nat)) : Except (Error Exact) (Function Exact)) =
      Function.declare "Rosenbrock" (.text "rosenbrock") (.whole (m + 1 : Nat)) (.whole 1)
        hooks := by
    rw [function, henough]
    rfl
  obtain ⟨g, hg, -⟩ := Function.exists_declare_eq_ok "Rosenbrock" (.text "rosenbrock" : Datum Exact)
    (m + 1) le_rfl hooks
  exact ⟨g, hfunction.trans hg, hooksFollow.of_declare hg⟩

/-- The gradient and the Hessian of the function in any dimension from two on are those of its
value. The Hessian is symmetric, with nothing but the diagonal and the entries beside it. The value
is nowhere negative and zero at the ones alone, where the gradient vanishes. -/
theorem exists_follows_isSlope {n : Nat} (hn : 2 ≤ n) :
    ∃ (g : Function Exact) (F : Formula n 1), function (.whole n) = .ok g ∧ g.Follows F ∧
      (∀ j, IsSlope (F.value 0) (fun x => F.gradient 0 x j) j) ∧
      (∀ i j, IsSlope (fun x => F.gradient 0 x i) (fun x => F.hessian 0 x i j) j) ∧
      (∀ x i j, F.hessian 0 x i j = F.hessian 0 x j i) ∧
      (∀ x (i j : Fin n), i.val + 1 < j.val ∨ j.val + 1 < i.val → F.hessian 0 x i j = 0) ∧
      (∀ x, 0 ≤ F.value 0 x ∧ (F.value 0 x = 0 ↔ x = 1)) ∧
      ∀ j, F.gradient 0 1 j = 0 := by
  obtain ⟨m, rfl⟩ : ∃ m, n = m + 1 := ⟨n - 1, by omega⟩
  have hm : 1 ≤ m := Nat.le_of_succ_le_succ hn
  obtain ⟨g, hg, hfollows⟩ := exists_function_follows hm
  exact ⟨g, formula m, hg, hfollows, isSlope_gradient 0, isSlope_hessian 0, hessian_comm 0,
    fun _ _ _ => hessian_eq_zero, fun x => ⟨value_nonneg 0 x, value_eq_zero_iff 0 x hm⟩,
    gradient_one 0⟩

/-- In three variables the second one is in two terms, the outer ones have none in common, and the
value and the slopes at the ones are zero. -/
theorem exists_follows_isSlope_three :
    2 ≤ 3 ∧ ∃ (g : Function Exact) (F : Formula 3 1), function (.whole 3) = .ok g ∧ g.Follows F ∧
      IsSlope (F.value 0) (fun x => F.gradient 0 x 1) 1 ∧
      IsSlope (fun x => F.gradient 0 x 1) (fun x => F.hessian 0 x 1 2) 2 ∧
      (∀ x, F.hessian 0 x 1 2 = F.hessian 0 x 2 1 ∧ F.hessian 0 x 0 2 = 0) ∧
      g.compute (.vector [finite 1, finite 1, finite 1]) = .ok [finite 0] ∧
      g.gradient (.vector [finite 1, finite 1, finite 1]) (.whole 0) =
        .ok [finite 0, finite 0, finite 0] := by
  obtain ⟨g, F, hg, hfollows, hvalues, hgradients, hsymmetric, hband, hvalue, hstationary⟩ :=
    exists_follows_isSlope (show 2 ≤ 3 by decide)
  have hzero : F.value 0 1 = 0 := (hvalue 1).2.2 rfl
  have hslopes : F.gradient 0 1 = 0 := funext hstationary
  refine ⟨by decide, g, F, hg, hfollows, hvalues 1, hgradients 1 2,
    fun x => ⟨hsymmetric x 1 2, hband x 0 2 (by decide)⟩, (hfollows.compute 1).trans ?_,
    (hfollows.gradient 0 1).trans ?_⟩
  · exact congrArg (fun v => Except.ok [finite v]) hzero
  · rw [hslopes]
    rfl

end Rosenbrock

end NonlinearProgram
