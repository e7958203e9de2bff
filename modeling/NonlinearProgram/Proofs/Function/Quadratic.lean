import NonlinearProgram.Function.Quadratic
import NonlinearProgram.Proofs.Function.FiniteDifference

/-!
# Derivatives of quadratic functions

A quadratic function follows the formula of its matrix `A`: half the form `x' A x` for its value,
`A x` for its gradient, `A` for its Hessian. The first belongs to the others where `A` is symmetric
and nowhere else: what the expansion of the value misses is half of `x' A h - h' A x`. The test that
a matrix has to pass lets two entries across the diagonal differ by a small part of their size, and
so there are quadratic functions whose derivatives are not those of their values.
-/

namespace NonlinearProgram

open Exact

namespace Formula

variable {n m : Nat}

/-- The value moves from `x` to `x + h` as its gradient and its Hessian say. -/
def Expands (F : Formula n m) (k : Fin m) (x h : Fin n → Rat) : Prop :=
  F.value k (x + h) = F.value k x + ∑ i, F.gradient k x i * h i +
    1 / 2 * ∑ i, ∑ j, h i * F.hessian k x i j * h j

end Formula

namespace Quadratic

variable {n : Nat}

def form (A : Fin n → Fin n → Rat) (x y : Fin n → Rat) : Rat := ∑ i, ∑ j, x i * A i j * y j

variable {A : Fin n → Fin n → Rat} {b x y : Fin n → Rat} {c : Rat}

theorem form_add_left (A : Fin n → Fin n → Rat) (x x' y : Fin n → Rat) :
    form A (x + x') y = form A x y + form A x' y := by
  simp only [form, Pi.add_apply, add_mul, Finset.sum_add_distrib]

theorem form_add_right (A : Fin n → Fin n → Rat) (x y y' : Fin n → Rat) :
    form A x (y + y') = form A x y + form A x y' := by
  simp only [form, Pi.add_apply, mul_add, Finset.sum_add_distrib]

theorem form_single (A : Fin n → Fin n → Rat) (i j : Fin n) :
    form A (Pi.single i 1) (Pi.single j 1) = A i j := by
  simp [form, Pi.single_apply]

theorem form_comm_iff : (∀ x y, form A x y = form A y x) ↔ ∀ i j, A i j = A j i := by
  constructor
  · intro h i j
    rw [← form_single A i j, h, form_single]
  · intro h x y
    rw [form, form, Finset.sum_comm]
    refine Finset.sum_congr rfl fun i _ => Finset.sum_congr rfl fun j _ => ?_
    rw [h j i]
    ring

def formula (A : Fin n → Fin n → Rat) (b : Fin n → Rat) (c : Rat) : Formula n 1 where
  value _ x := 1 / 2 * form A x x + ∑ i, b i * x i + c
  gradient _ x i := ∑ j, A i j * x j + b i
  hessian _ _ := A

theorem value_add (A : Fin n → Fin n → Rat) (b : Fin n → Rat) (c : Rat) (k : Fin 1)
    (x h : Fin n → Rat) :
    (formula A b c).value k (x + h) = (formula A b c).value k x +
      ∑ i, (formula A b c).gradient k x i * h i + 1 / 2 * form A h h +
      1 / 2 * (form A x h - form A h x) := by
  have hgradient : ∑ i, (formula A b c).gradient k x i * h i = form A h x + ∑ i, b i * h i := by
    simp only [formula, form, add_mul, Finset.sum_add_distrib, Finset.sum_mul]
    congr 1
    refine Finset.sum_congr rfl fun i _ => Finset.sum_congr rfl fun j _ => ?_
    ring
  have hlinear : ∑ i, b i * (x + h) i = ∑ i, b i * x i + ∑ i, b i * h i := by
    simp only [Pi.add_apply, mul_add, Finset.sum_add_distrib]
  rw [hgradient]
  simp only [formula]
  rw [hlinear, form_add_left, form_add_right, form_add_right]
  ring

theorem expands_iff (k : Fin 1) (x h : Fin n → Rat) :
    (formula A b c).Expands k x h ↔ form A x h = form A h x := by
  have hform : ∑ i, ∑ j, h i * (formula A b c).hessian k x i j * h j = form A h h := rfl
  unfold Formula.Expands
  rw [value_add, hform, add_eq_left, mul_eq_zero, sub_eq_zero]
  exact or_iff_right (by norm_num)

/-- For a symmetric matrix central differences are exact: steps ahead and behind have the same
curvature, which cancels. -/
theorem differencesExact_formula (hA : ∀ i j, A i j = A j i) :
    (formula A b c).DifferencesExact where
  value k x j t := by
    have hcomm := form_comm_iff.2 hA
    have hneg : form A (-Pi.single j t) (-Pi.single j t) =
        form A (Pi.single j t) (Pi.single j t) := by simp [form]
    have hahead : ∑ i, (formula A b c).gradient k x i * (Pi.single j t : Fin n → Rat) i =
        (formula A b c).gradient k x j * t := by simp [Pi.single_apply]
    have hbehind : ∑ i, (formula A b c).gradient k x i * (-Pi.single j t : Fin n → Rat) i =
        -((formula A b c).gradient k x j * t) := by simp [Pi.single_apply]
    rw [sub_eq_add_neg x, value_add, value_add, hcomm x, hcomm x, hneg, hahead, hbehind]
    ring
  gradient k x i j t := by
    simp only [formula]
    rw [add_sub_add_right_eq_sub, sum_mul_sub_sum_mul]

/-- Two entries across the diagonal differ by a small part of their size. -/
def NearlySymmetric (A : Fin n → Fin n → Rat) : Prop :=
  ∀ i j, |A i j - A j i| ≤ 1 / 10 ^ 8 + 1 / 10 ^ 5 * |A j i|

theorem isClose_finite (a b : Rat) : isClose (finite a) (finite b) = true ↔
    |a - b| ≤ 1 / 10 ^ 8 + 1 / 10 ^ 5 * |b| := by
  have hbound : (1e-8 + 1e-5 * finite |b| : Exact) = finite (1 / 10 ^ 8 + 1 / 10 ^ 5 * |b|) := by
    simp only [ofScientific_eq, finite_mul_finite, finite_add_finite]
    norm_num
  have hfinite : Scalar.isFinite (finite b) = true := rfl
  rw [isClose, finite_sub_finite, modulus_finite, modulus_finite, hbound, hfinite,
    equal_finite_finite, atMost_finite_finite, Bool.true_and, Bool.or_eq_true, decide_eq_true_eq,
    decide_eq_true_eq]
  refine or_iff_right_of_imp ?_
  rintro rfl
  rw [sub_self, abs_zero]
  positivity

theorem isSymmetric_ofFractions :
    isSymmetric (Matrix.ofFractions A) = true ↔ NearlySymmetric A := by
  have hrows : List.zipWith (List.zipWith isClose) (Matrix.ofFractions A).rows
      (Matrix.ofFractions A).transpose.rows =
      List.ofFn fun i => List.ofFn fun j => isClose (finite (A i j)) (finite (A j i)) := by
    rw [Matrix.transpose_ofFractions, Matrix.rows_ofFractions, Matrix.rows_ofFractions]
    refine List.ext_getElem (by simp) fun i hi hi' => ?_
    refine List.ext_getElem (by simp) fun j hj hj' => ?_
    simp [fractions]
  simp only [isSymmetric, hrows, List.all_eq_true, List.forall_mem_ofFn_iff, isClose_finite, id]
  rfl

theorem value_fractions (k : Fin 1) (x : Fin n → Rat) :
    value ⟨.ofFractions A, fractions b, finite c⟩ (fractions x) =
      finite ((formula A b c).value k x) := by
  have hhalf : (fractions x).map (0.5 * ·) = fractions fun i => 1 / 2 * x i := by
    refine map_fractions (fun a => ?_) x
    rw [ofScientific_eq, finite_mul_finite]
    norm_num
  have hform : ∑ j, (∑ i, 1 / 2 * x i * A i j) * x j = 1 / 2 * form A x x := by
    rw [form, Finset.sum_comm, Finset.mul_sum]
    refine Finset.sum_congr rfl fun j _ => ?_
    rw [Finset.sum_mul, Finset.mul_sum]
    refine Finset.sum_congr rfl fun i _ => ?_
    ring
  rw [value, hhalf, Matrix.vectorMul_ofFractions, dot_fractions, dot_fractions, finite_add_finite,
    finite_add_finite, hform]
  rfl

theorem slope_fractions (k : Fin 1) (x : Fin n → Rat) :
    slope ⟨.ofFractions A, fractions b, finite c⟩ (fractions x) =
      fractions ((formula A b c).gradient k x) := by
  rw [slope, Matrix.mulVector_ofFractions]
  exact zipWith_fractions finite_add_finite _ _

/-- A quadratic function follows the formula of its matrix, whether that is symmetric or not. -/
theorem follows_of_toFunction {name : Datum Exact} {g : Function Exact}
    (hg : toFunction ⟨.ofFractions A, fractions b, finite c⟩ name = .ok g) :
    g.Follows (formula A b c) := by
  have hheight : (Matrix.ofFractions A).height = n := Matrix.height_ofFn _
  unfold toFunction at hg
  simp only [hheight] at hg
  refine Function.HooksFollow.of_declare ⟨fun x => ?_, fun k x => ?_, fun k x => ?_⟩ hg
  · have hvalue : fractions (fun k => (formula A b c).value k x) =
        [finite ((formula A b c).value 0 x)] := rfl
    rw [hvalue, ← value_fractions]
    rfl
  · refine ⟨_, rfl, ?_⟩
    rw [← slope_fractions]
  · exact ⟨_, rfl, rfl⟩

section Accepted

variable {α : Type} [Scalar α] {q : Quadratic α} {matrix constant : Datum α}
  {linear : Option (Datum α)}

/-- The parts of a quadratic function fit, and its matrix has passed the test. -/
structure WellFormed (q : Quadratic α) : Prop where
  width : q.matrix.width = q.matrix.height
  rows : ∀ row ∈ q.matrix.rows, row.length = q.matrix.height
  linear : q.linear.length = q.matrix.height
  symmetric : isSymmetric q.matrix = true

theorem wellFormed_of_ofDatum (h : ofDatum matrix linear constant = .ok q) : q.WellFormed := by
  obtain ⟨t, ht, h⟩ := bind_eq_ok_iff.1 h
  have hrows {height width : Nat} := Tensor.length_row_atLeastMatrix (m := height) (n := width) ht
  generalize t.atLeastMatrix = t at h hrows
  match hshape : t.shape with
  | [] | [_] | _ :: _ :: _ :: _ =>
      simp only [hshape] at h
      cases h
  | [height, width] =>
      simp only [hshape] at h
      obtain ⟨hsquare, h⟩ := check_eq_ok_iff.1 h
      obtain ⟨hsymmetric, h⟩ := check_eq_ok_iff.1 h
      obtain rfl := not_not.1 hsquare
      have hheight : (Tensor.rowsOf height height t.entries).length = height :=
        Tensor.length_rowsOf _ _ _
      have hparts {b : List α} {c : α} (hb : b.length = height) :
          WellFormed ⟨⟨height, Tensor.rowsOf height height t.entries⟩, b, c⟩ := by
        refine ⟨hheight.symm, ?_, hb.trans hheight.symm, by simpa using hsymmetric⟩
        rw [Matrix.height, hheight]
        exact hrows hshape
      cases linear with
      | none =>
          obtain ⟨c, -, h⟩ := bind_eq_ok_iff.1 h
          cases h
          exact hparts List.length_replicate
      | some given =>
          obtain ⟨u, hu, h⟩ := bind_eq_ok_iff.1 h
          split at h
          · next hvector =>
              obtain ⟨c, -, h⟩ := bind_eq_ok_iff.1 h
              cases h
              exact hparts (Tensor.length_entries_atLeastVector hu hvector)
          · cases h

end Accepted

/-- All numbers of a quadratic function are fractions. -/
structure IsFinite (q : Quadratic Exact) : Prop where
  matrix : ∀ row ∈ q.matrix.rows, ∀ v ∈ row, Scalar.isFinite v = true
  linear : ∀ v ∈ q.linear, Scalar.isFinite v = true
  constant : Scalar.isFinite q.constant = true

theorem WellFormed.exists_fractions {q : Quadratic Exact} (h : q.WellFormed) (hq : q.IsFinite) :
    ∃ (n : Nat) (A : Fin n → Fin n → Rat) (b : Fin n → Rat) (c : Rat),
      q = ⟨.ofFractions A, fractions b, finite c⟩ := by
  obtain ⟨A, hA⟩ := Matrix.exists_ofFractions rfl h.width h.rows hq.matrix
  obtain ⟨b, hb⟩ := Exact.exists_fractions hq.linear h.linear
  obtain ⟨c, hc⟩ := (isFinite_iff _).1 hq.constant
  refine ⟨_, A, b, c, ?_⟩
  rw [← hA, ← hb, ← hc]

/-- A quadratic function that is accepted follows the formula of its matrix, of which two entries
across the diagonal are close. Half of the difference of its form taken either way is what the
expansion of its value misses, so the expansion holds everywhere and the Hessian is symmetric where
the matrix is, and only there. -/
theorem expands_iff_symmetric {matrix constant : Datum Exact} {linear : Option (Datum Exact)}
    {q : Quadratic Exact} (hq : ofDatum matrix linear constant = .ok q) (hfinite : q.IsFinite)
    (name : Datum Exact) :
    ∃ (n : Nat) (A : Fin n → Fin n → Rat) (F : Formula n 1) (g : Function Exact),
      q.matrix = .ofFractions A ∧ q.toFunction name = .ok g ∧ g.Follows F ∧ NearlySymmetric A ∧
        (∀ k x h, F.value k (x + h) = F.value k x + ∑ i, F.gradient k x i * h i +
          1 / 2 * (∑ i, ∑ j, h i * F.hessian k x i j * h j) +
          1 / 2 * (form A x h - form A h x)) ∧
        ((∀ k x h, F.Expands k x h) ↔ ∀ i j, A i j = A j i) ∧
        ((∀ k x i j, F.hessian k x i j = F.hessian k x j i) ↔ ∀ i j, A i j = A j i) := by
  have hformed := wellFormed_of_ofDatum hq
  obtain ⟨n, A, b, c, rfl⟩ := hformed.exists_fractions hfinite
  obtain ⟨g, hg, -⟩ := Function.exists_declare_eq_ok "NumericQuadraticFunction"
    (name.orText "quadratic") (Matrix.ofFractions A).height le_rfl _
  refine ⟨n, A, formula A b c, g, rfl, hg, follows_of_toFunction hg, ?_, value_add A b c, ?_, ?_⟩
  · exact isSymmetric_ofFractions.1 hformed.symmetric
  · simp only [expands_iff, form_comm_iff.symm]
    exact forall_const (Fin 1)
  · constructor
    · intro h
      exact h 0 0
    · intro h _ _
      exact h

/-- The symmetric matrix with 2 and 3 on the diagonal and 1 beside it. -/
def coupled : Quadratic Exact :=
  ⟨.ofFractions ![![2, 1], ![1, 3]], fractions ![1, 0], finite 5⟩

theorem expands_iff_symmetric_coupled :
    ofDatum (.list [.vector [finite 2, finite 1], .vector [finite 1, finite 3]])
        (some (.vector [finite 1, finite 0])) (.number (finite 5)) = .ok coupled ∧
      coupled.IsFinite ∧ ∃ (n : Nat) (F : Formula n 1) (g : Function Exact),
        coupled.toFunction (.text "coupled") = .ok g ∧ g.Follows F ∧ ∀ k x h, F.Expands k x h := by
  have hq : ofDatum (.list [.vector [finite 2, finite 1], .vector [finite 1, finite 3]])
      (some (.vector [finite 1, finite 0])) (.number (finite 5)) = .ok coupled := by rfl
  have hfinite : coupled.IsFinite := ⟨by decide, by decide, by decide⟩
  obtain ⟨n, A, F, g, hA, hg, hfollows, -, -, hexpands, -⟩ :=
    expands_iff_symmetric hq hfinite (.text "coupled")
  obtain rfl : 2 = n := congrArg Matrix.width hA
  refine ⟨hq, hfinite, 2, F, g, hg, hfollows, hexpands.2 ?_⟩
  rw [← Matrix.ofFractions_inj.1 hA]
  decide

def askew : Quadratic Exact :=
  ⟨.ofFractions ![![0, 100000], ![100001, 0]], fractions ![0, 0], finite 0⟩

/-- From (0, 1) to (1, 1) the value grows by 100000.5. The gradient says by 100000, the Hessian adds
nothing, and it is not symmetric. -/
theorem not_expands_askew :
    ofDatum (.list [.vector [finite 0, finite 100000], .vector [finite 100001, finite 0]])
        (some (.vector [finite 0, finite 0])) (.number (finite 0)) = .ok askew ∧
      ∃ g : Function Exact, askew.toFunction (.text "askew") = .ok g ∧
        g.compute (.vector [finite 0, finite 1]) = .ok [finite 0] ∧
        g.compute (.vector [finite 1, finite 1]) = .ok [finite (200001 / 2)] ∧
        g.gradient (.vector [finite 0, finite 1]) (.whole 0) = .ok [finite 100000, finite 0] ∧
        g.hessian (.vector [finite 0, finite 1]) (.whole 0) = .ok askew.matrix ∧
        askew.matrix.rows = [[finite 0, finite 100000], [finite 100001, finite 0]] ∧
        (200001 / 2 : Rat) ≠ 0 + (100000 * 1 + 0 * 0) +
          1 / 2 * (1 * 0 * 1 + 1 * 100000 * 0 + 0 * 100001 * 1 + 0 * 0 * 0) ∧
        askew.matrix.transpose.rows ≠ askew.matrix.rows := by
  refine ⟨?_, _, rfl, ?_, ?_, ?_, rfl, rfl, by norm_num, by decide⟩
  · with_unfolding_all rfl
  · with_unfolding_all rfl
  · with_unfolding_all rfl
  · with_unfolding_all rfl

end Quadratic

end NonlinearProgram
