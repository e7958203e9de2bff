import NonlinearProgram.Function.DerivativeCheck
import NonlinearProgram.Proofs.Benchmark.ClosedForm
import NonlinearProgram.Proofs.Function.Affine
import NonlinearProgram.Proofs.Function.Discrepancy
import NonlinearProgram.Proofs.Function.Quadratic

/-!
# Checks that raise no false alarm

A check compares what a function says of its derivatives with central differences. Where the
function follows a formula whose differences are exact, the two are equal entry by entry, the error
is zero, and no tolerance from zero on is exceeded. This is so of the affine functions, of the
quadratic ones with a symmetric matrix, and of the three functions of Hock-Schittkowski problem 71.
-/

namespace NonlinearProgram

open Exact Scalar

theorem relativeError_self (shape : List Nat) (qs : List Rat) :
    relativeError ⟨shape, qs.map finite⟩ ⟨shape, qs.map finite⟩ = .ok (finite 0) := by
  have hfinite : ∀ a ∈ qs.map finite, isFinite a = true :=
    List.forall_mem_map.2 fun q _ => (isFinite_iff _).2 ⟨q, rfl⟩
  rw [relativeError_eq_ok shape rfl, discrepancy_self hfinite, zero_eq]

theorem Matrix.relativeError_ofFractions {m n : Nat} (A : Fin m → Fin n → Rat) :
    relativeError (Matrix.ofFractions A).toTensor (Matrix.ofFractions A).toTensor =
      .ok (finite 0) := by
  have hrows : (Matrix.ofFractions A).rows.flatten =
      (List.ofFn fun i => List.ofFn (A i)).flatten.map finite := by
    rw [Matrix.rows_ofFractions, List.map_flatten, List.map_ofFn]
    exact congrArg List.flatten (congrArg List.ofFn (funext fun i => fractions_eq_map (A i)))
  rw [Matrix.toTensor, hrows]
  exact relativeError_self _ _

namespace DerivativeCheck

section Passing

variable {tolerance : Datum Exact} {s : Exact} (htolerance : tolerance.toReal = .ok s)
  (hs : atMost 0.0 s = true)

include htolerance hs

theorem passed_of_maxError {check : DerivativeCheck Exact} (herror : check.maxError = finite 0)
    (hcheck : check.tolerance = tolerance) : check.passed = .ok true := by
  rw [passed_eq_ok (hcheck ▸ htolerance), herror, ← zero_eq, hs]

theorem exists_outcome_checks {count : Nat}
    (check : Datum Exact → Attempt Exact (DerivativeCheck Exact))
    (h : ∀ k : Fin count, ∃ c, (check (.whole k.val)).outcome = .ok c ∧ c.maxError = finite 0 ∧
      c.tolerance = tolerance) :
    ∃ cs, Attempt.outcome (((List.range count).map fun (i : Nat) =>
        (Datum.whole i : Datum Exact)).mapM check) = .ok cs ∧ ∀ c ∈ cs, c.passed = .ok true := by
  rw [Attempt.outcome_mapM]
  have hresults : ∀ d ∈ (List.range count).map fun (i : Nat) => (Datum.whole i : Datum Exact),
      ∃ c, (check d).outcome = .ok c ∧ c.maxError = finite 0 ∧ c.tolerance = tolerance := by
    rintro d hd
    obtain ⟨k, hk, rfl⟩ := List.mem_map.1 hd
    exact h ⟨k, List.mem_range.1 hk⟩
  obtain ⟨cs, hcs⟩ := exists_mapM_eq_ok fun d hd => (hresults d hd).imp fun c hc => hc.1
  refine ⟨cs, hcs, fun c hc => ?_⟩
  obtain ⟨d, hd, hdc⟩ := exists_of_mem_right (mapM_eq_ok_iff.1 hcs) hc
  obtain ⟨c', hc', herror, hcheck⟩ := hresults d hd
  obtain rfl : c' = c := Except.ok.inj (hc'.symm.trans hdc)
  exact passed_of_maxError htolerance hs herror hcheck

end Passing

end DerivativeCheck

namespace Function.Follows

variable {n m : Nat} {f : Function Exact} {F : Formula n m} {t : Rat} {d : Datum Exact}
  {x : Fin n → Rat}

theorem outcome_checkGradient (h : f.Follows F) (hF : F.DifferencesExact) (ht : t ≠ 0)
    (hd : Tensor.ofDatum d = .ok (.vector (fractions x))) (k : Fin m) (tolerance : Datum Exact) :
    (checkGradient f d (.whole k.val) (.number (finite t)) tolerance).outcome =
      .ok ⟨f.name, .whole k.val, finite 0, tolerance, .vector (fractions (F.gradient k x)),
        .vector (fractions (F.gradient k x))⟩ := by
  have herror : relativeError (.vector (fractions (F.gradient k x)))
      (.vector (fractions (F.gradient k x))) = .ok (finite 0) := by
    rw [Tensor.vector, fractions_eq_map]
    exact relativeError_self _ _
  unfold checkGradient
  rw [Attempt.outcome_liftM_bind (h.gradient_eq_ok hd k),
    Attempt.outcome_liftM_bind (h.checkArgument_eq_ok hd),
    Attempt.outcome_liftM_bind (h.differenceGradient_eq hF ht k x)]
  exact DerivativeCheck.outcome_conclude herror

/-- The differences of the gradients are put together as columns. Without variables there are none,
and what is put together has one dimension. -/
theorem exists_outcome_checkHessian (h : f.Follows F) (hF : F.DifferencesExact) (ht : t ≠ 0)
    (hd : Tensor.ofDatum d = .ok (.vector (fractions x))) (k : Fin m) (tolerance : Datum Exact) :
    ∃ approximate : Tensor Exact,
      (checkHessian f d (.whole k.val) (.number (finite t)) tolerance).outcome =
        .ok ⟨f.name, .whole k.val, finite 0, tolerance,
          (Matrix.ofFractions (F.hessian k x)).toTensor, approximate⟩ ∧
      approximate.entries = (Matrix.ofFractions (F.hessian k x)).toTensor.entries ∧
      (n ≠ 0 → approximate = (Matrix.ofFractions (F.hessian k x)).toTensor) := by
  have hcolumns : (Matrix.ofFractions (F.hessian k x)).transpose.rows.length = n := by
    rw [Matrix.transpose_ofFractions, Matrix.rows_ofFractions, List.length_ofFn]
  have htranspose : (Matrix.mk f.inputSize
      (Matrix.ofFractions (F.hessian k x)).transpose.rows).transpose =
        .ofFractions (F.hessian k x) := by
    rw [h.inputSize, Matrix.transpose_ofFractions]
    exact Matrix.transpose_ofFractions _
  unfold checkHessian
  rw [Attempt.outcome_liftM_bind (h.hessian_eq_ok hd k),
    Attempt.outcome_liftM_bind (h.checkArgument_eq_ok hd),
    Attempt.outcome_liftM_bind (h.differenceRows_eq hF ht k x)]
  by_cases hn : n = 0
  · subst hn
    refine ⟨.vector [], ?_, rfl, fun hn => absurd rfl hn⟩
    exact DerivativeCheck.outcome_conclude (congrArg Except.ok zero_eq)
  · have hnonempty : ¬(Matrix.ofFractions (F.hessian k x)).transpose.rows.isEmpty = true := by
      rw [List.isEmpty_iff_length_eq_zero, hcolumns]
      exact hn
    refine ⟨_, ?_, rfl, fun _ => rfl⟩
    rw [if_neg hnonempty, htranspose]
    exact DerivativeCheck.outcome_conclude (Matrix.relativeError_ofFractions _)

theorem outcome_assertGradient (h : f.Follows F) (hF : F.DifferencesExact) (ht : t ≠ 0)
    (hd : Tensor.ofDatum d = .ok (.vector (fractions x))) {tolerance : Datum Exact} {s : Exact}
    (htolerance : tolerance.toReal = .ok s) (hs : atMost 0.0 s = true) :
    (assertGradient f d (.number (finite t)) tolerance).outcome = .ok () := by
  obtain ⟨rfl, rfl⟩ := And.intro h.inputSize h.outputSize
  have hgradient (k : Fin f.outputSize) :
      ∃ c, (checkGradient f d (.whole k.val) (.number (finite t)) tolerance).outcome = .ok c ∧
        c.maxError = finite 0 ∧ c.tolerance = tolerance :=
    ⟨_, h.outcome_checkGradient hF ht hd k tolerance, rfl, rfl⟩
  have hhessian (k : Fin f.outputSize) :
      ∃ c, (checkHessian f d (.whole k.val) (.number (finite t)) tolerance).outcome = .ok c ∧
        c.maxError = finite 0 ∧ c.tolerance = tolerance := by
    obtain ⟨_, hcheck, -⟩ := h.exists_outcome_checkHessian hF ht hd k tolerance
    exact ⟨_, hcheck, rfl, rfl⟩
  obtain ⟨gradients, hgradients, hallGradients⟩ :=
    DerivativeCheck.exists_outcome_checks htolerance hs
      (fun i => checkGradient f d i (.number (finite t)) tolerance) hgradient
  obtain ⟨hessians, hhessians, hallHessians⟩ :=
    DerivativeCheck.exists_outcome_checks htolerance hs
      (fun i => checkHessian f d i (.number (finite t)) tolerance) hhessian
  have hdemand {checks : List (DerivativeCheck Exact)}
      (hchecks : ∀ check ∈ checks, check.passed = .ok true) :
      DerivativeCheck.demand (gradients ++ checks) = .ok () :=
    DerivativeCheck.demand_eq_ok_iff.2 (List.forall_mem_append.2 ⟨hallGradients, hchecks⟩)
  unfold assertGradient
  rw [Attempt.outcome_bind, hgradients, ok_bind]
  by_cases htier : f.supports .twiceDifferentiable = true
  · rw [if_pos htier, Attempt.outcome_bind, hhessians, ok_bind, Attempt.outcome_liftM,
      hdemand hallHessians]
  · rw [if_neg htier, Attempt.outcome_bind, Attempt.outcome_pure, ok_bind, Attempt.outcome_liftM,
      hdemand (List.forall_mem_nil _)]

end Function.Follows

/-- The functions of this library that have degree at most two in every variable: affine functions
and quadratic functions of a symmetric matrix, whose numbers are fractions, and the functions of
Hock-Schittkowski problem 71. -/
inductive Function.LowDegree : Function Exact → Prop
  | affine {matrix name : Datum Exact} {offset : Option (Datum Exact)} {f : Affine Exact}
      {g : Function Exact} (hf : Affine.ofDatum matrix offset = .ok f) (hfinite : f.IsFinite)
      (hg : f.toFunction name = .ok g) : LowDegree g
  | quadratic {matrix constant name : Datum Exact} {linear : Option (Datum Exact)}
      {q : Quadratic Exact} {g : Function Exact}
      (hq : Quadratic.ofDatum matrix linear constant = .ok q) (hfinite : q.IsFinite)
      (hsymmetric : q.matrix.IsSymmetric) (hg : q.toFunction name = .ok g) : LowDegree g
  | objective : LowDegree HockSchittkowski.objective
  | product : LowDegree HockSchittkowski.product
  | squares : LowDegree HockSchittkowski.squares

theorem Matrix.isSymmetric_ofFractions_iff {n : Nat} {A : Fin n → Fin n → Rat} :
    (Matrix.ofFractions A).IsSymmetric ↔ ∀ i j, A i j = A j i := by
  have hentry (i j : Fin n) : Matrix.entry? (Matrix.ofFractions A) i j = some (finite (A i j)) :=
    Matrix.entry?_ofFn _ i j
  have houtside {i j : Nat} (hij : ¬(i < n ∧ j < n)) :
      Matrix.entry? (Matrix.ofFractions A) i j = none := by
    refine Option.eq_none_iff_forall_ne_some.2 fun v hv => hij ?_
    have hbounds := (Matrix.exists_entry?_iff fun _ => Matrix.length_of_mem_ofFn).1 ⟨v, hv⟩
    exact ⟨hbounds.1.trans_eq (Matrix.height_ofFn _), hbounds.2⟩
  constructor
  · intro h i j
    have hij := h i j
    rw [hentry, hentry, Option.some.injEq] at hij
    exact Exact.finite.inj hij
  · intro h i j
    by_cases hij : i < n ∧ j < n
    · rw [hentry ⟨i, hij.1⟩ ⟨j, hij.2⟩, hentry ⟨j, hij.2⟩ ⟨i, hij.1⟩, h]
    · rw [houtside hij, houtside fun hji => hij hji.symm]

theorem Function.LowDegree.exists_formula {g : Function Exact} (hg : g.LowDegree) :
    ∃ (n m : Nat) (F : Formula n m), g.Follows F ∧ F.DifferencesExact := by
  cases hg with
  | affine hf hfinite hg =>
      obtain ⟨n, m, A, b, rfl⟩ := (Affine.wellFormed_of_ofDatum hf).exists_fractions hfinite
      exact ⟨n, m, _, Affine.follows_of_toFunction hg, Affine.differencesExact_formula A b⟩
  | quadratic hq hfinite hsymmetric hg =>
      obtain ⟨n, A, b, c, rfl⟩ := (Quadratic.wellFormed_of_ofDatum hq).exists_fractions hfinite
      have hA := Matrix.isSymmetric_ofFractions_iff.1 hsymmetric
      exact ⟨n, 1, _, Quadratic.follows_of_toFunction hg, Quadratic.differencesExact_formula hA⟩
  | objective =>
      exact ⟨4, 1, _, HockSchittkowski.follows_objective,
        HockSchittkowski.differencesExact_objective⟩
  | product =>
      exact ⟨4, 1, _, HockSchittkowski.follows_product, HockSchittkowski.differencesExact_product⟩
  | squares =>
      exact ⟨4, 1, _, HockSchittkowski.follows_squares, HockSchittkowski.differencesExact_squares⟩

section Checks

variable {g : Function Exact} {d : Datum Exact} {x : Fin g.inputSize → Rat} {ε : Rat}

/-- For a function of low degree the estimate of every check is the derivative itself and its error
is zero, no tolerance from zero on is exceeded, and by differences the function has its own
gradients and its own Jacobian. -/
theorem check_eq_of_lowDegree (hg : g.LowDegree)
    (hd : Tensor.ofDatum d = .ok (.vector (fractions x))) (hε : ε ≠ 0) :
    (∀ i : Nat, i < g.outputSize → ∀ tolerance : Datum Exact,
      ∃ slopes check, g.gradient d (.whole i) = .ok slopes ∧
        (checkGradient g d (.whole i) (.number (finite ε)) tolerance).outcome = .ok check ∧
        check.analytic = .vector slopes ∧ check.approximate = .vector slopes ∧
        check.maxError = finite 0) ∧
      (∀ i : Nat, i < g.outputSize → ∀ tolerance : Datum Exact,
        ∃ curvatures check, g.hessian d (.whole i) = .ok curvatures ∧
          (checkHessian g d (.whole i) (.number (finite ε)) tolerance).outcome = .ok check ∧
          check.analytic = curvatures.toTensor ∧
          check.approximate.entries = curvatures.toTensor.entries ∧
          (g.inputSize ≠ 0 → check.approximate = curvatures.toTensor) ∧
          check.maxError = finite 0) ∧
      (∀ tolerance t, tolerance.toReal = .ok t → atMost 0.0 t = true →
        (assertGradient g d (.number (finite ε)) tolerance).outcome = .ok ()) ∧
      (∀ i : Nat, i < g.outputSize →
        (g.finiteDifferences (.number (finite ε))).gradient d (.whole i) =
          g.gradient d (.whole i)) ∧
      ∃ J, g.jacobian d = .ok J ∧
        (g.finiteDifferences (.number (finite ε))).jacobian d = .ok J := by
  obtain ⟨n, m, F, h, hF⟩ := hg.exists_formula
  obtain ⟨rfl, rfl⟩ := And.intro h.inputSize h.outputSize
  have hgradients (k : Fin g.outputSize) := h.gradient_eq_ok hd k
  have hlifted (k : Fin g.outputSize) := h.gradient_finiteDifferences hF hε hd k
  refine ⟨fun i hi tolerance => ?_, fun i hi tolerance => ?_, fun tolerance t ht hnonneg => ?_,
    fun i hi => (hlifted ⟨i, hi⟩).trans (hgradients ⟨i, hi⟩).symm, ?_⟩
  · exact ⟨_, _, hgradients ⟨i, hi⟩, h.outcome_checkGradient hF hε hd ⟨i, hi⟩ tolerance, rfl, rfl,
      rfl⟩
  · obtain ⟨approximate, hcheck, hentries, heq⟩ :=
      h.exists_outcome_checkHessian hF hε hd ⟨i, hi⟩ tolerance
    exact ⟨_, _, h.hessian_eq_ok hd ⟨i, hi⟩, hcheck, rfl, hentries, heq, rfl⟩
  · exact h.outcome_assertGradient hF hε hd ht hnonneg
  · exact ⟨_, Function.jacobian_eq_ofFn hgradients, Function.jacobian_eq_ofFn hlifted⟩

end Checks

/-- The quadratic function with the matrix 2, 1, 1, 3, checked at (3, -2) with a step of a tenth and
no tolerance at all. -/
theorem check_eq_of_lowDegree_coupled : ∃ g : Function Exact,
    Quadratic.coupled.toFunction (.text "coupled") = .ok g ∧ g.LowDegree ∧ g.outputSize = 1 ∧
      (assertGradient g (.vector [finite 3, finite (-2)]) (.number (finite (1 / 10)))
        (.number (finite 0))).outcome = .ok () ∧
      ∃ J, g.jacobian (.vector [finite 3, finite (-2)]) = .ok J ∧
        (g.finiteDifferences (.number (finite (1 / 10)))).jacobian
          (.vector [finite 3, finite (-2)]) = .ok J := by
  have hq : Quadratic.ofDatum (.list [.vector [finite 2, finite 1], .vector [finite 1, finite 3]])
      (some (.vector [finite 1, finite 0])) (.number (finite 5)) = .ok Quadratic.coupled := by rfl
  have hfinite : Quadratic.coupled.IsFinite := ⟨by decide, by decide, by decide⟩
  have hsymmetric : Quadratic.coupled.matrix.IsSymmetric :=
    Matrix.isSymmetric_ofFractions_iff.2 (by decide)
  have hlow : Function.LowDegree _ :=
    .quadratic hq hfinite hsymmetric (rfl : Quadratic.coupled.toFunction (.text "coupled") = .ok _)
  obtain ⟨-, -, hassert, -, hjacobian⟩ := check_eq_of_lowDegree
    (x := ![3, -2]) hlow (Tensor.ofDatum_vector _) (by norm_num : (1 / 10 : Rat) ≠ 0)
  have hnonneg : atMost 0.0 (finite 0) = true := by rw [zero_eq]; rfl
  exact ⟨_, rfl, hlow, rfl, hassert (.number (finite 0)) (finite 0) rfl hnonneg, hjacobian⟩

end NonlinearProgram
