import Mathlib.Algebra.BigOperators.Fin
import Mathlib.Tactic.Ring
import NonlinearProgram.Proofs.Scalar.Exact
import NonlinearProgram.Scalar.Pairwise

/-!
# Vectors of fractions

Between fractions exact arithmetic is that of fractions, so a list of fractions is summed to their
sum whatever the order, from the left or in pairs. `fractions` is the list of the entries of a
vector of fractions, and what is done with such lists entry by entry is done with the vectors.
-/

namespace NonlinearProgram.Exact

open Scalar

theorem ofScientific_eq (m : Nat) (negative : Bool) (e : Nat) :
    (OfScientific.ofScientific m negative e : Exact) =
      finite (OfScientific.ofScientific m negative e) := rfl

@[simp] theorem finite_add_finite (a b : Rat) : finite a + finite b = finite (a + b) := rfl

@[simp] theorem neg_finite (a : Rat) : -finite a = finite (-a) := rfl

theorem finite_div_finite {b : Rat} (hb : b ≠ 0) (a : Rat) :
    finite a / finite b = finite (a / b) := by
  change Exact.div (finite a) (finite b) = _
  rw [Exact.div, if_neg hb]

@[simp] theorem modulus_finite (a : Rat) : modulus (finite a) = finite |a| := by
  change finite (if a < 0 then -a else a) = _
  split
  · next h => rw [abs_of_neg h]
  · next h => rw [abs_of_nonneg (not_lt.1 h)]

theorem mul_one (a : Exact) : a * 1.0 = a := by
  rw [one_eq]
  cases a with
  | finite q => rw [finite_mul_finite, Rat.mul_one]
  | notANumber => rfl
  | negativeInfinity => rfl
  | infinity => rfl

theorem add_zero_mul (a : Exact) (q : Rat) : a + 0.0 * finite q = a := by
  rw [zero_eq, finite_mul_finite, Rat.zero_mul]
  cases a with
  | finite p => rw [finite_add_finite, Rat.add_zero]
  | notANumber => rfl
  | negativeInfinity => rfl
  | infinity => rfl

theorem eq_zero_of_equal {a : Exact} (h : equal a 0.0 = true) : a = 0.0 := by
  have hparts : a.isNumber && a == 0.0 := h
  rw [Bool.and_eq_true, beq_iff_eq] at hparts
  exact hparts.2

theorem exists_map_finite {vs : List Exact} (h : ∀ v ∈ vs, isFinite v = true) :
    ∃ qs : List Rat, vs = qs.map finite := by
  induction vs with
  | nil => exact ⟨[], rfl⟩
  | cons v vs ih =>
      rw [List.forall_mem_cons] at h
      obtain ⟨q, rfl⟩ := (isFinite_iff v).1 h.1
      obtain ⟨qs, rfl⟩ := ih h.2
      exact ⟨q :: qs, rfl⟩

theorem foldl_add_finite (qs : List Rat) (q : Rat) :
    (qs.map finite).foldl (· + ·) (finite q) = finite (q + qs.sum) := by
  induction qs generalizing q with
  | nil => simp
  | cons r qs ih =>
      rw [List.map_cons, List.foldl_cons, finite_add_finite, ih, List.sum_cons, Rat.add_assoc]

theorem sum_map_finite (qs : List Rat) : Scalar.sum (qs.map finite) = finite qs.sum := by
  rw [Scalar.sum, zero_eq, foldl_add_finite, Rat.zero_add]

theorem dot_map_finite (us vs : List Rat) :
    Scalar.dot (us.map finite) (vs.map finite) = finite (List.zipWith (· * ·) us vs).sum := by
  have hproducts : List.zipWith (· * ·) (us.map finite) (vs.map finite) =
      (List.zipWith (· * ·) us vs).map finite := by
    simp [List.zipWith_map, List.map_zipWith]
  rw [Scalar.dot, hproducts, sum_map_finite]

theorem joinPairs_map_finite (qs : List Rat) :
    ∃ rs : List Rat, joinPairs (qs.map finite) = rs.map finite ∧ rs.sum = qs.sum := by
  match qs with
  | [] => exact ⟨[], rfl, rfl⟩
  | [q] => exact ⟨[q], rfl, rfl⟩
  | a :: b :: qs =>
      obtain ⟨rs, hrs, hsum⟩ := joinPairs_map_finite qs
      refine ⟨(a + b) :: rs, ?_, ?_⟩
      · rw [List.map_cons, List.map_cons, joinPairs, hrs]
        rfl
      · rw [List.sum_cons, List.sum_cons, List.sum_cons, hsum, add_assoc]

theorem sum_zipWith_add {us vs : List Rat} (h : us.length = vs.length) :
    (List.zipWith (· + ·) us vs).sum = us.sum + vs.sum := by
  induction us generalizing vs with
  | nil =>
      rw [List.length_nil, eq_comm, List.length_eq_zero_iff] at h
      simp [h]
  | cons u us ih =>
      obtain ⟨v, vs, rfl⟩ := List.exists_cons_of_length_eq_add_one h.symm
      rw [List.zipWith_cons_cons, List.sum_cons, ih (Nat.succ.inj h), List.sum_cons, List.sum_cons]
      ring

/-- Adding full rows to the totals moves their sum from the list into the totals. -/
theorem addRows_map_finite {count : Nat} {totals qs : List Rat}
    (htotals : totals.length = rowLength) (hqs : count * rowLength ≤ qs.length) :
    ∃ us rs : List Rat,
      addRows count (totals.map finite) (qs.map finite) = (us.map finite, rs.map finite) ∧
        us.sum + rs.sum = totals.sum + qs.sum := by
  induction count generalizing totals qs with
  | zero => exact ⟨totals, qs, rfl, rfl⟩
  | succ count ih =>
      rw [Nat.succ_mul] at hqs
      have htake : (qs.take rowLength).length = rowLength := by
        rw [List.length_take]
        omega
      have hnext : List.zipWith (· + ·) (totals.map finite) ((qs.map finite).take rowLength) =
          (List.zipWith (· + ·) totals (qs.take rowLength)).map finite := by
        simp [← List.map_take, List.zipWith_map, List.map_zipWith]
      have htotals' : (List.zipWith (· + ·) totals (qs.take rowLength)).length = rowLength := by
        rw [List.length_zipWith, htotals, htake, Nat.min_self]
      have hqs' : count * rowLength ≤ (qs.drop rowLength).length := by
        rw [List.length_drop]
        omega
      obtain ⟨us, rs, hrows, hsum⟩ := ih htotals' hqs'
      refine ⟨us, rs, ?_, ?_⟩
      · rw [addRows, hnext, ← List.map_drop, hrows]
      · rw [hsum, sum_zipWith_add (htotals.trans htake.symm), add_assoc, ← List.sum_append,
          List.take_append_drop]

theorem rowSum_map_finite {qs : List Rat} (h : rowLength ≤ qs.length) :
    rowSum (qs.map finite) = finite qs.sum := by
  have htake : (qs.take rowLength).length = rowLength := by
    rw [List.length_take]
    omega
  have hrest : (qs.length / rowLength - 1) * rowLength ≤ (qs.drop rowLength).length := by
    rw [List.length_drop, Nat.sub_mul, Nat.one_mul]
    exact Nat.sub_le_sub_right (Nat.div_mul_le_self _ _) _
  obtain ⟨us, rs, hrows, hsum⟩ := addRows_map_finite htake hrest
  obtain ⟨once, honce, hsumOnce⟩ := joinPairs_map_finite us
  obtain ⟨twice, htwice, hsumTwice⟩ := joinPairs_map_finite once
  obtain ⟨thrice, hthrice, hsumThrice⟩ := joinPairs_map_finite twice
  unfold rowSum
  rw [List.length_map, ← List.map_take, ← List.map_drop, hrows]
  simp only [honce, htwice, hthrice, sum_map_finite, foldl_add_finite]
  rw [hsumThrice, hsumTwice, hsumOnce, hsum, ← List.sum_append, List.take_append_drop]

theorem pairwiseSum_map_finite (qs : List Rat) : pairwiseSum (qs.map finite) = finite qs.sum := by
  rw [pairwiseSum, List.length_map]
  split
  · exact sum_map_finite qs
  · next hrow =>
      split
      · next long =>
          have hpos := cut_pos long
          have hlt := cut_lt long
          rw [← List.map_take, ← List.map_drop, pairwiseSum_map_finite, pairwiseSum_map_finite,
            finite_add_finite, ← List.sum_append, List.take_append_drop]
      · exact rowSum_map_finite (not_lt.1 hrow)
termination_by qs.length
decreasing_by
  · rw [List.length_take]
    omega
  · rw [List.length_drop]
    omega

def fractions {n : Nat} (v : Fin n → Rat) : List Exact := List.ofFn fun i => finite (v i)

section Vectors

variable {n : Nat} {u v : Fin n → Rat}

theorem fractions_eq_map (v : Fin n → Rat) : fractions v = (List.ofFn v).map finite := by
  rw [List.map_ofFn]
  rfl

@[simp] theorem length_fractions (v : Fin n → Rat) : (fractions v).length = n := List.length_ofFn

theorem getElem?_fractions (v : Fin n → Rat) (i : Fin n) :
    (fractions v)[i.val]? = some (finite (v i)) := by
  rw [fractions, List.getElem?_ofFn, dif_pos i.isLt]

theorem fractions_succ (x : Fin (n + 1) → Rat) :
    fractions x = finite (x 0) :: fractions fun i => x i.succ := by
  rw [fractions, List.ofFn_succ]
  rfl

theorem exists_fractions {vs : List Exact} (h : ∀ v ∈ vs, isFinite v = true)
    (hlength : vs.length = n) : ∃ v : Fin n → Rat, vs = fractions v := by
  obtain ⟨qs, rfl⟩ := exists_map_finite h
  rw [List.length_map] at hlength
  subst hlength
  exact ⟨qs.get, by rw [fractions_eq_map, List.ofFn_get]⟩

theorem map_fractions {f : Exact → Exact} {g : Rat → Rat} (h : ∀ a, f (finite a) = finite (g a))
    (v : Fin n → Rat) : (fractions v).map f = fractions fun i => g (v i) := by
  rw [fractions, List.map_ofFn]
  exact congrArg List.ofFn (funext fun i => h (v i))

theorem zipWith_fractions {f : Exact → Exact → Exact} {g : Rat → Rat → Rat}
    (h : ∀ a b, f (finite a) (finite b) = finite (g a b)) (u v : Fin n → Rat) :
    List.zipWith f (fractions u) (fractions v) = fractions fun i => g (u i) (v i) := by
  refine List.ext_getElem (by simp) fun i hi hi' => ?_
  simp [fractions, h]

theorem dot_fractions (u v : Fin n → Rat) :
    Scalar.dot (fractions u) (fractions v) = finite (∑ i, u i * v i) := by
  have hproducts : List.zipWith (· * ·) (fractions u) (fractions v) =
      fractions fun i => u i * v i := zipWith_fractions finite_mul_finite u v
  rw [Scalar.dot, hproducts, fractions_eq_map, sum_map_finite, List.sum_ofFn]

theorem pairwiseSum_fractions (v : Fin n → Rat) :
    pairwiseSum (fractions v) = finite (∑ i, v i) := by
  rw [fractions_eq_map, pairwiseSum_map_finite, List.sum_ofFn]

end Vectors

end NonlinearProgram.Exact
