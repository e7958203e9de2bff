import NonlinearProgram.Function.Affine
import NonlinearProgram.Proofs.Function.FiniteDifference

/-!
# Derivatives of affine functions

An affine function follows the formula of its matrix and its offset, with the rows of the matrix
for its gradients and zeros for its Hessians. A value moves by a row times the step, so all of its
differences are exact.
-/

namespace NonlinearProgram

open Exact

variable {n m : Nat}

theorem Matrix.part_ofFn {α : Type} (A : Fin m → Fin n → α) (k : Fin m) :
    (Matrix.ofFn A).toTensor.part (.whole k.val) = .ok (.vector (List.ofFn (A k))) := by
  have hshape : (Matrix.ofFn A).toTensor.shape = [m, n] := by
    rw [Matrix.toTensor, Matrix.height_ofFn]
    rfl
  have hcapacity : Tensor.capacity [n] = n := Nat.mul_one n
  have hrow : (Matrix.ofFn A).rows[k.val]? = some (List.ofFn (A k)) := by
    unfold Matrix.ofFn
    simp
  simp only [Tensor.part, hshape, hcapacity, Matrix.rowsOf_ofFn, Int.natCast_nonneg, if_true,
    Int.toNat_natCast, hrow]
  rw [Tensor.vector, List.length_ofFn]

theorem Matrix.zero_eq_ofFractions (m n : Nat) :
    (Matrix.zero m n : Matrix Exact) = .ofFractions fun (_ : Fin m) (_ : Fin n) => 0 := by
  rw [Matrix.zero_eq_generate, Matrix.generate_eq_ofFn, zero_eq]
  rfl

namespace Affine

def formula (A : Fin m → Fin n → Rat) (b : Fin m → Rat) : Formula n m where
  value k x := ∑ j, A k j * x j + b k
  gradient k _ := A k
  hessian _ _ _ _ := 0

theorem differencesExact_formula (A : Fin m → Fin n → Rat) (b : Fin m → Rat) :
    (formula A b).DifferencesExact where
  value k x j t := by
    simp only [formula]
    rw [add_sub_add_right_eq_sub, sum_mul_sub_sum_mul]
  gradient k x i j t := by simp [formula]

theorem follows_of_toFunction {A : Fin m → Fin n → Rat} {b : Fin m → Rat} {name : Datum Exact}
    {g : Function Exact} (hg : toFunction ⟨.ofFractions A, fractions b⟩ name = .ok g) :
    g.Follows (formula A b) := by
  have hheight : (Matrix.ofFractions A).height = m := Matrix.height_ofFn _
  unfold toFunction at hg
  simp only [hheight] at hg
  refine Function.HooksFollow.of_declare ⟨fun x => ?_, fun k x => ?_, fun k x => ?_⟩ hg
  · have hvalue : value ⟨.ofFractions A, fractions b⟩ (fractions x) =
        fractions fun k => (formula A b).value k x := by
      rw [value, Matrix.mulVector_ofFractions]
      exact zipWith_fractions finite_add_finite _ _
    rw [← hvalue]
    rfl
  · refine ⟨_, rfl, ?_⟩
    rw [row, Matrix.ofFractions, Matrix.part_ofFn]
    rfl
  · refine ⟨_, rfl, ?_⟩
    rw [Matrix.zero_eq_ofFractions]
    rfl

section Accepted

variable {α : Type} [Scalar α] {f : Affine α} {matrix : Datum α} {offset : Option (Datum α)}

structure WellFormed (f : Affine α) : Prop where
  rows : ∀ row ∈ f.matrix.rows, row.length = f.matrix.width
  offset : f.offset.length = f.matrix.height

theorem wellFormed_of_ofDatum (h : ofDatum matrix offset = .ok f) : f.WellFormed := by
  obtain ⟨t, ht, h⟩ := bind_eq_ok_iff.1 h
  have hrows {height width : Nat} := Tensor.length_row_atLeastMatrix (m := height) (n := width) ht
  generalize t.atLeastMatrix = t at h hrows
  match hshape : t.shape with
  | [] | [_] | _ :: _ :: _ :: _ =>
      simp only [Matrix.ofTensor?, hshape] at h
      cases h
  | [height, width] =>
      simp only [Matrix.ofTensor?, hshape] at h
      cases offset with
      | none =>
          cases h
          exact ⟨hrows hshape, List.length_replicate⟩
      | some given =>
          obtain ⟨u, hu, h⟩ := bind_eq_ok_iff.1 h
          split at h
          · next hvector =>
              cases h
              exact ⟨hrows hshape, Tensor.length_entries_atLeastVector hu hvector⟩
          · cases h

end Accepted

/-- All numbers of an affine function are fractions. -/
structure IsFinite (f : Affine Exact) : Prop where
  matrix : ∀ row ∈ f.matrix.rows, ∀ v ∈ row, Scalar.isFinite v = true
  offset : ∀ v ∈ f.offset, Scalar.isFinite v = true

theorem WellFormed.exists_fractions {f : Affine Exact} (h : f.WellFormed) (hf : f.IsFinite) :
    ∃ (n m : Nat) (A : Fin m → Fin n → Rat) (b : Fin m → Rat),
      f = ⟨.ofFractions A, fractions b⟩ := by
  obtain ⟨A, hA⟩ := Matrix.exists_ofFractions rfl rfl h.rows hf.matrix
  obtain ⟨b, hb⟩ := Exact.exists_fractions hf.offset h.offset
  refine ⟨_, _, A, b, ?_⟩
  rw [← hA, ← hb]

end Affine

end NonlinearProgram
