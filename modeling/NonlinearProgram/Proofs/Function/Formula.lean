import NonlinearProgram.Proofs.Function.Failure
import NonlinearProgram.Proofs.Function.Supplied
import NonlinearProgram.Proofs.Matrix
import NonlinearProgram.Proofs.Scalar.Fractions

/-!
# Functions that follow a formula

Over exact scalars a function can be compared with a formula: a value, a gradient and a Hessian for
every output at every vector of fractions. A function follows a formula where its three operations
give what the formula says, and for that it is enough that its hooks do. What is true of the
formula, such as that its gradient belongs to its value, is then true of the function.
-/

namespace NonlinearProgram

open Exact

namespace Matrix

def ofFractions {m n : Nat} (A : Fin m → Fin n → Rat) : Matrix Exact :=
  ofFn fun i j => finite (A i j)

variable {m n : Nat}

theorem rows_ofFractions (A : Fin m → Fin n → Rat) :
    (ofFractions A).rows = List.ofFn fun i => fractions (A i) := rfl

theorem transpose_ofFractions (A : Fin m → Fin n → Rat) :
    (ofFractions A).transpose = ofFractions fun j i => A i j := transpose_ofFn _

theorem ofFractions_inj {A B : Fin m → Fin n → Rat} : ofFractions A = ofFractions B ↔ A = B := by
  rw [ofFractions, ofFractions, ofFn_inj]
  constructor
  · intro h
    funext i j
    exact Exact.finite.inj (congrFun (congrFun h i) j)
  · rintro rfl
    rfl

theorem mulVector_ofFractions (A : Fin m → Fin n → Rat) (x : Fin n → Rat) :
    (ofFractions A).mulVector (fractions x) = fractions fun i => ∑ j, A i j * x j := by
  rw [mulVector, rows_ofFractions, List.map_ofFn]
  exact congrArg List.ofFn (funext fun i => dot_fractions (A i) x)

theorem vectorMul_ofFractions (x : Fin m → Rat) (A : Fin m → Fin n → Rat) :
    vectorMul (fractions x) (ofFractions A) = fractions fun j => ∑ i, x i * A i j := by
  rw [vectorMul, transpose_ofFractions, rows_ofFractions, List.map_ofFn]
  exact congrArg List.ofFn (funext fun j => dot_fractions x fun i => A i j)

theorem exists_ofFractions {a : Matrix Exact} (hheight : a.height = m) (hwidth : a.width = n)
    (hrows : ∀ row ∈ a.rows, row.length = n)
    (hfinite : ∀ row ∈ a.rows, ∀ v ∈ row, Scalar.isFinite v = true) :
    ∃ A : Fin m → Fin n → Rat, a = ofFractions A := by
  obtain ⟨B, rfl⟩ := exists_ofFn hheight hwidth hrows
  have hentry (i : Fin m) (j : Fin n) : ∃ q, B i j = finite q := by
    have hrow : List.ofFn (B i) ∈ (ofFn B).rows := List.mem_ofFn.2 ⟨i, rfl⟩
    exact (isFinite_iff _).1 (hfinite _ hrow _ (List.mem_ofFn.2 ⟨j, rfl⟩))
  choose A hA using hentry
  exact ⟨A, congrArg ofFn (funext fun i => funext (hA i))⟩

end Matrix

/-- A value, a gradient and a Hessian for each of `m` outputs at every vector of `n` fractions. -/
structure Formula (n m : Nat) where
  value : Fin m → (Fin n → Rat) → Rat
  gradient : Fin m → (Fin n → Rat) → Fin n → Rat
  hessian : Fin m → (Fin n → Rat) → Fin n → Fin n → Rat

namespace Function

structure Follows {n m : Nat} (f : Function Exact) (F : Formula n m) : Prop where
  inputSize : f.inputSize = n
  outputSize : f.outputSize = m
  compute (x : Fin n → Rat) :
    f.compute (.vector (fractions x)) = .ok (fractions fun k => F.value k x)
  gradient (k : Fin m) (x : Fin n → Rat) :
    f.gradient (.vector (fractions x)) (.whole k.val) = .ok (fractions (F.gradient k x))
  hessian (k : Fin m) (x : Fin n → Rat) :
    f.hessian (.vector (fractions x)) (.whole k.val) = .ok (.ofFractions (F.hessian k x))

variable {n m : Nat} {f : Function Exact} {F : Formula n m}

section Argument

variable {d : Datum Exact} {x : Fin n → Rat} (h : f.Follows F)
  (hd : Tensor.ofDatum d = .ok (.vector (fractions x)))

include h hd

theorem Follows.checkArgument_eq_ok : f.checkArgument d = .ok (fractions x) :=
  checkArgument_eq_ok_iff.2 ⟨hd, (length_fractions x).trans h.inputSize.symm⟩

theorem Follows.gradient_eq_ok (k : Fin m) :
    f.gradient d (.whole k.val) = .ok (fractions (F.gradient k x)) :=
  (gradient_congr (hd.trans (Tensor.ofDatum_vector _).symm) _).trans (h.gradient k x)

theorem Follows.hessian_eq_ok (k : Fin m) :
    f.hessian d (.whole k.val) = .ok (.ofFractions (F.hessian k x)) :=
  (hessian_congr (hd.trans (Tensor.ofDatum_vector _).symm) _).trans (h.hessian k x)

end Argument

/-- The hooks of a function give what a formula says. -/
structure HooksFollow (hooks : Hooks Exact) (F : Formula n m) : Prop where
  compute (x : Fin n → Rat) :
    hooks.compute (fractions x) = .ok (.tensor (.vector (fractions fun k => F.value k x)))
  gradient (k : Fin m) (x : Fin n → Rat) : ∃ hook, hooks.gradient? = some hook ∧
    hook (fractions x) (.whole k.val) = .ok (.tensor (.vector (fractions (F.gradient k x))))
  hessian (k : Fin m) (x : Fin n → Rat) : ∃ hook, hooks.hessian? = some hook ∧
    hook (fractions x) (.whole k.val) = .ok (.tensor (Matrix.ofFractions (F.hessian k x)).toTensor)

theorem checkSquare_ofFractions (A : Fin f.inputSize → Fin f.inputSize → Rat) :
    f.checkSquare (.tensor (Matrix.ofFractions A).toTensor) = .ok (.ofFractions A) := by
  have hshape : (Matrix.ofFractions A).toTensor.shape = [f.inputSize, f.inputSize] := by
    rw [Matrix.toTensor, Matrix.ofFractions, Matrix.height_ofFn]
    rfl
  change (if _ then pure _ else throw _) = _
  rw [if_pos hshape, Matrix.ofFractions, Matrix.rowsOf_ofFn]
  rfl

theorem HooksFollow.follows (h : HooksFollow f.hooks F) (hinput : f.inputSize = n)
    (houtput : f.outputSize = m) : f.Follows F := by
  subst hinput houtput
  have hargument (x : Fin f.inputSize → Rat) :
      f.checkArgument (.vector (fractions x)) = .ok (fractions x) :=
    checkArgument_vector (length_fractions x)
  refine ⟨rfl, rfl, fun x => ?_, fun k x => ?_, fun k x => ?_⟩
  · rw [Function.compute, hargument, ok_bind, h.compute, ok_bind]
    exact if_pos (length_fractions _)
  · obtain ⟨hook, hhook, hresult⟩ := h.gradient k x
    unfold Function.gradient
    rw [hhook, hargument, checkIndex_whole k.isLt]
    simp only [ok_bind, hresult]
    exact if_pos (length_fractions _)
  · obtain ⟨hook, hhook, hresult⟩ := h.hessian k x
    unfold Function.hessian
    rw [hhook, hargument, checkIndex_whole k.isLt]
    simp only [ok_bind, hresult]
    exact checkSquare_ofFractions _

theorem HooksFollow.of_declare {hooks : Hooks Exact} (h : HooksFollow hooks F) {family : String}
    {name : Datum Exact} (hf : declare family name (.whole n) (.whole m) hooks = .ok f) :
    f.Follows F := by
  obtain ⟨inputs, hinputs, hrest⟩ := bind_eq_ok_iff.1 hf
  obtain ⟨outputs, houtputs, hrest⟩ := bind_eq_ok_iff.1 hrest
  cases hrest
  have hn : n = inputs.val := by
    simpa [Datum.whole?] using Datum.whole?_of_natFrom hinputs
  have hm : m = outputs.val := by
    simpa [Datum.whole?] using Datum.whole?_of_natFrom houtputs
  exact HooksFollow.follows h hn.symm hm.symm

end Function

end NonlinearProgram
