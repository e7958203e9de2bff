import NonlinearProgram.Function.Basic
import NonlinearProgram.Proofs.Tensor
import NonlinearProgram.Scalar.Exact

/-!
# Evaluating functions

What the checks around the hooks of a function guarantee: a function is evaluated at vectors of its
input size only, looks at nothing of its argument but the vector, and returns as many entries as it
declares. The Jacobian has the gradients for its rows.
-/

namespace NonlinearProgram.Function

variable {α : Type} [Scalar α] {f : Function α} {x : Datum α} {xs : List α}

theorem checkArgument_eq_ok_iff : f.checkArgument x = .ok xs ↔
    Tensor.ofDatum x = .ok (.vector xs) ∧ xs.length = f.inputSize := by
  unfold checkArgument
  rw [bind_eq_ok_iff]
  constructor
  · rintro ⟨t, ht, h⟩
    split at h
    · next hshape =>
        obtain ⟨hvector, hlength⟩ := Tensor.eq_vector_of_ofDatum ht hshape
        rw [pure_eq_ok_iff] at h
        rw [h] at hvector hlength
        rw [ht, hvector]
        exact ⟨rfl, hlength⟩
    · cases h
  · rintro ⟨hx, hlength⟩
    refine ⟨_, hx, ?_⟩
    simp [Tensor.vector, hlength]

theorem checkArgument_congr {y : Datum α} (h : Tensor.ofDatum x = Tensor.ofDatum y) :
    f.checkArgument x = f.checkArgument y := by
  unfold checkArgument
  rw [h]

theorem compute_congr {y : Datum α} (h : Tensor.ofDatum x = Tensor.ofDatum y) :
    f.compute x = f.compute y := by
  unfold compute
  rw [checkArgument_congr h]

theorem gradient_congr {y : Datum α} (h : Tensor.ofDatum x = Tensor.ofDatum y) (index : Datum α) :
    f.gradient x index = f.gradient y index := by
  unfold gradient
  rw [checkArgument_congr h]

theorem hessian_congr {y : Datum α} (h : Tensor.ofDatum x = Tensor.ofDatum y) (index : Datum α) :
    f.hessian x index = f.hessian y index := by
  unfold hessian
  rw [checkArgument_congr h]

theorem length_of_checkResult {what : String} {size : Nat} {result : ArrayLike α}
    {entries : List α} (h : f.checkResult what size result = .ok entries) :
    entries.length = size := by
  obtain ⟨t, -, h⟩ := bind_eq_ok_iff.1 h
  split at h
  · next hsize =>
      rw [pure_eq_ok_iff] at h
      rw [← h]
      exact hsize
  · cases h

theorem length_of_compute {values : List α} (h : f.compute x = .ok values) :
    values.length = f.outputSize := by
  obtain ⟨point, -, h⟩ := bind_eq_ok_iff.1 h
  obtain ⟨result, -, h⟩ := bind_eq_ok_iff.1 h
  exact length_of_checkResult h

theorem checkArgument_of_compute {values : List α} (h : f.compute x = .ok values) :
    ∃ point, f.checkArgument x = .ok point := by
  obtain ⟨point, hpoint, -⟩ := bind_eq_ok_iff.1 h
  exact ⟨point, hpoint⟩

theorem length_of_gradient {index : Datum α} {entries : List α}
    (h : f.gradient x index = .ok entries) : entries.length = f.inputSize := by
  unfold gradient at h
  cases hook : f.hooks.gradient? with
  | none => simp [hook] at h
  | some _ =>
      rw [hook] at h
      obtain ⟨point, -, h⟩ := bind_eq_ok_iff.1 h
      obtain ⟨-, -, h⟩ := bind_eq_ok_iff.1 h
      obtain ⟨result, -, h⟩ := bind_eq_ok_iff.1 h
      exact length_of_checkResult h

/-- A gradient is only asked of a hook, and at a vector of the input size. -/
theorem hook_of_gradient {index : Datum α} {entries : List α}
    (h : f.gradient x index = .ok entries) :
    f.hooks.gradient?.isSome = true ∧ ∃ point, f.checkArgument x = .ok point := by
  unfold gradient at h
  cases hook : f.hooks.gradient? with
  | none => simp [hook] at h
  | some _ =>
      rw [hook] at h
      obtain ⟨point, hpoint, -⟩ := bind_eq_ok_iff.1 h
      exact ⟨rfl, point, hpoint⟩

theorem jacobian_of_gradient?_eq_none (hf : f.hooks.gradient? = none) :
    f.jacobian x = .error (f.missing "jacobian" .differentiable) := by
  unfold jacobian
  rw [hf]

/-- The Jacobian goes through its rows, each of them a gradient with checks of its own. An argument
that is refused is refused by the first row, of which there always is one. -/
theorem jacobian_eq_mapM (hf : f.hooks.gradient?.isSome = true) :
    f.jacobian x = (Matrix.mk f.inputSize ·) <$>
      (List.range f.outputSize).mapM fun (i : Nat) => f.gradient x (.whole i) := by
  obtain ⟨hook, hhook⟩ := Option.isSome_iff_exists.1 hf
  unfold jacobian
  rw [hhook]
  cases hpoint : f.checkArgument x with
  | error e =>
      have hfirst : f.gradient x (.whole (0 : Nat)) = .error e := by
        unfold gradient
        simp only [hhook, hpoint]
        rfl
      obtain ⟨m, hm⟩ := Nat.exists_eq_succ_of_ne_zero (Nat.ne_of_gt f.outputSize_pos)
      rw [hm, List.range_succ_eq_map, List.mapM_cons, hfirst]
      rfl
  | ok point =>
      have hvector : Tensor.ofDatum x = Tensor.ofDatum (.vector point) := by
        rw [(checkArgument_eq_ok_iff.1 hpoint).1, Tensor.ofDatum_vector]
      simp only [gradient_congr hvector]
      rfl

theorem jacobian_eq_ok_iff {J : Matrix α} : f.jacobian x = .ok J ↔ J.width = f.inputSize ∧
    List.Forall₂ (fun (i : Nat) row => f.gradient x (.whole i) = .ok row)
      (List.range f.outputSize) J.rows := by
  cases hook : f.hooks.gradient? with
  | none =>
      constructor
      · intro h
        rw [jacobian_of_gradient?_eq_none hook] at h
        cases h
      · rintro ⟨-, hrows⟩
        obtain ⟨row, -, hrow⟩ := exists_of_mem_left hrows (List.mem_range.2 f.outputSize_pos)
        have hsome := (hook_of_gradient hrow).1
        rw [hook] at hsome
        cases hsome
  | some _ =>
      rw [jacobian_eq_mapM (by rw [hook]; rfl), map_eq_ok_iff]
      simp only [mapM_eq_ok_iff]
      constructor
      · rintro ⟨rows, hrows, rfl⟩
        exact ⟨rfl, hrows⟩
      · rintro ⟨hwidth, hrows⟩
        exact ⟨J.rows, hrows, by rw [← hwidth]⟩

theorem jacobian_eq_ok {d : Nat → List α}
    (h : ∀ i, i < f.outputSize → f.gradient x (.whole i) = .ok (d i)) :
    f.jacobian x = .ok ⟨f.inputSize, (List.range f.outputSize).map d⟩ := by
  rw [jacobian_eq_ok_iff, List.forall₂_map_right_iff, List.forall₂_same]
  exact ⟨rfl, fun i hi => h i (List.mem_range.1 hi)⟩

end NonlinearProgram.Function

namespace NonlinearProgram

def coordinate : Function Exact where
  family := "CallableDifferentiableFunction"
  name := .text "coordinate"
  inputSize := 1
  outputSize := 1
  outputSize_pos := Nat.one_pos
  hooks := .differentiable (fun x => .ok (.datum (.vector x)))
    fun _ _ => .ok (.datum (.vector [.finite 1]))

def square : Function Exact where
  family := "CallableTwiceDifferentiableFunction"
  name := .text "square"
  inputSize := 1
  outputSize := 1
  outputSize_pos := Nat.one_pos
  hooks := .twiceDifferentiable (fun x => .ok (.datum (.vector (x.map fun v => v * v))))
    (fun x _ => .ok (.datum (.vector (x.map fun v => .finite 2 * v))))
    fun _ _ => .ok (.datum (.list [.vector [.finite 2]]))

end NonlinearProgram
