import Mathlib.Data.Option.Defs
import NonlinearProgram.Proofs.Function.Evaluation
import NonlinearProgram.Proofs.Function.Supplied

/-!
# The contract of evaluations

Callers of a function and its hooks are shielded from each other. Results have the declared sizes
or there are none, the Jacobian is its rows, and what a hook does at other vectors or indices than
the declared ones is never seen. A function of callables passes this on to them.
-/

namespace NonlinearProgram

variable {α : Type}

namespace Function

variable [Scalar α] {f : Function α} {x index : Datum α} {xs : List α} {e : Error α}

/-- Arrays that hooks return as such have an entry for every place of their shape; what is read off
nested lists always has. -/
def ReturnsFilled (f : Function α) : Prop :=
  ∀ hook, f.hooks.hessian? = some hook → ∀ xs index t, hook xs index = .ok (.tensor t) →
    t.entries.length = Tensor.capacity t.shape

theorem length_entries_of_toTensor {a : ArrayLike α} {t : Tensor α} (ht : a.toTensor = .ok t)
    (ha : a = .tensor t → t.entries.length = Tensor.capacity t.shape) :
    t.entries.length = Tensor.capacity t.shape := by
  cases a with
  | datum d => exact Tensor.length_entries_of_ofDatum ht
  | tensor _ =>
      cases ht
      exact ha rfl

theorem size_of_hessian {H : Matrix α} (h : f.hessian x index = .ok H) :
    H.width = f.inputSize ∧ H.height = f.inputSize ∧
      (f.ReturnsFilled → ∀ row ∈ H.rows, row.length = f.inputSize) := by
  rw [hessian_eq_run] at h
  obtain ⟨hook, xs, a, t, hcalls, ha, ht, hfits, rfl⟩ := Evaluation.exists_of_run_eq_ok h
  refine ⟨rfl, Tensor.length_rowsOf .., fun hfilled => ?_⟩
  have hshape : t.shape = [f.inputSize, f.inputSize] := by
    by_contra hshape
    simp only [hessians, wrongShape, if_neg hshape] at hfits
    cases hfits
  have hlength : t.entries.length = f.inputSize * f.inputSize := by
    have hentries : t.entries.length = Tensor.capacity t.shape := by
      refine length_entries_of_toTensor ht ?_
      rintro rfl
      exact hfilled hook hcalls.hook xs index t ha
    rw [hentries, hshape]
    simp [Tensor.capacity]
  exact Tensor.length_of_mem_rowsOf (Nat.le_of_eq hlength.symm)

/-- A Jacobian is refused for the tier, or fails as its first row that does. -/
theorem jacobian_eq_error_iff : f.jacobian x = .error e ↔
    (¬Tier.differentiable ≤ f.tier ∧ e = f.missing "jacobian" .differentiable) ∨
      (Tier.differentiable ≤ f.tier ∧ ∃ i, i < f.outputSize ∧
        (∀ j, j < i → ∃ row, f.gradient x (.whole (j : Nat)) = .ok row) ∧
        f.gradient x (.whole (i : Nat)) = .error e) := by
  have hprovided : f.hooks.gradient?.isSome = true ↔ Tier.differentiable ≤ f.tier :=
    f.hooks.gradient?_isSome
  cases hhook : f.hooks.gradient? with
  | none =>
      have htier : ¬Tier.differentiable ≤ f.tier := by simp [← hprovided, hhook]
      rw [jacobian_of_gradient?_eq_none hhook]
      simp [htier, eq_comm]
  | some hook =>
      have hf : f.hooks.gradient?.isSome = true := Option.isSome_iff_exists.2 ⟨hook, hhook⟩
      rw [jacobian_eq_mapM hf, map_eq_error_iff, mapM_eq_error_iff]
      simp [hprovided.1 hf, and_left_comm]

theorem exists_jacobian_iff : (∃ J, f.jacobian x = .ok J) ↔
    ∀ i, i < f.outputSize → ∃ row, f.gradient x (.whole (i : Nat)) = .ok row := by
  constructor
  · rintro ⟨J, hJ⟩ i hi
    obtain ⟨row, -, hrow⟩ := exists_of_mem_left (jacobian_eq_ok_iff.1 hJ).2 (List.mem_range.2 hi)
    exact ⟨row, hrow⟩
  · intro h
    choose! row hrow using h
    exact ⟨_, jacobian_eq_ok hrow⟩

def withHooks (f : Function α) (hooks : Hooks α) : Function α := { f with hooks := hooks }

/-- A step after the check of an argument is met by vectors of the input size only. -/
theorem checkArgument_bind_congr {β : Type} {F G : List α → Except (Error α) β}
    (h : ∀ xs, xs.length = f.inputSize → F xs = G xs) :
    (f.checkArgument x >>= F) = f.checkArgument x >>= G := by
  cases hx : f.checkArgument x with
  | error e => rfl
  | ok xs => exact h xs (checkArgument_eq_ok_iff.1 hx).2

theorem checkIndex_bind_congr {β : Type} {F G : Unit → Except (Error α) β}
    (h : index.Indexes f.outputSize → F () = G ()) :
    (f.checkIndex index >>= F) = f.checkIndex index >>= G := by
  cases hindex : f.checkIndex index with
  | error e => rfl
  | ok _ => exact h (checkIndex_eq_ok_iff.1 hindex)

end Function

namespace Hooks

variable [Scalar α] {n m : Nat}

/-- Two hooks for derivatives do the same at every vector of the input size and every index of
an output. -/
def DerivativesAgree (n m : Nat) (g g' : DerivativeHook α) : Prop :=
  ∀ xs index, xs.length = n → index.Indexes m → g xs index = g' xs index

/-- Hooks of one tier that do the same within the sizes of a function, and anything outside. -/
inductive AgreeWithin (n m : Nat) : Hooks α → Hooks α → Prop
  | valueOnly {c c' : ValueHook α} (hc : ∀ xs, xs.length = n → c xs = c' xs) :
      AgreeWithin n m (.valueOnly c) (.valueOnly c')
  | differentiable {c c' : ValueHook α} {g g' : DerivativeHook α}
      (hc : ∀ xs, xs.length = n → c xs = c' xs) (hg : DerivativesAgree n m g g') :
      AgreeWithin n m (.differentiable c g) (.differentiable c' g')
  | twiceDifferentiable {c c' : ValueHook α} {g g' h h' : DerivativeHook α}
      (hc : ∀ xs, xs.length = n → c xs = c' xs) (hg : DerivativesAgree n m g g')
      (hh : DerivativesAgree n m h h') :
      AgreeWithin n m (.twiceDifferentiable c g h) (.twiceDifferentiable c' g' h')

namespace AgreeWithin

variable {h h' : Hooks α}

theorem tier_eq (hh : AgreeWithin n m h h') : h.tier = h'.tier := by cases hh <;> rfl

theorem gradient?_isSome_eq (hh : AgreeWithin n m h h') :
    h.gradient?.isSome = h'.gradient?.isSome := by
  cases hh <;> rfl

theorem compute_eq (hh : AgreeWithin n m h h') {xs : List α} (hxs : xs.length = n) :
    h.compute xs = h'.compute xs := by
  cases hh with
  | valueOnly hc => exact hc xs hxs
  | differentiable hc => exact hc xs hxs
  | twiceDifferentiable hc => exact hc xs hxs

theorem gradient_rel (hh : AgreeWithin n m h h') :
    Option.Rel (DerivativesAgree n m) h.gradient? h'.gradient? := by
  cases hh with
  | valueOnly => exact .none
  | differentiable _ hg => exact .some hg
  | twiceDifferentiable _ hg => exact .some hg

theorem hessian_rel (hh : AgreeWithin n m h h') :
    Option.Rel (DerivativesAgree n m) h.hessian? h'.hessian? := by
  cases hh with
  | valueOnly => exact .none
  | differentiable => exact .none
  | twiceDifferentiable _ _ hh => exact .some hh

end AgreeWithin

end Hooks

namespace Function

variable [Scalar α] {f : Function α} {x index : Datum α} {hooks : Hooks α}

def derivative {β : Type} (f : Function α) (hook? : Option (DerivativeHook α)) (refusal : Error α)
    (x index : Datum α) (fit : ArrayLike α → Except (Error α) β) : Except (Error α) β :=
  match hook? with
  | none => .error refusal
  | some hook => do
    let point ← f.checkArgument x
    f.checkIndex index
    fit (← hook point index)

theorem derivative_congr {β : Type} {g g' : Option (DerivativeHook α)}
    (h : Option.Rel (Hooks.DerivativesAgree f.inputSize f.outputSize) g g') (refusal : Error α)
    (fit : ArrayLike α → Except (Error α) β) :
    f.derivative g refusal x index fit = f.derivative g' refusal x index fit := by
  cases h with
  | none => rfl
  | some hook =>
      refine checkArgument_bind_congr fun xs hxs => checkIndex_bind_congr fun hindex => ?_
      rw [hook xs index hxs hindex]

section Shielding

variable (h : Hooks.AgreeWithin f.inputSize f.outputSize hooks f.hooks)

include h

theorem missing_withHooks (operation : String) (needs : Tier) :
    (f.withHooks hooks).missing operation needs = f.missing operation needs := by
  have htier : (f.withHooks hooks).tier = f.tier := h.tier_eq
  unfold missing
  rw [htier]
  rfl

theorem compute_withHooks : (f.withHooks hooks).compute x = f.compute x := by
  refine checkArgument_bind_congr (f := f) fun xs hxs => ?_
  change (hooks.compute xs >>= _) = _
  rw [h.compute_eq hxs]
  rfl

theorem gradient_withHooks : (f.withHooks hooks).gradient x index = f.gradient x index := by
  change f.derivative hooks.gradient? ((f.withHooks hooks).missing "gradient" .differentiable)
    x index (f.checkResult "gradient" f.inputSize) = _
  rw [missing_withHooks h]
  exact derivative_congr h.gradient_rel _ _

theorem hessian_withHooks : (f.withHooks hooks).hessian x index = f.hessian x index := by
  change f.derivative hooks.hessian?
    ((f.withHooks hooks).missing "hessian" .twiceDifferentiable) x index f.checkSquare = _
  rw [missing_withHooks h]
  exact derivative_congr h.hessian_rel _ _

theorem jacobian_withHooks : (f.withHooks hooks).jacobian x = f.jacobian x := by
  have hisSome : (f.withHooks hooks).hooks.gradient?.isSome = f.hooks.gradient?.isSome :=
    h.gradient?_isSome_eq
  by_cases hf : f.hooks.gradient?.isSome = true
  · rw [jacobian_eq_mapM hf, jacobian_eq_mapM (hisSome.trans hf)]
    simp only [gradient_withHooks h]
    rfl
  · have hf' := hf
    rw [← hisSome] at hf'
    rw [Option.not_isSome_iff_eq_none] at hf hf'
    rw [jacobian_of_gradient?_eq_none hf, jacobian_of_gradient?_eq_none hf', missing_withHooks h]

end Shielding

omit [Scalar α] in
theorem Wraps.returnsFilled {compute : Callable α} {gradient hessian : Option (Callable α)}
    (h : f.Wraps compute gradient hessian) : f.ReturnsFilled := by
  intro hook hhook xs index t ht
  rw [h.hessian, Option.map_eq_some_iff] at hhook
  obtain ⟨callable, -, rfl⟩ := hhook
  obtain ⟨d, -, ht⟩ := bind_eq_ok_iff.1 ht
  cases ht

/-- Evaluations of a function at an argument keep to a contract: what the hooks do beyond the
declared sizes is never seen; values, gradients and Hessians end with the first of their checks that
does not pass, or with a result of the declared size; the Jacobian exists where every row does, has
the gradients for its rows and otherwise fails as the tier or as the first failing row does. A
function of callables has the highest tier for which there are callables, and these are told an
index where it has more than one output; a callable for the Hessian asks for one for the
gradient. -/
structure KeepsContract (f : Function α) (x : Datum α) : Prop where
  shielded : ∀ hooks, Hooks.AgreeWithin f.inputSize f.outputSize hooks f.hooks →
    (f.withHooks hooks).compute x = f.compute x ∧
    (f.withHooks hooks).jacobian x = f.jacobian x ∧
    ∀ index, (f.withHooks hooks).gradient x index = f.gradient x index ∧
      (f.withHooks hooks).hessian x index = f.hessian x index
  compute_iff : ∀ r, f.compute x = r ↔ f.values.Ends x .nothing r
  gradient_iff : ∀ index r, f.gradient x index = r ↔ f.gradients.Ends x index r
  hessian_iff : ∀ index r, f.hessian x index = r ↔ f.hessians.Ends x index r
  length_compute : ∀ values, f.compute x = .ok values → values.length = f.outputSize
  length_gradient : ∀ index entries, f.gradient x index = .ok entries →
    entries.length = f.inputSize
  size_hessian : ∀ index H, f.hessian x index = .ok H →
    H.width = f.inputSize ∧ H.height = f.inputSize ∧
      (f.ReturnsFilled → ∀ row ∈ H.rows, row.length = f.inputSize)
  exists_jacobian_iff : (∃ J, f.jacobian x = .ok J) ↔
    ∀ i, i < f.outputSize → ∃ row, f.gradient x (.whole (i : Nat)) = .ok row
  rows_jacobian : ∀ J, f.jacobian x = .ok J → J.width = f.inputSize ∧
    List.Forall₂ (fun (i : Nat) row => f.gradient x (.whole i) = .ok row)
      (List.range f.outputSize) J.rows
  jacobian_eq_error_iff : ∀ e, f.jacobian x = .error e ↔
    (¬Tier.differentiable ≤ f.tier ∧ e = f.missing "jacobian" .differentiable) ∨
      (Tier.differentiable ≤ f.tier ∧ ∃ i, i < f.outputSize ∧
        (∀ j, j < i → ∃ row, f.gradient x (.whole (j : Nat)) = .ok row) ∧
        f.gradient x (.whole (i : Nat)) = .error e)
  refused : ∀ callableName compute gradient hessian inputSize outputSize name,
    gradient.isSome = false → hessian.isSome = true →
      (ofCallables callableName compute gradient hessian inputSize outputSize name :
        Except (Error α) (Function α)) = .error .hessianWithoutGradient
  accepted : ∀ callableName compute gradient hessian name,
    (hessian.isSome = true → gradient.isSome = true) → ∀ n m : Nat, 1 ≤ m →
      ∃ g : Function α,
        ofCallables callableName compute gradient hessian (.whole n) (.whole m) name = .ok g ∧
          g.inputSize = n ∧ g.outputSize = m
  wraps : ∀ callableName compute gradient hessian inputSize outputSize name,
    ofCallables callableName compute gradient hessian inputSize outputSize name = .ok f →
      f.Wraps compute gradient hessian ∧ f.ReturnsFilled ∧
      (Tier.differentiable ≤ f.tier ↔ gradient.isSome = true) ∧
      (Tier.twiceDifferentiable ≤ f.tier ↔ hessian.isSome = true)

theorem keepsContract (f : Function α) (x : Datum α) : f.KeepsContract x where
  shielded hooks h := ⟨compute_withHooks h, jacobian_withHooks h,
    fun index => ⟨gradient_withHooks h, hessian_withHooks h⟩⟩
  compute_iff r := by
    rw [compute_eq_run .nothing]
    exact Evaluation.run_eq_iff
  gradient_iff index r := by
    rw [gradient_eq_run]
    exact Evaluation.run_eq_iff
  hessian_iff index r := by
    rw [hessian_eq_run]
    exact Evaluation.run_eq_iff
  length_compute _ := length_of_compute
  length_gradient _ _ := length_of_gradient
  size_hessian _ _ := size_of_hessian
  exists_jacobian_iff := exists_jacobian_iff
  rows_jacobian _ := jacobian_eq_ok_iff.1
  jacobian_eq_error_iff _ := jacobian_eq_error_iff
  refused _ _ _ _ _ _ _ := ofCallables_of_hessian_only
  accepted _ _ _ _ _ h n _ := exists_ofCallables_eq_ok h n
  wraps callableName compute gradient hessian inputSize outputSize name h := by
    have hwraps := wraps_of_ofCallables h
    exact ⟨hwraps, hwraps.returnsFilled, hwraps.tier_iff⟩

end Function

def lopsided : Function Exact where
  family := "CallableDifferentiableFunction"
  name := .text "lopsided"
  inputSize := 2
  outputSize := 2
  outputSize_pos := Nat.two_pos
  hooks := .differentiable (fun x => .ok (.datum (.vector x))) fun _ index =>
    match index with
    | .whole 0 => .ok (.datum (.list [.vector [.finite 1], .vector [.finite 0]]))
    | _ => .error (.raised .value "no second row")

/-- The column is laid out as a row, and the Jacobian fails as its second row does. -/
theorem keepsContract_lopsided :
    lopsided.gradient (.vector [.finite 3, .finite 4]) (.whole 0) =
      .ok [.finite 1, .finite 0] ∧
    lopsided.jacobian (.vector [.finite 3, .finite 4]) =
      .error (.raised .value "no second row") := by
  have hfirst : lopsided.gradient (.vector [.finite 3, .finite 4]) (.whole 0) =
      .ok [.finite 1, .finite 0] := rfl
  refine ⟨hfirst, ?_⟩
  have hcontract := Function.keepsContract lopsided (.vector [.finite 3, .finite 4])
  refine (hcontract.jacobian_eq_error_iff _).2 (.inr ⟨by decide, 1, by decide, fun j hj => ?_, rfl⟩)
  obtain rfl : j = 0 := Nat.lt_one_iff.1 hj
  exact ⟨_, hfirst⟩

end NonlinearProgram
