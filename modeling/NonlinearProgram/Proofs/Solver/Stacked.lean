import NonlinearProgram.Proofs.Function
import NonlinearProgram.Proofs.Problem.Numbering
import NonlinearProgram.Proofs.Problem.Violation
import NonlinearProgram.Proofs.Scalar.Exact
import NonlinearProgram.Solver.InteriorPoint

/-!
# Stacked constraints follow the numbering

Values, scales, bounds and rows of the Jacobian are put one under the other in several places. All
of them follow the numbering of components, so component by component the scaled stack is the
unscaled one times the scales.
-/

namespace NonlinearProgram

open Scalar

variable {α : Type} [Scalar α] {x : Datum α} {xs : List α}

theorem forall₂_range {β : Type} (xs : List β) :
    List.Forall₂ (fun i x => xs[i]? = some x) (List.range xs.length) xs := by
  rw [List.forall₂_iff_get]
  refine ⟨List.length_range, fun i h h' => ?_⟩
  simp

theorem zipWith_replicate_eq_self {β γ : Type} {f : γ → β → β} {scale : γ}
    (h : ∀ v, f scale v = v) (values : List β) :
    List.zipWith f (List.replicate values.length scale) values = values := by
  induction values with
  | nil => rfl
  | cons v values ih =>
      rw [List.length_cons, List.replicate_succ, List.zipWith_cons_cons, h, ih]

namespace Constraint

variable {constraints : List (Constraint α)} {g : Constraint α → List α}
  {d : Constraint α → Nat → List α}

theorem stackedValues_eq_ok (hg : ∀ c ∈ constraints, c.function.compute x = .ok (g c)) :
    stackedValues constraints x = .ok (constraints.flatMap g) := by
  refine bind_eq_ok_iff.2 ⟨_, mapM_eq_ok_map hg, ?_⟩
  rw [pure_eq_ok_iff, List.flatMap_def]

def gradients (d : Constraint α → Nat → List α) (c : Constraint α) : List (List α) :=
  (List.range c.size).map (d c)

theorem stackedJacobian_eq_ok (hx : Tensor.ofDatum x = .ok (.vector xs))
    (hd : ∀ c ∈ constraints, ∀ i < c.size, c.function.gradient x (.whole i) = .ok (d c i)) :
    stackedJacobian constraints x = .ok ⟨xs.length, constraints.flatMap (gradients d)⟩ := by
  have hblocks : constraints.mapM (fun c => c.function.jacobian x) =
      .ok (constraints.map fun c => ⟨c.function.inputSize, gradients d c⟩) := by
    apply mapM_eq_ok_map
    intro c hc
    exact Function.jacobian_eq_ok (hd c hc)
  refine bind_eq_ok_iff.2 ⟨_, hblocks, ?_⟩
  refine bind_eq_ok_iff.2 ⟨_, hx, ?_⟩
  refine bind_eq_ok_iff.2 ⟨xs.length, rfl, ?_⟩
  rw [pure_eq_ok_iff, List.flatMap_map]

theorem forall₂_components {β γ : Type} {R : Function α × Nat → γ → Prop} {entries : β → List γ}
    {parts : List β} (h : List.Forall₂ (fun c part =>
      List.Forall₂ (fun i y => R (c.function, i) y) (List.range c.size) (entries part))
      constraints parts) :
    List.Forall₂ R (components constraints) (parts.flatMap entries) := by
  induction h with
  | nil => exact .nil
  | cons hpart _ ih => exact List.rel_append (List.forall₂_map_left_iff.2 hpart) ih

theorem forall₂_stackedValues {values : List α} (h : stackedValues constraints x = .ok values) :
    List.Forall₂ (fun (f, i) v => ∃ vs, f.compute x = .ok vs ∧ vs[i]? = some v)
      (components constraints) values := by
  obtain ⟨parts, hparts, h⟩ := bind_eq_ok_iff.1 h
  rw [pure_eq_ok_iff] at h
  rw [← h, ← List.flatMap_id]
  refine forall₂_components ((mapM_eq_ok_iff.1 hparts).imp fun c vs hvs => ?_)
  have hlength : vs.length = c.size := Function.length_of_compute hvs
  rw [← hlength]
  exact (forall₂_range vs).imp fun i v hv => ⟨vs, hvs, hv⟩

theorem forall₂_stackedJacobian {a : Matrix α} (h : stackedJacobian constraints x = .ok a) :
    List.Forall₂ (fun (f, i) row => f.gradient x (.whole (i : Nat)) = .ok row)
      (components constraints) a.rows := by
  obtain ⟨blocks, hblocks, h⟩ := bind_eq_ok_iff.1 h
  obtain ⟨t, -, h⟩ := bind_eq_ok_iff.1 h
  obtain ⟨width, -, h⟩ := bind_eq_ok_iff.1 h
  cases h
  exact forall₂_components ((mapM_eq_ok_iff.1 hblocks).imp fun c J hJ =>
    (Function.jacobian_eq_ok_iff.1 hJ).2)

theorem length_rows_of_stackedJacobian {a : Matrix α} (h : stackedJacobian constraints x = .ok a) :
    a.rows.length = Problem.totalSize constraints := by
  rw [← (forall₂_stackedJacobian h).length_eq, length_components]

/-- The weight of a component, a single entry, times its scale is a single entry. -/
theorem weight_eq_ok {weights scales : List α} {k : Nat} {w scale : α} (hw : weights[k]? = some w)
    (hscale : scales[k]? = some scale) :
    scaledWeight (.vector scales) (.vector weights) k = .ok ⟨[], [w * scale]⟩ := by
  have hpart : ∀ {ys : List α} {y : α}, ys[k]? = some y →
      (Tensor.vector ys).partAt k = (.ok ⟨[], [y]⟩ : Except (Error α) (Tensor α)) := by
    intro ys y hy
    simp only [Tensor.partAt, Tensor.vector, Tensor.entryAt, hy]
    rfl
  rw [scaledWeight, hpart hw, hpart hscale]
  rfl

end Constraint

namespace StackedConstraints

variable {s : StackedConstraints α}

theorem values_eq_bind (hsome : s.constraints ≠ []) (x : Datum α) :
    s.values x = Constraint.stackedValues s.constraints x >>= Tensor.pairUp (· * ·) s.scales := by
  unfold values
  rw [if_neg (by simpa using hsome)]

theorem values_eq_ok {values : List α}
    (hvalues : Constraint.stackedValues s.constraints x = .ok values)
    (hlength : s.scales.length = values.length) :
    s.values x = .ok (List.zipWith (· * ·) s.scales values) := by
  by_cases hsome : s.constraints = []
  · unfold StackedConstraints.values
    rw [hsome, Constraint.stackedValues, List.mapM_nil] at hvalues
    cases hvalues
    rw [hsome, List.flatten_nil, List.zipWith_nil_right]
    rfl
  · rw [values_eq_bind hsome, hvalues]
    exact Tensor.pairUp_of_length_eq _ _ _ hlength

theorem jacobian_eq_ok {a : Matrix α} (ha : Constraint.stackedJacobian s.constraints x = .ok a)
    (hlength : s.scales.length = a.rows.length) :
    s.jacobian x =
      .ok ⟨a.width, List.zipWith (fun scale row => row.map (scale * ·)) s.scales a.rows⟩ := by
  unfold StackedConstraints.jacobian
  refine bind_eq_ok_iff.2 ⟨a, ha, ?_⟩
  cases hempty : s.constraints with
  | nil =>
      have hrows : a.rows = [] := by
        rw [hempty, Constraint.stackedJacobian, List.mapM_nil] at ha
        obtain ⟨blocks, hblocks, ha⟩ := bind_eq_ok_iff.1 ha
        obtain ⟨t, -, ha⟩ := bind_eq_ok_iff.1 ha
        obtain ⟨width, -, ha⟩ := bind_eq_ok_iff.1 ha
        cases hblocks
        cases ha
        rfl
      rw [hrows, List.zipWith_nil_right, ← hrows]
      rfl
  | cons c rest =>
      rw [← hempty, if_neg (by rw [hempty]; exact Bool.false_ne_true)]
      exact bind_eq_ok_iff.2 ⟨_, Tensor.pairUp_of_length_eq _ _ _ hlength, rfl⟩

end StackedConstraints

namespace Problem

variable {p : Problem α} {g : Constraint α → List α} {d : Constraint α → Nat → List α}

theorem constraintValues_eq_ok (hg : ∀ c ∈ p.constraints, c.function.compute x = .ok (g c)) :
    p.constraintValues x = .ok (p.constraints.flatMap g) :=
  Constraint.stackedValues_eq_ok hg

theorem numbered_values (hg : ∀ c ∈ p.constraints, c.function.compute x = .ok (g c)) :
    p.Numbered g (p.constraints.flatMap g) :=
  numbered_flatMap fun c hc => Function.length_of_compute (hg c hc)

theorem numbered_gradients :
    p.Numbered (Constraint.gradients d) (p.constraints.flatMap (Constraint.gradients d)) := by
  apply numbered_flatMap
  intro c _
  rw [Constraint.gradients, List.length_map, List.length_range]

theorem length_of_constraintValues {values : List α} (h : p.constraintValues x = .ok values) :
    values.length = p.componentCount := by
  obtain ⟨g, hg, rfl⟩ := exists_values_of_constraintValues h
  exact (numbered_values hg).length_eq

theorem stacked_values_eq_ok (hp : p.WellFormed)
    (hg : ∀ c ∈ p.constraints, c.function.compute x = .ok (g c)) :
    p.stacked.values x =
      .ok (List.zipWith (· * ·) p.componentScales (p.constraints.flatMap g)) := by
  have hlength : p.componentScales.length = (p.constraints.flatMap g).length := by
    rw [hp.numbered_scales.length_eq, (numbered_values hg).length_eq]
  exact StackedConstraints.values_eq_ok (Constraint.stackedValues_eq_ok hg) hlength

theorem stacked_jacobian_eq_ok (hp : p.WellFormed) (hx : Tensor.ofDatum x = .ok (.vector xs))
    (hd : ∀ c ∈ p.constraints, ∀ i < c.size, c.function.gradient x (.whole i) = .ok (d c i)) :
    p.stacked.jacobian x = .ok ⟨xs.length, List.zipWith (fun scale row => row.map (scale * ·))
      p.componentScales (p.constraints.flatMap (Constraint.gradients d))⟩ := by
  have hlength : p.componentScales.length =
      (p.constraints.flatMap (Constraint.gradients d)).length := by
    rw [hp.numbered_scales.length_eq, numbered_gradients.length_eq]
  exact StackedConstraints.jacobian_eq_ok (s := p.stacked) (Constraint.stackedJacobian_eq_ok hx hd)
    hlength

theorem stackedUnscaled_values_eq_ok [LawfulScalar α]
    (hg : ∀ c ∈ p.constraints, c.function.compute x = .ok (g c)) :
    p.stackedUnscaled.values x = .ok (p.constraints.flatMap g) := by
  have hlength := (numbered_values hg).length_eq
  have hscales :
      p.stackedUnscaled.scales = List.replicate (p.constraints.flatMap g).length 1.0 := by
    rw [hlength]
    rfl
  have hvalues := StackedConstraints.values_eq_ok (Constraint.stackedValues_eq_ok hg)
    (s := p.stackedUnscaled) (by rw [hscales]; exact List.length_replicate)
  rw [hvalues, hscales]
  exact congrArg Except.ok (zipWith_replicate_eq_self LawfulScalar.one_mul _)

/-- Whatever is stacked at a point follows one numbering of components: values, bounds, scaled
bounds, scales, scaled values, the values handed to an interior-point library, and the rows of the
scaled Jacobian. So what a minimiser is handed is, component by component, what an interior-point
library is handed times the scales. -/
structure Stacks (p : Problem α) (x : Datum α) (g : Constraint α → List α)
    (values scaledValues : List α) (bounds : List (Interval α)) : Prop where
  exists_offset_add : ∀ k < p.componentCount, ∃ j c i,
    p.constraints[j]? = some c ∧ i < c.size ∧ k = p.offset j + i
  constraintValues_eq : p.constraintValues x = .ok values
  numbered_values : p.Numbered g values
  numbered_lower : p.Numbered (fun c => c.bounds.map (·.lower)) (ends p.componentBounds).1
  numbered_upper : p.Numbered (fun c => c.bounds.map (·.upper)) (ends p.componentBounds).2
  scaledBounds_eq : p.scaledBounds = .ok bounds
  numbered_scaledLower : p.Numbered
    (fun c => List.zipWith (fun i s => i.lower * s) c.bounds c.scales) (ends bounds).1
  numbered_scaledUpper : p.Numbered
    (fun c => List.zipWith (fun i s => i.upper * s) c.bounds c.scales) (ends bounds).2
  numbered_scales : p.Numbered (·.scales) p.componentScales
  stacked_values_eq : p.stacked.values x = .ok scaledValues
  numbered_scaledValues : p.Numbered (fun c => List.zipWith (· * ·) c.scales (g c)) scaledValues
  interior : ∀ s : Solver α, s.problem = p → ∀ exact,
    (s.interiorModel exact).constraints x = .ok values
  scaledValues_eq : scaledValues = List.zipWith (· * ·) p.componentScales values
  jacobian : ∀ d : Constraint α → Nat → List α,
    (∀ c ∈ p.constraints, ∀ i < c.size, c.function.gradient x (.whole i) = .ok (d c i)) →
    ∃ a, p.stacked.jacobian x = .ok a ∧
      p.Numbered (fun c => List.zipWith (fun s row => row.map (s * ·)) c.scales
        (Constraint.gradients d c)) a.rows

theorem exists_stacks [LawfulScalar α] (hp : p.Reachable)
    (hx : Tensor.ofDatum x = .ok (.vector xs))
    (hg : ∀ c ∈ p.constraints, c.function.compute x = .ok (g c)) :
    ∃ values scaledValues bounds, p.Stacks x g values scaledValues bounds := by
  have hwf := hp.wellFormed
  obtain ⟨bounds, hbounds, hscaled⟩ := hwf.exists_scaledBounds
  have hends := ends_scaledBounds hscaled
  refine ⟨_, _, bounds, {
    exists_offset_add := fun k hk => exists_offset_add hk
    constraintValues_eq := constraintValues_eq_ok hg
    numbered_values := numbered_values hg
    numbered_lower := hwf.numbered_bounds.map _
    numbered_upper := hwf.numbered_bounds.map _
    scaledBounds_eq := hbounds
    numbered_scaledLower := ?_
    numbered_scaledUpper := ?_
    numbered_scales := hwf.numbered_scales
    stacked_values_eq := stacked_values_eq_ok hwf hg
    numbered_scaledValues := hwf.numbered_scales.zipWith (numbered_values hg) _
    interior := ?_
    scaledValues_eq := rfl
    jacobian := fun d hd => ⟨_, stacked_jacobian_eq_ok hwf hx hd,
      hwf.numbered_scales.zipWith numbered_gradients _⟩ }⟩
  · rw [hends]
    exact hwf.numbered_bounds.zipWith hwf.numbered_scales _
  · rw [hends]
    exact hwf.numbered_bounds.zipWith hwf.numbered_scales _
  · rintro s rfl exact
    exact stackedUnscaled_values_eq_ok hg

end Problem

open Exact

def copies : Function Exact where
  family := "CallableDifferentiableFunction"
  name := .text "copies"
  inputSize := 1
  outputSize := 2
  outputSize_pos := Nat.two_pos
  hooks := .differentiable (fun x => .ok (.datum (.vector (x ++ x))))
    fun _ _ => .ok (.datum (.vector [finite 1]))

/-- Minimise the only variable, which is to lie between zero and five and to be at most four. -/
def boxed : Problem Exact where
  objective := coordinate
  argumentNames := ["u"]
  argumentBounds := [.unbounded]
  startingPoint := none
  constraints := [⟨copies, [⟨finite 0, finite 5, rfl⟩, ⟨negativeInfinity, finite 4, rfl⟩],
    [finite 2, finite 3]⟩]
  frozen := false

def boxedBounds : List (Interval Exact) := boxed.constraints.flatMap (·.bounds)

theorem boxed_reachable : boxed.Reachable := by
  have hcreate : Problem.create coordinate (some (.texts ["u"])) =
      .ok { boxed with constraints := [] } := rfl
  refine .step (.create hcreate) (.constraint copies (.several [.interval ⟨finite 0, finite 5, rfl⟩,
    .interval ⟨negativeInfinity, finite 4, rfl⟩]) (some (.vector [finite 2, finite 3]))) ?_
  with_unfolding_all rfl

theorem exists_stacks_boxed :
    boxed.Reachable ∧ ∃ scaledValues,
      boxed.stacked.values (.vector [finite 3]) = .ok scaledValues ∧
      boxed.Numbered (fun c => List.zipWith (· * ·) c.scales [finite 3, finite 3])
        scaledValues := by
  have hx : Tensor.ofDatum (.vector [finite 3]) = .ok (.vector [finite 3]) :=
    Tensor.ofDatum_vector _
  have hg : ∀ c ∈ boxed.constraints,
      c.function.compute (.vector [finite 3]) = .ok [finite 3, finite 3] := by
    intro c hc
    rw [List.mem_singleton.1 hc]
    rfl
  obtain ⟨_, scaledValues, _, hstacks⟩ := Problem.exists_stacks boxed_reachable hx hg
  exact ⟨boxed_reachable, scaledValues, hstacks.stacked_values_eq, hstacks.numbered_scaledValues⟩

end NonlinearProgram
