import NonlinearProgram.Proofs.Scalar.Signed
import NonlinearProgram.Proofs.Solver.Sided
import NonlinearProgram.Proofs.Tensor.Matching

/-!
# The rows of the constraint blocks

The values of a block and the rows of its Jacobian are picked and ordered apart from each other.
Both follow one layout, in which a row belongs to a component and points up from its lower end or
down from its upper end. The layout has a row for each end that a component has to respect, and one
for an equality.
-/

namespace NonlinearProgram

open Scalar

section Lists

variable {β γ δ : Type} {property : β → Bool} {xs : List β} {k : Nat}

theorem mem_positionsOf :
    k ∈ positionsOf property xs ↔ ∃ x, xs[k]? = some x ∧ property x = true := by
  unfold positionsOf
  rw [List.mem_filter, List.mem_range, Option.any_eq_true, and_iff_right_of_imp]
  rintro ⟨x, hx, -⟩
  exact (List.getElem?_eq_some_iff.1 hx).1

theorem nodup_positionsOf : (positionsOf property xs).Nodup := List.nodup_range.filter _

theorem lt_of_mem_positionsOf (h : k ∈ positionsOf property xs) : k < xs.length := by
  obtain ⟨x, hx, -⟩ := mem_positionsOf.1 h
  exact (List.getElem?_eq_some_iff.1 hx).1

theorem forall₂_pick {positions : List Nat} {ys : List γ} (h : ∀ k ∈ positions, k < ys.length) :
    List.Forall₂ (fun k y => ys[k]? = some y) positions (pick positions ys) := by
  induction positions with
  | nil => exact .nil
  | cons k positions ih =>
      obtain ⟨hk, hpositions⟩ := List.forall_mem_cons.1 h
      have hpick : pick (k :: positions) ys = ys[k] :: pick positions ys := by
        unfold pick
        rw [List.filterMap_cons, List.getElem?_eq_getElem hk]
      rw [hpick]
      exact .cons (List.getElem?_eq_getElem hk) (ih hpositions)

theorem pick_map (f : β → γ) (positions : List Nat) (xs : List β) :
    pick positions (xs.map f) = (pick positions xs).map f := by
  unfold pick
  simp [List.map_filterMap]

theorem forall₂_combine {ε : Type} {R : δ → β → Prop} {S : δ → γ → Prop} {ks : List δ}
    {xs : List β} {ys : List γ} (hx : List.Forall₂ R ks xs) (hy : List.Forall₂ S ks ys)
    (f : β → γ → ε) :
    List.Forall₂ (fun k z => ∃ x y, R k x ∧ S k y ∧ z = f x y) ks (List.zipWith f xs ys) := by
  induction hx generalizing ys with
  | nil =>
      rw [List.zipWith_nil_left]
      exact .nil
  | cons hkx _ ih =>
      cases hy with
      | cons hky hy => exact .cons ⟨_, _, hkx, hky, rfl⟩ (ih hy)

end Lists

/-- A component of the constraints of a problem, with the interval and the scale it was added
with. -/
structure ConstraintComponent (α : Type) [Scalar α] where
  function : Function α
  output : Nat
  bounds : Interval α
  scale : α

namespace ConstraintComponent

variable {α : Type} [Scalar α] (c : ConstraintComponent α)

def value (y : Datum α) : Except (Error α) α := do
  Tensor.entryAt (← c.function.compute y) c.output

def gradient (x : Datum α) : Except (Error α) (List α) := c.function.gradient x (.whole c.output)

end ConstraintComponent

/-- Where a row points: up from the lower end of a component, or down from the upper end. -/
inductive Direction where
  | up
  | down
  deriving DecidableEq

namespace Direction

variable {α : Type} [Scalar α]

def apply (v : α) : Direction → α
  | up => v
  | down => -v

def constant (c : ConstraintComponent α) : Direction → α
  | up => -(c.bounds.lower * c.scale)
  | down => c.bounds.upper * c.scale

def difference (i : Interval α) (v : α) : Direction → α
  | up => v - i.lower
  | down => i.upper - v

/-- Whether a component with these ends has a row in a direction: one for every finite end, but a
single one for an equality. -/
def Counts (i : Interval α) : Direction → Prop
  | up => i.isEquality = true ∨ isFinite i.lower = true
  | down => i.isEquality = false ∧ isFinite i.upper = true

end Direction

namespace Problem

variable {α : Type} [Scalar α]

/-- A component has a number in a problem. -/
structure IsComponent (p : Problem α) (k : Nat) (c : ConstraintComponent α) : Prop where
  output : (Constraint.components p.constraints)[k]? = some (c.function, c.output)
  bounds : p.componentBounds[k]? = some c.bounds
  scale : p.componentScales[k]? = some c.scale

/-- An entry of a block is the scaled value of the component of its row, with the sign of the row,
and a constant. -/
def RowValue (p : Problem α) (y : Datum α) (row : Nat × Direction) (entry : α) : Prop :=
  ∃ c v, p.IsComponent row.1 c ∧ c.value y = .ok v ∧
    entry = row.2.apply (c.scale * v) + row.2.constant c

/-- A row of the Jacobian of a block is the scaled gradient of the component of its row, with the
sign of the row. -/
def RowGradient (p : Problem α) (x : Datum α) (row : Nat × Direction) (entries : List α) : Prop :=
  ∃ c g, p.IsComponent row.1 c ∧ c.gradient x = .ok g ∧
    entries = g.map fun v => row.2.apply (c.scale * v)

/-- A block follows some rows: its values do at every point, and so does its Jacobian. They fail
where the components do. -/
structure Follows (p : Problem α) (b : ConstraintBlock α) (rows : List (Nat × Direction)) :
    Prop where
  value : ∀ y, InStep (fun _ entries => List.Forall₂ (p.RowValue y) rows entries)
    (p.constraintValues y) (b.value y)
  jacobian : ∃ jacobian, b.jacobian = some jacobian ∧ ∀ x,
    InStep (fun _ a => List.Forall₂ (p.RowGradient x) rows a.rows)
      (Constraint.stackedJacobian p.constraints x) (jacobian x)

/-- Scaling keeps which ends are finite, and which of them are equal. -/
def KeepsEnds (p : Problem α) : Prop :=
  ∀ k c b, p.IsComponent k c → c.bounds.scaled c.scale = .ok b →
    b.isEquality = c.bounds.isEquality ∧ isFinite b.lower = isFinite c.bounds.lower ∧
      isFinite b.upper = isFinite c.bounds.upper

end Problem

namespace Sides

def equalityRows (sides : Sides) : List (Nat × Direction) := sides.equal.map (·, .up)

def inequalityRows (sides : Sides) : List (Nat × Direction) :=
  sides.lower.map (·, .up) ++ sides.upper.map (·, .down)

def layout (sides : Sides) : List (List (Nat × Direction)) :=
  [sides.equalityRows, sides.inequalityRows].filter (!·.isEmpty)

variable {α : Type} [Scalar α] {bounds : List (Interval α)} {k : Nat} {d : Direction}

theorem flatten_layout (sides : Sides) :
    sides.layout.flatten = sides.equalityRows ++ sides.inequalityRows := by
  rw [layout, List.flatten_filter_not_isEmpty, List.flatten_cons, List.flatten_singleton]

theorem mem_flatten_layout :
    (k, d) ∈ (ofBounds false bounds).layout.flatten ↔ ∃ b, bounds[k]? = some b ∧ d.Counts b := by
  rw [flatten_layout, equalityRows, inequalityRows]
  cases d with
  | up =>
      have hcounts : ∀ b : Interval α, Direction.Counts b .up ↔
          b.isEquality = true ∨ (!b.isEquality && isFinite b.lower) = true := by
        intro b
        unfold Direction.Counts
        cases b.isEquality with
        | false | true => simp
      simp [hcounts, ofBounds, mem_positionsOf, and_or_left, exists_or]
  | down =>
      have hcounts : ∀ b : Interval α, Direction.Counts b .down ↔
          (!b.isEquality && isFinite b.upper) = true := by
        intro b
        simp [Direction.Counts]
      simp [hcounts, ofBounds, mem_positionsOf]

theorem nodup_flatten_layout : (ofBounds false bounds).layout.flatten.Nodup := by
  have hinjective : ∀ d : Direction, Function.Injective fun k : Nat => (k, d) :=
    fun d _ _ h => (Prod.mk.inj h).1
  have hdisjoint : ∀ k ∈ (ofBounds false bounds).equal, k ∉ (ofBounds false bounds).lower := by
    intro k hequal hlower
    obtain ⟨b, hb, hequality⟩ := mem_positionsOf.1 hequal
    obtain ⟨b', hb', hfinite⟩ := mem_positionsOf.1 hlower
    rw [hb, Option.some.injEq] at hb'
    simp [← hb', hequality] at hfinite
  rw [flatten_layout, equalityRows, inequalityRows, List.nodup_append, List.nodup_append]
  refine ⟨nodup_positionsOf.map (hinjective .up), ⟨nodup_positionsOf.map (hinjective .up),
    nodup_positionsOf.map (hinjective .down), ?_⟩, ?_⟩
  · simp
  · grind

end Sides

namespace Problem

variable {α : Type} [Scalar α] {p : Problem α} {x y : Datum α} {k : Nat}
  {bounds : List (Interval α)} {values : List α}

theorem WellFormed.exists_isComponent (hp : p.WellFormed) (hk : k < p.componentCount) :
    ∃ c, p.IsComponent k c := by
  obtain ⟨j, c, i, hj, hi, rfl⟩ := exists_offset_add hk
  have hcomponents : p.Numbered (fun c => (List.range c.size).map fun i => (c.function, i))
      (Constraint.components p.constraints) := numbered_flatMap fun c _ => by simp
  obtain ⟨b, -, hb⟩ := hp.numbered_bounds.getElem?_offset_add hj i hi
  obtain ⟨s, -, hs⟩ := hp.numbered_scales.getElem?_offset_add hj i hi
  obtain ⟨output, -, houtput⟩ := hcomponents.getElem?_offset_add hj i hi
  exact ⟨⟨output.1, output.2, b, s⟩, houtput, hb, hs⟩

theorem IsComponent.scaled_eq_ok {c : ConstraintComponent α} {b : Interval α}
    (hc : p.IsComponent k c) (hp : p.WellFormed) (h : p.scaledBounds = .ok bounds)
    (hb : bounds[k]? = some b) : c.bounds.scaled c.scale = .ok b :=
  rel_of_getElem? (hp.forall₂_scaled h)
    (List.getElem?_zip_eq_some (z := (c.bounds, c.scale)) |>.2 ⟨hc.bounds, hc.scale⟩) hb

theorem WellFormed.stacked_values_inStep (hp : p.WellFormed) (hsome : p.constraints ≠ []) :
    InStep (fun values scaled => p.constraintValues y = .ok values ∧
        scaled = List.zipWith (· * ·) p.componentScales values)
      (p.constraintValues y) (p.stacked.values y) := by
  have hscaled : p.stacked.values y =
      p.constraintValues y >>= Tensor.pairUp (· * ·) p.componentScales :=
    StackedConstraints.values_eq_bind (s := p.stacked) hsome y
  rw [hscaled]
  cases hvalues : p.constraintValues y with
  | error e => exact .error e
  | ok values =>
      have hlength : p.componentScales.length = values.length :=
        hp.numbered_scales.length_eq.trans (length_of_constraintValues hvalues).symm
      rw [ok_bind, Tensor.pairUp_of_length_eq _ _ _ hlength]
      exact .ok ⟨rfl, rfl⟩

theorem WellFormed.stacked_jacobian_inStep (hp : p.WellFormed) :
    InStep (fun a scaled => Constraint.stackedJacobian p.constraints x = .ok a ∧ scaled.rows =
        List.zipWith (fun scale row => row.map (scale * ·)) p.componentScales a.rows)
      (Constraint.stackedJacobian p.constraints x) (p.stacked.jacobian x) := by
  cases ha : Constraint.stackedJacobian p.constraints x with
  | error e =>
      have hscaled : p.stacked.jacobian x = .error e := by
        unfold StackedConstraints.jacobian
        change Constraint.stackedJacobian p.constraints x >>= _ = _
        rw [ha]
        rfl
      rw [hscaled]
      exact .error e
  | ok a =>
      have hlength : p.componentScales.length = a.rows.length :=
        hp.numbered_scales.length_eq.trans (Constraint.length_rows_of_stackedJacobian ha).symm
      rw [StackedConstraints.jacobian_eq_ok (s := p.stacked) ha hlength]
      exact .ok ⟨rfl, rfl⟩

/-- What is made of the scales and some items belongs to components, item by item. -/
theorem WellFormed.exists_scaled (hp : p.WellFormed) {β γ : Type} {f : α → β → γ} {items : List β}
    {r : γ} (hr : (List.zipWith f p.componentScales items)[k]? = some r) :
    ∃ c item, p.IsComponent k c ∧ items[k]? = some item ∧ r = f c.scale item := by
  obtain ⟨s, item, hs, hitem, rfl⟩ := List.getElem?_zipWith_eq_some.1 hr
  have hk : k < p.componentCount := by
    rw [← hp.numbered_scales.length_eq]
    exact (List.getElem?_eq_some_iff.1 hs).1
  obtain ⟨c, hc⟩ := hp.exists_isComponent hk
  rw [hc.scale, Option.some.injEq] at hs
  exact ⟨c, item, hc, hitem, by rw [hs]⟩

theorem WellFormed.length_scaled (hp : p.WellFormed) {β γ : Type} (f : α → β → γ) {items : List β}
    (h : items.length = p.componentCount) :
    (List.zipWith f p.componentScales items).length = p.componentCount := by
  rw [List.length_zipWith, hp.numbered_scales.length_eq, h, Nat.min_self]

theorem WellFormed.exists_value (hp : p.WellFormed) (hvalues : p.constraintValues y = .ok values)
    {w : α} (hw : (List.zipWith (· * ·) p.componentScales values)[k]? = some w) :
    ∃ c v, p.IsComponent k c ∧ c.value y = .ok v ∧ w = c.scale * v := by
  obtain ⟨c, v, hc, hv, hw⟩ := hp.exists_scaled hw
  obtain ⟨vs, hvs, hentry⟩ :=
    rel_of_getElem? (Constraint.forall₂_stackedValues hvalues) hc.output hv
  refine ⟨c, v, hc, bind_eq_ok_iff.2 ⟨vs, hvs, ?_⟩, hw⟩
  rw [Tensor.entryAt, hentry]

theorem WellFormed.exists_gradient (hp : p.WellFormed) {a : Matrix α}
    (ha : Constraint.stackedJacobian p.constraints x = .ok a) {row : List α}
    (hrow : (List.zipWith (fun scale row => row.map (scale * ·)) p.componentScales
      a.rows)[k]? = some row) :
    ∃ c g, p.IsComponent k c ∧ c.gradient x = .ok g ∧ row = g.map (c.scale * ·) := by
  obtain ⟨c, g, hc, hg, hrow⟩ := hp.exists_scaled hrow
  exact ⟨c, g, hc, rel_of_getElem? (Constraint.forall₂_stackedJacobian ha) hc.output hg, hrow⟩

section Positions

variable {positions : List Nat} {d : Direction} (hp : p.WellFormed)
  (hpositions : ∀ k ∈ positions, k < p.componentCount)

include hp hpositions

/-- What is picked of the scaled rows are the gradients of the components at the positions. -/
theorem WellFormed.forall₂_rowGradient {a : Matrix α}
    (ha : Constraint.stackedJacobian p.constraints x = .ok a) :
    List.Forall₂ (p.RowGradient x) (positions.map (·, d))
      ((pick positions (List.zipWith (fun scale row => row.map (scale * ·)) p.componentScales
        a.rows)).map (·.map (d.apply ·))) := by
  rw [List.forall₂_map_left_iff, List.forall₂_map_right_iff]
  refine (forall₂_pick ?_).imp fun k row hrow => ?_
  · rwa [hp.length_scaled _ (Constraint.length_rows_of_stackedJacobian ha)]
  · obtain ⟨c, g, hc, hg, rfl⟩ := hp.exists_gradient ha hrow
    exact ⟨c, g, hc, hg, List.map_map⟩

variable [SignedScalar α]

/-- How far the picked values are from the picked ends are the entries of the components at the
positions. -/
theorem WellFormed.forall₂_rowValue (h : p.scaledBounds = .ok bounds)
    (hvalues : p.constraintValues y = .ok values) :
    List.Forall₂ (p.RowValue y) (positions.map (·, d))
      (List.zipWith (fun v b => d.difference b v)
        (pick positions (List.zipWith (· * ·) p.componentScales values))
        (pick positions bounds)) := by
  rw [List.forall₂_map_left_iff]
  refine (forall₂_combine (forall₂_pick ?_) (forall₂_pick ?_) _).imp ?_
  · rwa [hp.length_scaled _ (length_of_constraintValues hvalues)]
  · rwa [hp.length_scaledBounds h]
  · rintro k _ ⟨w, b, hw, hb, rfl⟩
    obtain ⟨c, v, hc, hv, rfl⟩ := hp.exists_value hvalues hw
    obtain ⟨hlower, hupper⟩ := Interval.ends_of_scaled (hc.scaled_eq_ok hp h hb)
    refine ⟨c, v, hc, hv, ?_⟩
    cases d with
    | up =>
        change c.scale * v - b.lower = c.scale * v + -(c.bounds.lower * c.scale)
        rw [hlower, SignedScalar.sub_eq_add_neg]
    | down =>
        change b.upper - c.scale * v = -(c.scale * v) + c.bounds.upper * c.scale
        rw [hupper, SignedScalar.sub_eq_add_neg, SignedScalar.add_comm]

end Positions

section Blocks

variable [SignedScalar α] {sides : Sides} (hp : p.WellFormed) (h : p.scaledBounds = .ok bounds)

include hp h

theorem WellFormed.follows_equality (hequal : ∀ k ∈ sides.equal, k < p.componentCount)
    (hsome : p.constraints ≠ []) :
    p.Follows ⟨.zero, sides.equalityValue p.stacked bounds,
      some (sides.equalityJacobian p.stacked), none⟩ sides.equalityRows := by
  refine ⟨fun y => ?_, _, rfl, fun x => ?_⟩
  · refine (hp.stacked_values_inStep hsome).map_right ?_
    rintro values _ ⟨hvalues, rfl⟩
    rw [pick_map, List.zipWith_map_right]
    exact hp.forall₂_rowValue hequal h hvalues
  · refine hp.stacked_jacobian_inStep.map_right ?_
    rintro a scaled ⟨ha, hscaled⟩
    have hrows := hp.forall₂_rowGradient (d := .up) hequal ha
    rw [← hscaled] at hrows
    simpa [Direction.apply, Sides.equalityRows] using hrows

theorem WellFormed.follows_inequality (hlower : ∀ k ∈ sides.lower, k < p.componentCount)
    (hupper : ∀ k ∈ sides.upper, k < p.componentCount) (hsome : p.constraints ≠ []) :
    p.Follows ⟨.nonnegative, sides.inequalityValue p.stacked bounds,
      some (sides.inequalityJacobian p.stacked), none⟩ sides.inequalityRows := by
  refine ⟨fun y => ?_, _, rfl, fun x => ?_⟩
  · refine (hp.stacked_values_inStep hsome).map_right ?_
    rintro values _ ⟨hvalues, rfl⟩
    rw [pick_map, pick_map, List.zipWith_map_right, List.zipWith_map_left,
      List.zipWith_comm (f := fun (b : Interval α) w => b.upper - w)]
    exact List.rel_append (hp.forall₂_rowValue hlower h hvalues)
      (hp.forall₂_rowValue hupper h hvalues)
  · refine hp.stacked_jacobian_inStep.map_right ?_
    rintro a scaled ⟨ha, hscaled⟩
    have hup := hp.forall₂_rowGradient (d := .up) hlower ha
    have hdown := hp.forall₂_rowGradient (d := .down) hupper ha
    rw [← hscaled] at hup hdown
    simpa [Direction.apply, Sides.inequalityRows] using List.rel_append hup hdown

theorem WellFormed.forall₂_follows (hequal : ∀ k ∈ sides.equal, k < p.componentCount)
    (hlower : ∀ k ∈ sides.lower, k < p.componentCount)
    (hupper : ∀ k ∈ sides.upper, k < p.componentCount) :
    List.Forall₂ p.Follows ((sides.equalityBlock? p.stacked bounds true).toList ++
      (sides.inequalityBlock? p.stacked bounds true).toList) sides.layout := by
  have hsome : ∀ k, k < p.componentCount → p.constraints ≠ [] := by
    intro k hk hnone
    unfold componentCount at hk
    rw [hnone] at hk
    cases hk
  have hfirst : List.Forall₂ p.Follows (sides.equalityBlock? p.stacked bounds true).toList
      ([sides.equalityRows].filter (!·.isEmpty)) := by
    by_cases hnone : sides.equal = []
    · simp [Sides.equalityBlock?, Sides.equalityRows, hnone]
    · obtain ⟨k, hk⟩ := List.exists_mem_of_ne_nil _ hnone
      have hfollows := hp.follows_equality h hequal (hsome k (hequal k hk))
      simpa [Sides.equalityBlock?, Sides.equalityRows, hnone] using hfollows
  have hsecond : List.Forall₂ p.Follows (sides.inequalityBlock? p.stacked bounds true).toList
      ([sides.inequalityRows].filter (!·.isEmpty)) := by
    by_cases hnone : sides.lower = [] ∧ sides.upper = []
    · simp [Sides.inequalityBlock?, Sides.inequalityRows, hnone]
    · obtain ⟨k, hk⟩ := List.exists_mem_of_ne_nil _ (List.append_eq_nil_iff.not.2 hnone)
      have hk : k < p.componentCount := (List.mem_append.1 hk).elim (hlower k) (hupper k)
      have hfollows := hp.follows_inequality h hlower hupper (hsome k hk)
      simpa [Sides.inequalityBlock?, Sides.inequalityRows, List.filter_cons, hnone] using hfollows
  have hlayout : sides.layout = [sides.equalityRows].filter (!·.isEmpty) ++
      [sides.inequalityRows].filter (!·.isEmpty) :=
    List.filter_append [sides.equalityRows] [sides.inequalityRows]
  rw [hlayout]
  exact List.rel_append hfirst hsecond

end Blocks

theorem WellFormed.getElem?_bounds_iff (hp : p.WellFormed) (h : p.scaledBounds = .ok bounds)
    {b : Interval α} :
    bounds[k]? = some b ↔ ∃ c, p.IsComponent k c ∧ c.bounds.scaled c.scale = .ok b := by
  constructor
  · intro hb
    have hk : k < p.componentCount := by
      rw [← hp.length_scaledBounds h]
      exact (List.getElem?_eq_some_iff.1 hb).1
    obtain ⟨c, hc⟩ := hp.exists_isComponent hk
    exact ⟨c, hc, hc.scaled_eq_ok hp h hb⟩
  · rintro ⟨c, hc, hscaled⟩
    have hk : k < bounds.length := by
      rw [hp.length_scaledBounds h, ← hp.numbered_scales.length_eq]
      exact (List.getElem?_eq_some_iff.1 hc.scale).1
    have hb := List.getElem?_eq_getElem hk
    have hscaled' := hc.scaled_eq_ok hp h hb
    rw [hscaled, Except.ok.injEq] at hscaled'
    rw [hb, hscaled']

theorem KeepsEnds.counts_iff (h : p.KeepsEnds) {c : ConstraintComponent α} {b : Interval α}
    (hc : p.IsComponent k c) (hscaled : c.bounds.scaled c.scale = .ok b) {d : Direction} :
    d.Counts b ↔ d.Counts c.bounds := by
  obtain ⟨hequality, hlower, hupper⟩ := h k c b hc hscaled
  cases d with
  | up => rw [Direction.Counts, Direction.Counts, hequality, hlower]
  | down => rw [Direction.Counts, Direction.Counts, hequality, hupper]

theorem keepsEnds (p : Problem Exact) : p.KeepsEnds := by
  intro k c b _ hscaled
  have hscale : Interval.isScale c.scale = true := by
    by_contra hscale
    rw [Interval.scaled, if_neg hscale] at hscaled
    cases hscaled
  obtain ⟨hpos, hfin⟩ := Bool.and_eq_true_iff.1 hscale
  obtain ⟨q, hq, hpos⟩ := Exact.eq_finite_of_isScale hpos hfin
  obtain ⟨hlower, hupper⟩ := Interval.ends_of_scaled hscaled
  unfold Interval.isEquality
  rw [hlower, hupper, hq, Exact.equal_mul_mul hpos, Exact.isFinite_mul hpos,
    Exact.isFinite_mul hpos]
  exact ⟨rfl, rfl, rfl⟩

end Problem

end NonlinearProgram
