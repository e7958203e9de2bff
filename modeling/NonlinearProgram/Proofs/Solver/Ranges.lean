import NonlinearProgram.Proofs.Problem.Feasible
import NonlinearProgram.Proofs.Solver.Sided
import NonlinearProgram.Solver.Run

/-!
# What models with lower and upper ends ask for

A trust-region library takes a box for the variables and scaled components between two ends, an
interior-point library takes the unscaled ends of all variables and components. Both ask for what
the problem asks for: a point meets the model where its violation is zero. There is one exception.
No box is handed over where all ends of the variables are infinite, and then a variable of which
the only admissible value is an infinity is free in the trust-region model.
-/

namespace NonlinearProgram

open Scalar Exact

/-- A point meets what a minimiser is handed: it lies in the box, if there is one, and meets every
block. -/
def MinimizerModel.Admits {α : Type} [Scalar α] (m : MinimizerModel α) (x : Datum α)
    (xs : List α) : Prop :=
  (∀ box ∈ m.box, (Sense.between box.1 box.2).Accepts xs) ∧ ∀ b ∈ m.blocks, b.Met x

def InteriorModel.Admits {α : Type} [Scalar α] (m : InteriorModel α) (x : Datum α)
    (xs : List α) : Prop :=
  (Sense.between m.lower m.upper).Accepts xs ∧
    ∃ values, m.constraints x = .ok values ∧
      (Sense.between m.constraintLower m.constraintUpper).Accepts values

theorem Sense.accepts_ends_iff {α : Type} [Scalar α] {bounds : List (Interval α)}
    {values : List α} :
    (Sense.between (Problem.ends bounds).1 (Problem.ends bounds).2).Accepts values ↔
      List.Forall₂ Interval.Encloses bounds values := by
  have hzip : (Problem.ends bounds).1.zip (Problem.ends bounds).2 =
      bounds.map fun i => (i.lower, i.upper) := List.zip_map'
  change List.Forall₂ _ values ((Problem.ends bounds).1.zip (Problem.ends bounds).2) ↔ _
  rw [hzip, List.forall₂_map_right_iff]
  exact ⟨fun h => h.flip, fun h => h.flip⟩

namespace Exact

variable {q : Rat}

theorem atMost_mul_iff (hq : 0 < q) (a : Exact) (v : Rat) :
    atMost (a * finite q) (finite (q * v)) = atMost a (finite v) := by
  rw [← finite_mul_finite, mul_eq_stretch hq, finite_mul_eq_stretch hq, atMost_stretch hq]

theorem mul_atMost_iff (hq : 0 < q) (a : Exact) (v : Rat) :
    atMost (finite (q * v)) (a * finite q) = atMost (finite v) a := by
  rw [← finite_mul_finite, mul_eq_stretch hq, finite_mul_eq_stretch hq, atMost_stretch hq]

end Exact

namespace Component

/-- The scaled bound encloses the scaled value of a component that lies in its bound. -/
theorem HasScaledEnds.encloses_iff {c : Component} {b : Interval Exact} (h : c.HasScaledEnds b) :
    b.Encloses (finite (c.scale * c.value)) ↔ c.Within := by
  unfold Within Interval.Encloses
  rw [h.1, h.2, atMost_mul_iff c.scale_pos, mul_atMost_iff c.scale_pos]

theorem forall₂_encloses_scaled_iff {cs : List Component} {bounds : List (Interval Exact)}
    (h : List.Forall₂ HasScaledEnds cs bounds) :
    List.Forall₂ Interval.Encloses bounds (cs.map fun c => finite (c.scale * c.value)) ↔
      ∀ c ∈ cs, c.Within := by
  induction h with
  | nil => simp
  | cons hb _ ih =>
      rw [List.map_cons, List.forall₂_cons, ih, hb.encloses_iff, List.forall_mem_cons]

end Component

namespace Interval

/-- An interval whose ends are infinite encloses a finite value only where it is unbounded. -/
theorem encloses_iff_isUnbounded {i : Interval Exact} (hlower : isFinite i.lower = false)
    (hupper : isFinite i.upper = false) (q : Rat) :
    i.Encloses (finite q) ↔ i.isUnbounded = true := by
  obtain ⟨lower, upper, hordered⟩ := i
  cases lower with
  | notANumber => cases hordered
  | finite a => cases hlower
  | negativeInfinity =>
      cases upper with
      | notANumber => cases hordered
      | finite b => cases hupper
      | infinity => exact ⟨fun _ => rfl, fun _ => ⟨rfl, rfl⟩⟩
      | negativeInfinity => exact ⟨fun h => (nomatch h.2), nofun⟩
  | infinity =>
      cases upper with
      | notANumber | negativeInfinity => cases hordered
      | finite b => cases hupper
      | infinity => exact ⟨fun h => (nomatch h.1), nofun⟩

theorem forall₂_encloses_iff_isUnbounded {bounds : List (Interval Exact)} {xs : List Exact}
    (hinfinite : ∀ i ∈ bounds, isFinite i.lower = false ∧ isFinite i.upper = false)
    (hlength : bounds.length = xs.length) (hfin : ∀ v ∈ xs, isFinite v = true) :
    List.Forall₂ Encloses bounds xs ↔ ∀ i ∈ bounds, i.isUnbounded = true := by
  induction bounds generalizing xs with
  | nil =>
      rw [List.eq_nil_of_length_eq_zero hlength.symm]
      simp
  | cons i bounds ih =>
      obtain ⟨v, xs, rfl⟩ := List.exists_cons_of_length_eq_add_one hlength.symm
      obtain ⟨hv, hxs⟩ := List.forall_mem_cons.1 hfin
      obtain ⟨q, rfl⟩ := (isFinite_iff v).1 hv
      obtain ⟨hi, hbounds⟩ := List.forall_mem_cons.1 hinfinite
      rw [List.forall₂_cons, encloses_iff_isUnbounded hi.1 hi.2, List.forall_mem_cons,
        ih hbounds (Nat.succ.inj hlength) hxs]

end Interval

namespace Problem

variable {p : Problem Exact} {x : Datum Exact} {xs values : List Exact} {cs : List Component}

theorem HasComponents.boundedBlocks_eq_ok (h : p.HasComponents values cs) (hp : p.WellFormed)
    (hvalues : p.constraintValues x = .ok values) :
    ∃ blocks, p.boundedBlocks = .ok blocks ∧
      ((∀ b ∈ blocks, b.Met x) ↔ ∀ c ∈ cs, c.Within) := by
  unfold boundedBlocks
  by_cases hempty : p.constraints.isEmpty = true
  · -- Without constraints there are no components either.
    have hnone : cs = [] := by
      have hbounds := h.bounds
      rw [componentBounds, List.isEmpty_iff.1 hempty] at hbounds
      exact List.map_eq_nil_iff.1 hbounds.symm
    rw [if_pos hempty, hnone]
    exact ⟨[], rfl, by simp⟩
  · obtain ⟨bounds, hbounds, hends⟩ := h.exists_scaledBounds hp
    rw [if_neg hempty]
    refine ⟨_, bind_eq_ok_iff.2 ⟨bounds, hbounds, rfl⟩, ?_⟩
    rw [List.forall_mem_singleton, ConstraintBlock.met_iff (h.stacked_values hvalues)]
    exact Sense.accepts_ends_iff.trans (Component.forall₂_encloses_scaled_iff hends)

theorem argumentBox_eq_none_iff : p.argumentBox = none ↔
    ∀ i ∈ p.argumentBounds, isFinite i.lower = false ∧ isFinite i.upper = false := by
  have hbox : p.argumentBox = if (ends p.argumentBounds).1.any isFinite ||
      (ends p.argumentBounds).2.any isFinite then some (ends p.argumentBounds) else none := rfl
  rw [hbox, ite_eq_right_iff, ends, List.any_map, List.any_map]
  simp [imp_false, forall_and]

theorem eq_ends_of_argumentBox {box : List Exact × List Exact} (h : p.argumentBox = some box) :
    box = ends p.argumentBounds := by
  unfold argumentBox at h
  simp only [Option.ite_none_right_eq_some, Option.some.injEq] at h
  exact h.2.symm

/-- A finite point lies in the box where it lies in the bounds of the variables, as far as those of
which both ends are infinite are unbounded. -/
theorem forall₂_argumentBounds_iff (hlength : p.argumentBounds.length = xs.length)
    (hfin : ∀ v ∈ xs, isFinite v = true) :
    List.Forall₂ Interval.Encloses p.argumentBounds xs ↔
      (∀ box ∈ p.argumentBox, (Sense.between box.1 box.2).Accepts xs) ∧
        (p.argumentBox = none → ∀ i ∈ p.argumentBounds, i.isUnbounded = true) := by
  cases hbox : p.argumentBox with
  | some box =>
      rw [eq_ends_of_argumentBox hbox]
      simp [Sense.accepts_ends_iff]
  | none =>
      rw [Interval.forall₂_encloses_iff_isUnbounded (argumentBox_eq_none_iff.1 hbox) hlength hfin]
      simp

/-- A point meets the interior-point model where every variable and every component lies in its
interval. -/
theorem admits_interiorModel_iff (hvalues : p.constraintValues x = .ok values)
    {s : Solver Exact} (hs : s.problem = p) (exact : Bool) :
    (s.interiorModel exact).Admits x xs ↔ List.Forall₂ Interval.Encloses p.argumentBounds xs ∧
      List.Forall₂ Interval.Encloses p.componentBounds values := by
  obtain ⟨g, hg, rfl⟩ := exists_values_of_constraintValues hvalues
  subst hs
  have hconstraints : (s.interiorModel exact).constraints x =
      .ok (s.problem.constraints.flatMap g) := stackedUnscaled_values_eq_ok hg
  refine and_congr Sense.accepts_ends_iff ?_
  rw [hconstraints, ← Sense.accepts_ends_iff]
  constructor
  · rintro ⟨values, hvalues, haccepts⟩
    cases hvalues
    exact haccepts
  · intro haccepts
    exact ⟨_, rfl, haccepts⟩

/-- The models for a trust-region and for an interior-point library ask for what the problem asks
for, and the interior-point model for all of it. The trust-region model leaves out the bounds of
the variables where all their ends are infinite, which says nothing only where all of them are
unbounded. -/
theorem admits_iff_violation_eq_zero (hp : p.Reachable) (hx : Tensor.ofDatum x = .ok (.vector xs))
    (hlength : xs.length = p.inputSize) (hxfin : ∀ v ∈ xs, isFinite v = true)
    (hvalues : p.constraintValues x = .ok values) (hfin : ∀ v ∈ values, isFinite v = true)
    {s : Solver Exact} (hs : s.problem = p) :
    ∃ violation model, p.constraintViolation x = .ok violation ∧ s.trustRegionModel = .ok model ∧
      (∀ exact, (s.interiorModel exact).Admits x xs ↔ violation = 0.0) ∧
      (violation = 0.0 ↔ model.Admits x xs ∧
        (model.box = none → ∀ i ∈ p.argumentBounds, i.isUnbounded = true)) ∧
      (model.box = none ↔
        ∀ i ∈ p.argumentBounds, isFinite i.lower = false ∧ isFinite i.upper = false) := by
  have hwf := hp.wellFormed
  obtain ⟨violation, hviolation, hzero⟩ :=
    hwf.exists_violation_eq_zero_iff hx hlength hvalues
  obtain ⟨cs, hcs⟩ := hwf.exists_hasComponents hvalues hfin
  obtain ⟨blocks, hblocks, hmet⟩ := hcs.boundedBlocks_eq_ok hwf hvalues
  subst hs
  refine ⟨violation, _, hviolation, bind_eq_ok_iff.2 ⟨blocks, hblocks, rfl⟩, ?_, ?_,
    argumentBox_eq_none_iff⟩
  · intro exact
    rw [hzero, admits_interiorModel_iff hvalues rfl]
  · rw [hzero, forall₂_argumentBounds_iff (hwf.length_bounds.trans hlength.symm) hxfin,
      hcs.forall₂_encloses_iff, ← hmet, and_right_comm]
    rfl

end Problem

/-- Minimise the square of a variable from one to four, which is to be at least four. -/
def framed : Problem Exact where
  objective := square
  argumentNames := ["u"]
  argumentBounds := [⟨finite 1, finite 4, rfl⟩]
  startingPoint := none
  constraints := [⟨square, [⟨finite 4, .infinity, rfl⟩], [finite 2]⟩]
  frozen := false

theorem framed_reachable : framed.Reachable := by
  have hcreate : Problem.create square (some (.texts ["u"])) =
      .ok { framed with argumentBounds := [.unbounded], constraints := [] } := rfl
  have hbounds : (Assembly.allArgumentBounds (.interval ⟨finite 1, finite 4, rfl⟩)).apply
      { framed with argumentBounds := [.unbounded], constraints := [] } =
        .ok { framed with constraints := [] } := rfl
  refine .step (.step (.create hcreate) _ hbounds)
    (.constraint square (.single ⟨finite 4, .infinity, rfl⟩) (some (.vector [finite 2]))) ?_
  with_unfolding_all rfl

def trustRegionSolver (p : Problem Exact) : Solver Exact where
  backend := Method.trustConstr.backend
  problem := p
  parameters := Solver.mergeOptions Method.trustConstr.backend [] []

theorem admits_iff_violation_eq_zero_framed :
    framed.freeze.Reachable ∧
    (Solver.bind Method.trustConstr.backend framed [] none).outcome =
      .ok (trustRegionSolver framed.freeze) ∧
    ∃ violation model, framed.freeze.constraintViolation (.vector [finite 2]) = .ok violation ∧
      (trustRegionSolver framed.freeze).trustRegionModel = .ok model ∧
      (((trustRegionSolver framed.freeze).interiorModel true).Admits (.vector [finite 2])
        [finite 2] ↔ violation = 0.0) ∧
      (violation = 0.0 ↔ model.Admits (.vector [finite 2]) [finite 2] ∧
        (model.box = none → ∀ i ∈ framed.freeze.argumentBounds, i.isUnbounded = true)) := by
  have hreachable : framed.freeze.Reachable := .step framed_reachable .freeze rfl
  have hbind : (Solver.bind Method.trustConstr.backend framed [] none).outcome =
      .ok (trustRegionSolver framed.freeze) := by
    with_unfolding_all rfl
  have hfin : ∀ q : Rat, ∀ v ∈ [finite q], isFinite v = true := by
    intro q v hv
    rw [List.mem_singleton.1 hv]
    rfl
  have hvalues : framed.freeze.constraintValues (.vector [finite 2]) = .ok [finite 4] := by
    with_unfolding_all rfl
  obtain ⟨violation, model, hviolation, hmodel, hinterior, htrust, -⟩ :=
    Problem.admits_iff_violation_eq_zero hreachable (Tensor.ofDatum_vector _) rfl (hfin 2) hvalues
      (hfin 4)
      (s := trustRegionSolver framed.freeze) rfl
  exact ⟨hreachable, hbind, violation, model, hviolation, hmodel, hinterior true, htrust⟩

theorem infinity_ordered : atMost Exact.infinity .infinity = true := rfl

def remote : Problem Exact where
  objective := square
  argumentNames := ["u"]
  argumentBounds := [⟨.infinity, .infinity, infinity_ordered⟩]
  startingPoint := none
  constraints := []
  frozen := false

theorem remote_reachable : remote.Reachable := by
  have hcreate : Problem.create square (some (.texts ["u"])) =
      .ok { remote with argumentBounds := [.unbounded] } := rfl
  exact .step (.create hcreate) (.allArgumentBounds (.interval ⟨.infinity, .infinity, rfl⟩)) rfl

/-- No finite point is feasible, and the interior-point model admits none, but the trust-region
model has no box and so admits one. -/
theorem trustRegionModel_admits_violation :
    remote.freeze.Reachable ∧
    (Solver.bind Method.trustConstr.backend remote [] none).outcome =
      .ok (trustRegionSolver remote.freeze) ∧
    remote.freeze.constraintViolation (.vector [finite 1]) = .ok .infinity ∧
    (∀ exact, ¬ ((trustRegionSolver remote.freeze).interiorModel exact).Admits
      (.vector [finite 1]) [finite 1]) ∧
    ∃ model, (trustRegionSolver remote.freeze).trustRegionModel = .ok model ∧
      model.box = none ∧ model.Admits (.vector [finite 1]) [finite 1] := by
  refine ⟨.step remote_reachable .freeze rfl, ?_, rfl, ?_, _, rfl, rfl, nofun, nofun⟩
  · with_unfolding_all rfl
  · rintro exact ⟨hbox, -⟩
    obtain ⟨hlower, -⟩ := List.forall₂_cons.1 (Sense.accepts_ends_iff.1 hbox)
    cases hlower.1

end NonlinearProgram
