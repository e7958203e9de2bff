import NonlinearProgram.Proofs.Solver.Component
import NonlinearProgram.Proofs.Solver.Stacked
import NonlinearProgram.Solver.Minimizer

/-!
# What the constraint blocks ask for

The blocks of a minimiser pick components by position, from scaled values and scaled ends. Picked
entries are those of the components that were selected, so each block is a list of components with
one difference for each, and over exact scalars it comes down to what the unscaled intervals say of
the components. With equalities split, an equality with an infinite value is in no block.
-/

namespace NonlinearProgram

open Scalar Exact

section Lists

variable {β γ δ : Type}

theorem positionsOf_cons (property : β → Bool) (x : β) (xs : List β) :
    positionsOf property (x :: xs) =
      (if property x then [0] else []) ++ (positionsOf property xs).map Nat.succ := by
  unfold positionsOf
  rw [List.length_cons, List.range_succ_eq_map, List.filter_cons, List.filter_map]
  have hzero : ((x :: xs)[0]?).any property = property x := rfl
  have hsucc : ((fun k => ((x :: xs)[k]?).any property) ∘ Nat.succ) =
      fun k => (xs[k]?).any property := rfl
  rw [hzero, hsucc]
  by_cases h : property x = true
  · rw [if_pos h, if_pos h]
    rfl
  · rw [if_neg h, if_neg h]
    rfl

theorem pick_map_succ (positions : List Nat) (x : β) (xs : List β) :
    pick (positions.map Nat.succ) (x :: xs) = pick positions xs := by
  unfold pick
  rw [List.filterMap_map]
  rfl

/-- The entries at the positions of a property are those of the items that have it. -/
theorem pick_positionsOf (property : β → Bool) (f : β → γ) (xs : List β) :
    pick (positionsOf property xs) (xs.map f) = (xs.filter property).map f := by
  induction xs with
  | nil => rfl
  | cons x xs ih =>
      rw [positionsOf_cons, List.map_cons, pick, List.filterMap_append, ← pick, ← pick,
        pick_map_succ, ih, List.filter_cons]
      by_cases h : property x = true
      · rw [if_pos h, if_pos h]
        rfl
      · rw [if_neg h, if_neg h]
        rfl

theorem filter_eq_nil_of_positionsOf {property : β → Bool} {xs : List β}
    (h : positionsOf property xs = []) : xs.filter property = [] := by
  have hpick := pick_positionsOf property id xs
  rw [h, List.map_id, List.map_id] at hpick
  exact hpick.symm

theorem positionsOf_congr {property : β → Bool} {property' : γ → Bool} {xs : List β}
    {ys : List γ} (h : List.Forall₂ (fun x y => property x = property' y) xs ys) :
    positionsOf property xs = positionsOf property' ys := by
  induction h with
  | nil => rfl
  | cons hxy _ ih =>
      rw [positionsOf_cons, positionsOf_cons, hxy, ih]

theorem zipWith_pick_positionsOf (property : β → Bool) (f : γ → γ → δ) (g h : β → γ)
    (xs : List β) :
    List.zipWith f (pick (positionsOf property xs) (xs.map g))
      (pick (positionsOf property xs) (xs.map h)) =
        (xs.filter property).map fun x => f (g x) (h x) := by
  rw [pick_positionsOf, pick_positionsOf, List.zipWith_map, List.zipWith_self]

end Lists

/-- The bounds and scales of a problem and some values, component by component. -/
structure Problem.HasComponents (p : Problem Exact) (values : List Exact) (cs : List Component) :
    Prop where
  bounds : p.componentBounds = cs.map (·.bounds)
  scales : p.componentScales = cs.map fun c => finite c.scale
  values : values = cs.map fun c => finite c.value

theorem exists_components {bounds : List (Interval Exact)} {scales values : List Exact}
    (hscales : ∀ s ∈ scales, Interval.isScale s = true)
    (hvalues : ∀ v ∈ values, isFinite v = true) (hs : scales.length = bounds.length)
    (hv : values.length = bounds.length) :
    ∃ cs : List Component, bounds = cs.map (·.bounds) ∧
      scales = cs.map (fun c => finite c.scale) ∧ values = cs.map fun c => finite c.value := by
  induction bounds generalizing scales values with
  | nil =>
      rw [List.length_eq_zero_iff.1 hs, List.length_eq_zero_iff.1 hv]
      exact ⟨[], rfl, rfl, rfl⟩
  | cons i bounds ih =>
      obtain ⟨s, scales, rfl⟩ := List.exists_cons_of_length_eq_add_one hs
      obtain ⟨v, values, rfl⟩ := List.exists_cons_of_length_eq_add_one hv
      obtain ⟨hpos, hfin⟩ := Bool.and_eq_true_iff.1 (hscales s List.mem_cons_self)
      obtain ⟨q, rfl, hq⟩ := eq_finite_of_isScale hpos hfin
      obtain ⟨w, rfl⟩ := (isFinite_iff v).1 (hvalues v List.mem_cons_self)
      obtain ⟨cs, hbounds, hscales, hvalues⟩ := ih
        (fun s hs => hscales s (List.mem_cons_of_mem _ hs))
        (fun v hv => hvalues v (List.mem_cons_of_mem _ hv)) (Nat.succ.inj hs) (Nat.succ.inj hv)
      refine ⟨⟨i, q, hq, w⟩ :: cs, ?_, ?_, ?_⟩
      · rw [List.map_cons, ← hbounds]
      · rw [List.map_cons, ← hscales]
      · rw [List.map_cons, ← hvalues]

namespace Component

/-- A bound has the ends of a component times its scale. -/
def HasScaledEnds (c : Component) (b : Interval Exact) : Prop :=
  b.lower = c.bounds.lower * finite c.scale ∧ b.upper = c.bounds.upper * finite c.scale

variable {c : Component} {b : Interval Exact}

theorem HasScaledEnds.isEquality (h : c.HasScaledEnds b) : b.isEquality = c.isEquality := by
  unfold Interval.isEquality Component.isEquality
  rw [h.1, h.2, equal_mul_mul c.scale_pos]
  rfl

theorem HasScaledEnds.isFinite_lower (h : c.HasScaledEnds b) :
    isFinite b.lower = isFinite c.bounds.lower := by
  rw [h.1, isFinite_mul c.scale_pos]

theorem HasScaledEnds.isFinite_upper (h : c.HasScaledEnds b) :
    isFinite b.upper = isFinite c.bounds.upper := by
  rw [h.2, isFinite_mul c.scale_pos]

end Component

namespace Sides

variable {cs : List Component} {bounds : List (Interval Exact)}

def ofComponents (split : Bool) (cs : List Component) : Sides where
  equal := positionsOf (Component.asEquality split) cs
  lower := positionsOf (Component.asLower split) cs
  upper := positionsOf (Component.asUpper split) cs

theorem ofBounds_eq_ofComponents (split : Bool)
    (h : List.Forall₂ Component.HasScaledEnds cs bounds) :
    ofBounds split bounds = ofComponents split cs := by
  have hequal : (if split then [] else positionsOf Interval.isEquality bounds) =
      positionsOf (Component.asEquality split) cs := by
    cases split with
    | false =>
        exact (positionsOf_congr (h.imp fun _ _ hb => hb.isEquality.symm)).symm
    | true =>
        unfold positionsOf Component.asEquality
        simp
  have hlower : positionsOf (fun i => (split || !i.isEquality) && isFinite i.lower) bounds =
      positionsOf (Component.asLower split) cs := by
    refine (positionsOf_congr (h.imp fun c b hb => ?_)).symm
    rw [Component.asLower, hb.isEquality, hb.isFinite_lower]
  have hupper : positionsOf (fun i => (split || !i.isEquality) && isFinite i.upper) bounds =
      positionsOf (Component.asUpper split) cs := by
    refine (positionsOf_congr (h.imp fun c b hb => ?_)).symm
    rw [Component.asUpper, hb.isEquality, hb.isFinite_upper]
  rw [ofBounds, ofComponents, hequal, hlower, hupper]

variable {stack : StackedConstraints Exact} {x : Datum Exact}

theorem map_lower (h : List.Forall₂ Component.HasScaledEnds cs bounds) :
    bounds.map (·.lower) = cs.map fun c => c.bounds.lower * finite c.scale := by
  rw [← List.forall₂_eq_eq_eq, List.forall₂_map_left_iff, List.forall₂_map_right_iff]
  exact h.flip.imp fun _ _ hb => hb.1

theorem map_upper (h : List.Forall₂ Component.HasScaledEnds cs bounds) :
    bounds.map (·.upper) = cs.map fun c => c.bounds.upper * finite c.scale := by
  rw [← List.forall₂_eq_eq_eq, List.forall₂_map_left_iff, List.forall₂_map_right_iff]
  exact h.flip.imp fun _ _ hb => hb.2

theorem equalityValue_eq_ok (split : Bool) (h : List.Forall₂ Component.HasScaledEnds cs bounds)
    (hvalues : stack.values x = .ok (cs.map fun c => finite (c.scale * c.value))) :
    (ofComponents split cs).equalityValue stack bounds x =
      .ok ((cs.filter (Component.asEquality split)).map Component.aboveLower) := by
  refine bind_eq_ok_iff.2 ⟨_, hvalues, ?_⟩
  rw [pure_eq_ok_iff, map_lower h]
  exact zipWith_pick_positionsOf _ _ _ _ _

theorem inequalityValue_eq_ok (split : Bool) (h : List.Forall₂ Component.HasScaledEnds cs bounds)
    (hvalues : stack.values x = .ok (cs.map fun c => finite (c.scale * c.value))) :
    (ofComponents split cs).inequalityValue stack bounds x =
      .ok ((cs.filter (Component.asLower split)).map Component.aboveLower ++
        (cs.filter (Component.asUpper split)).map Component.belowUpper) := by
  refine bind_eq_ok_iff.2 ⟨_, hvalues, ?_⟩
  rw [pure_eq_ok_iff, map_lower h, map_upper h]
  exact congrArg₂ (· ++ ·) (zipWith_pick_positionsOf _ _ _ _ _) (zipWith_pick_positionsOf _ _ _ _ _)

end Sides

section Blocks

variable {α : Type} [Scalar α]

def Sense.Accepts (entries : List α) : Sense α → Prop
  | zero => ∀ e ∈ entries, equal e 0.0 = true
  | nonnegative => ∀ e ∈ entries, atMost 0.0 e = true
  | between lower upper =>
    List.Forall₂ (fun e ends => atMost ends.1 e = true ∧ atMost e ends.2 = true) entries
      (lower.zip upper)

def Sense.isZero : Sense α → Bool
  | zero => true
  | _ => false

def Sense.isNonnegative : Sense α → Bool
  | nonnegative => true
  | _ => false

namespace ConstraintBlock

/-- A point meets a block where its entries are as the sense asks for. -/
def Met (x : Datum α) (b : ConstraintBlock α) : Prop :=
  ∃ entries, b.value x = .ok entries ∧ b.sense.Accepts entries

def entries (kind : Sense α → Bool) (blocks : List (ConstraintBlock α)) (x : Datum α) :
    Except (Error α) (List α) :=
  List.flatten <$> (blocks.filter fun b => kind b.sense).mapM (·.value x)

theorem met_iff {b : ConstraintBlock α} {x : Datum α} {es : List α} (h : b.value x = .ok es) :
    b.Met x ↔ b.sense.Accepts es := by
  constructor
  · rintro ⟨es', hes', haccepts⟩
    rw [h, Except.ok.injEq] at hes'
    rw [hes']
    exact haccepts
  · intro haccepts
    exact ⟨es, h, haccepts⟩

omit [Scalar α] in
theorem entries_append {kind : Sense α → Bool} {as bs : List (ConstraintBlock α)} {x : Datum α}
    {us vs : List α} (ha : entries kind as x = .ok us) (hb : entries kind bs x = .ok vs) :
    entries kind (as ++ bs) x = .ok (us ++ vs) := by
  unfold entries at ha hb ⊢
  rw [map_eq_ok_iff] at ha hb
  obtain ⟨uss, huss, rfl⟩ := ha
  obtain ⟨vss, hvss, rfl⟩ := hb
  rw [List.filter_append, List.mapM_append, huss, hvss]
  exact congrArg Except.ok List.flatten_append

end ConstraintBlock

namespace Sides

variable {sides : Sides} {stack : StackedConstraints α} {bounds : List (Interval α)}
  {withJacobian : Bool} {x : Datum α} {es : List α}

theorem met_equalityBlock? (h : sides.equalityValue stack bounds x = .ok es)
    (hempty : sides.equal = [] → es = []) :
    (∀ b ∈ (sides.equalityBlock? stack bounds withJacobian).toList, b.Met x) ↔
      ∀ e ∈ es, Scalar.equal e 0.0 = true := by
  unfold equalityBlock?
  by_cases hnone : sides.equal.isEmpty = true
  · rw [if_pos hnone, hempty (List.isEmpty_iff.1 hnone)]
    simp
  · rw [if_neg hnone, Option.toList_some, List.forall_mem_singleton]
    exact (ConstraintBlock.met_iff (by exact h)).trans Iff.rfl

theorem met_inequalityBlock? (h : sides.inequalityValue stack bounds x = .ok es)
    (hempty : sides.lower = [] → sides.upper = [] → es = []) :
    (∀ b ∈ (sides.inequalityBlock? stack bounds withJacobian).toList, b.Met x) ↔
      ∀ e ∈ es, atMost 0.0 e = true := by
  unfold inequalityBlock?
  by_cases hnone : (sides.lower.isEmpty && sides.upper.isEmpty) = true
  · obtain ⟨hlower, hupper⟩ := Bool.and_eq_true_iff.1 hnone
    rw [if_pos hnone, hempty (List.isEmpty_iff.1 hlower) (List.isEmpty_iff.1 hupper)]
    simp
  · rw [if_neg hnone, Option.toList_some, List.forall_mem_singleton]
    exact (ConstraintBlock.met_iff (by exact h)).trans Iff.rfl

theorem entries_equalityBlock? (h : sides.equalityValue stack bounds x = .ok es)
    (hempty : sides.equal = [] → es = []) :
    ConstraintBlock.entries Sense.isZero
        (sides.equalityBlock? stack bounds withJacobian).toList x = .ok es ∧
      ConstraintBlock.entries Sense.isNonnegative
        (sides.equalityBlock? stack bounds withJacobian).toList x = .ok [] := by
  unfold equalityBlock?
  by_cases hnone : sides.equal.isEmpty = true
  · rw [if_pos hnone, hempty (List.isEmpty_iff.1 hnone)]
    exact ⟨rfl, rfl⟩
  · rw [if_neg hnone]
    refine ⟨map_eq_ok_iff.2 ⟨[es], mapM_eq_ok_iff.2 (.cons h .nil), ?_⟩, rfl⟩
    rw [List.flatten_singleton]

theorem entries_inequalityBlock? (h : sides.inequalityValue stack bounds x = .ok es)
    (hempty : sides.lower = [] → sides.upper = [] → es = []) :
    ConstraintBlock.entries Sense.isZero
        (sides.inequalityBlock? stack bounds withJacobian).toList x = .ok [] ∧
      ConstraintBlock.entries Sense.isNonnegative
        (sides.inequalityBlock? stack bounds withJacobian).toList x = .ok es := by
  unfold inequalityBlock?
  by_cases hnone : (sides.lower.isEmpty && sides.upper.isEmpty) = true
  · obtain ⟨hlower, hupper⟩ := Bool.and_eq_true_iff.1 hnone
    rw [if_pos hnone, hempty (List.isEmpty_iff.1 hlower) (List.isEmpty_iff.1 hupper)]
    exact ⟨rfl, rfl⟩
  · rw [if_neg hnone]
    refine ⟨rfl, map_eq_ok_iff.2 ⟨[es], mapM_eq_ok_iff.2 (.cons h .nil), ?_⟩⟩
    rw [List.flatten_singleton]

end Sides

end Blocks

namespace Problem

variable {p : Problem Exact} {x : Datum Exact} {values : List Exact} {cs : List Component}

theorem WellFormed.exists_hasComponents (hp : p.WellFormed)
    (hvalues : p.constraintValues x = .ok values) (hfin : ∀ v ∈ values, isFinite v = true) :
    ∃ cs, p.HasComponents values cs := by
  have hbounds := hp.numbered_bounds.length_eq
  obtain ⟨cs, hcs⟩ := exists_components (fun _ => hp.isScale_of_mem) hfin
    (hp.numbered_scales.length_eq.trans hbounds.symm)
    ((length_of_constraintValues hvalues).trans hbounds.symm)
  exact ⟨cs, hcs.1, hcs.2.1, hcs.2.2⟩

theorem HasComponents.exists_scaledBounds (h : p.HasComponents values cs) (hp : p.WellFormed) :
    ∃ bounds, p.scaledBounds = .ok bounds ∧
      List.Forall₂ Component.HasScaledEnds cs bounds := by
  obtain ⟨bounds, hbounds, hscaled⟩ := hp.exists_scaledBounds
  rw [h.bounds, h.scales, List.zip_map', List.forall₂_map_left_iff] at hscaled
  exact ⟨bounds, hbounds, hscaled.imp fun _ _ => Interval.ends_of_scaled⟩

theorem HasComponents.stacked_values (h : p.HasComponents values cs)
    (hvalues : p.constraintValues x = .ok values) :
    p.stacked.values x = .ok (cs.map fun c => finite (c.scale * c.value)) := by
  have hlength : p.componentScales.length = values.length := by
    rw [h.scales, h.values, List.length_map, List.length_map]
  rw [StackedConstraints.values_eq_ok (s := p.stacked) hvalues hlength]
  have hscales : p.stacked.scales = cs.map fun c => finite c.scale := h.scales
  rw [hscales, h.values, List.zipWith_map, List.zipWith_self]
  rfl

theorem HasComponents.forall₂_encloses_iff (h : p.HasComponents values cs) :
    List.Forall₂ Interval.Encloses p.componentBounds values ↔ ∀ c ∈ cs, c.Within := by
  rw [h.bounds, h.values, List.forall₂_map_left_iff, List.forall₂_map_right_iff,
    List.forall₂_same]
  rfl

/-- The blocks of a form are met where every component respects the form, and have a difference for
each component that counts. -/
theorem HasComponents.sidedBlocks_eq_ok (h : p.HasComponents values cs) (hp : p.WellFormed)
    (hvalues : p.constraintValues x = .ok values) (withJacobian split : Bool) :
    ∃ blocks, p.sidedBlocks withJacobian split = .ok blocks ∧
      ((∀ b ∈ blocks, b.Met x) ↔ ∀ c ∈ cs, c.Respects split) ∧
      ConstraintBlock.entries Sense.isZero blocks x =
        .ok ((cs.filter (Component.asEquality split)).map Component.aboveLower) ∧
      ConstraintBlock.entries Sense.isNonnegative blocks x =
        .ok ((cs.filter (Component.asLower split)).map Component.aboveLower ++
          (cs.filter (Component.asUpper split)).map Component.belowUpper) := by
  obtain ⟨bounds, hbounds, hends⟩ := h.exists_scaledBounds hp
  have hstack := h.stacked_values hvalues
  have hequality := Sides.equalityValue_eq_ok split hends hstack
  have hinequality := Sides.inequalityValue_eq_ok split hends hstack
  have hnoequality : (Sides.ofComponents split cs).equal = [] →
      (cs.filter (Component.asEquality split)).map Component.aboveLower = [] := by
    intro hnone
    rw [filter_eq_nil_of_positionsOf hnone, List.map_nil]
  have hnoinequality : (Sides.ofComponents split cs).lower = [] →
      (Sides.ofComponents split cs).upper = [] →
      (cs.filter (Component.asLower split)).map Component.aboveLower ++
        (cs.filter (Component.asUpper split)).map Component.belowUpper = [] := by
    intro hlower hupper
    rw [filter_eq_nil_of_positionsOf hlower, filter_eq_nil_of_positionsOf hupper, List.map_nil,
      List.map_nil, List.append_nil]
  obtain ⟨hzero, hnonnegative⟩ := Sides.entries_equalityBlock? hequality hnoequality
  obtain ⟨hzero', hnonnegative'⟩ := Sides.entries_inequalityBlock? hinequality hnoinequality
  refine ⟨_, bind_eq_ok_iff.2 ⟨bounds, hbounds, rfl⟩, ?_, ?_, ?_⟩
  · rw [Sides.ofBounds_eq_ofComponents split hends, List.forall_mem_append,
      Sides.met_equalityBlock? hequality hnoequality,
      Sides.met_inequalityBlock? hinequality hnoinequality, List.forall_mem_append]
    simp only [List.forall_mem_map, List.mem_filter, and_imp, Component.Respects, forall_and]
  · rw [Sides.ofBounds_eq_ofComponents split hends, ConstraintBlock.entries_append hzero hzero',
      List.append_nil]
  · rw [Sides.ofBounds_eq_ofComponents split hends,
      ConstraintBlock.entries_append hnonnegative hnonnegative', List.nil_append]

/-- The equalities and inequalities handed over ask for what the unscaled intervals ask for. Each
component with a single admissible value is one equality, and any other component is one inequality
for each of its finite ends. -/
theorem met_sidedBlocks_iff (hp : p.Reachable)
    (hvalues : p.constraintValues x = .ok values) (hfin : ∀ v ∈ values, isFinite v = true)
    (withJacobian : Bool) :
    ∃ blocks cs, p.sidedBlocks withJacobian false = .ok blocks ∧
      ((∀ b ∈ blocks, b.Met x) ↔ List.Forall₂ Interval.Encloses p.componentBounds values) ∧
      p.HasComponents values cs ∧
      ConstraintBlock.entries Sense.isZero blocks x =
        .ok ((cs.filter Component.isEquality).map Component.aboveLower) ∧
      ConstraintBlock.entries Sense.isNonnegative blocks x =
        .ok ((cs.filter fun c => !c.isEquality && isFinite c.bounds.lower).map
            Component.aboveLower ++
          (cs.filter fun c => !c.isEquality && isFinite c.bounds.upper).map
            Component.belowUpper) := by
  obtain ⟨cs, hcs⟩ := hp.wellFormed.exists_hasComponents hvalues hfin
  obtain ⟨blocks, hblocks, hmet, hzero, hnonnegative⟩ :=
    hcs.sidedBlocks_eq_ok hp.wellFormed hvalues withJacobian false
  refine ⟨blocks, cs, hblocks, ?_, hcs, hzero, hnonnegative⟩
  rw [hmet, hcs.forall₂_encloses_iff]
  exact forall₂_congr fun c _ => Component.respects_false_iff

/-- Inequalities alone ask for the same as equalities and inequalities, but for components of which
the only admissible value is infinite: they are in no block of the inequalities, and as equalities
they are never met. -/
theorem met_split_sidedBlocks_iff (hp : p.Reachable)
    (hvalues : p.constraintValues x = .ok values) (hfin : ∀ v ∈ values, isFinite v = true)
    (withJacobian withJacobian' : Bool) :
    ∃ blocks splitBlocks, p.sidedBlocks withJacobian false = .ok blocks ∧
      p.sidedBlocks withJacobian' true = .ok splitBlocks ∧
      ((∀ b ∈ blocks, b.Met x) ↔ (∀ b ∈ splitBlocks, b.Met x) ∧
        ∀ i ∈ p.componentBounds, i.isEquality = true → isFinite i.lower = true) := by
  obtain ⟨cs, hcs⟩ := hp.wellFormed.exists_hasComponents hvalues hfin
  obtain ⟨blocks, hblocks, hmet, -, -⟩ :=
    hcs.sidedBlocks_eq_ok hp.wellFormed hvalues withJacobian false
  obtain ⟨splitBlocks, hsplitBlocks, hsplitMet, -, -⟩ :=
    hcs.sidedBlocks_eq_ok hp.wellFormed hvalues withJacobian' true
  refine ⟨blocks, splitBlocks, hblocks, hsplitBlocks, ?_⟩
  rw [hmet, hsplitMet, hcs.bounds, List.forall_mem_map, ← forall₂_and]
  refine forall₂_congr fun c _ => ?_
  rw [Component.respects_false_iff, Component.respects_true_iff]
  rfl

end Problem

theorem constraintValues_boxed :
    boxed.constraintValues (.vector [finite 3]) = .ok [finite 3, finite 3] := rfl

theorem isFinite_values_boxed : ∀ v ∈ [finite 3, finite 3], isFinite v = true := by
  intro v hv
  rcases List.mem_pair.1 hv with rfl | rfl
  · rfl
  · rfl

theorem met_sidedBlocks_iff_boxed :
    boxed.Reachable ∧ ∃ blocks, boxed.sidedBlocks true false = .ok blocks ∧
      ((∀ b ∈ blocks, b.Met (.vector [finite 3])) ↔
        List.Forall₂ Interval.Encloses boxed.componentBounds [finite 3, finite 3]) := by
  obtain ⟨blocks, -, hblocks, hmet, -⟩ := Problem.met_sidedBlocks_iff boxed_reachable
    constraintValues_boxed isFinite_values_boxed true
  exact ⟨boxed_reachable, blocks, hblocks, hmet⟩

theorem met_split_sidedBlocks_iff_boxed :
    boxed.Reachable ∧ ∃ blocks splitBlocks, boxed.sidedBlocks true false = .ok blocks ∧
      boxed.sidedBlocks false true = .ok splitBlocks ∧
      ((∀ b ∈ blocks, b.Met (.vector [finite 3])) ↔
        (∀ b ∈ splitBlocks, b.Met (.vector [finite 3])) ∧
          ∀ i ∈ boxed.componentBounds, i.isEquality = true → isFinite i.lower = true) :=
  ⟨boxed_reachable, Problem.met_split_sidedBlocks_iff boxed_reachable
    constraintValues_boxed isFinite_values_boxed true false⟩

def endless : Problem Exact where
  objective := coordinate
  argumentNames := ["u"]
  argumentBounds := [.unbounded]
  startingPoint := none
  constraints := [⟨coordinate, [⟨finite 0, .infinity, rfl⟩], [finite 1]⟩,
    ⟨coordinate, [⟨.infinity, .infinity, rfl⟩], [finite 1]⟩]
  frozen := false

theorem endless_reachable : endless.Reachable := by
  have hcreate : Problem.create coordinate (some (.texts ["u"])) =
      .ok { endless with constraints := [] } := rfl
  have hfirst : (Assembly.constraint coordinate (.single ⟨finite 0, .infinity, rfl⟩) none).apply
      { endless with constraints := [] } = .ok { endless with
        constraints := [⟨coordinate, [⟨finite 0, .infinity, rfl⟩], [finite 1]⟩] } := by
    with_unfolding_all rfl
  refine .step (.step (.create hcreate) _ hfirst)
    (.constraint coordinate (.single ⟨.infinity, .infinity, rfl⟩) none) ?_
  with_unfolding_all rfl

/-- Inequalities alone leave out the component that has to be infinite, so a point can meet all of
them and not be feasible. -/
theorem not_met_split_sidedBlocks_iff :
    endless.Reachable ∧
    endless.constraintValues (.vector [finite 1]) = .ok [finite 1, finite 1] ∧
    ∃ blocks splitBlocks, endless.sidedBlocks true false = .ok blocks ∧
      endless.sidedBlocks false true = .ok splitBlocks ∧
      (∀ b ∈ splitBlocks, b.Met (.vector [finite 1])) ∧
      ¬ ∀ b ∈ blocks, b.Met (.vector [finite 1]) := by
  have hvalues : endless.constraintValues (.vector [finite 1]) = .ok [finite 1, finite 1] := rfl
  have hcomponents : endless.HasComponents [finite 1, finite 1]
      [⟨⟨finite 0, .infinity, rfl⟩, 1, one_pos, 1⟩,
        ⟨⟨.infinity, .infinity, rfl⟩, 1, one_pos, 1⟩] := ⟨rfl, rfl, rfl⟩
  have hwf := endless_reachable.wellFormed
  obtain ⟨blocks, hblocks, hmet, -, -⟩ := hcomponents.sidedBlocks_eq_ok hwf hvalues true false
  obtain ⟨splitBlocks, hsplitBlocks, hsplitMet, -, -⟩ :=
    hcomponents.sidedBlocks_eq_ok hwf hvalues false true
  refine ⟨endless_reachable, hvalues, blocks, splitBlocks, hblocks, hsplitBlocks, ?_, ?_⟩
  · rw [hsplitMet, List.forall_mem_cons, List.forall_mem_singleton]
    refine ⟨⟨nofun, fun _ => ?_, nofun⟩, ⟨nofun, nofun, nofun⟩⟩
    decide +kernel
  · rw [hmet, List.forall_mem_cons, List.forall_mem_singleton]
    rintro ⟨-, h⟩
    cases h.1 rfl

end NonlinearProgram
