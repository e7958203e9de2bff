import NonlinearProgram.Proofs.Problem.Editing

/-!
# What calls accept and what they change

A call that is let through changes the part of the problem that it names, to what its arguments
stand for, and nothing else. Which constraints are let through is told by the arguments alone: one
interval and one positive finite scale for each component, over the variables of an open problem.
-/

namespace NonlinearProgram

open Scalar

variable {α : Type} [Scalar α]

/-- The intervals that stand where intervals for several places belong. -/
def BoundsArgument.Lists : BoundsArgument α → List (Interval α) → Prop
  | single i, intervals => intervals = [i]
  | several items, intervals => items = intervals.map .interval
  | other _, _ => False

/-- The numbers that the items of a datum stand for. -/
def Datum.Lists (d : Datum α) (xs : List α) : Prop :=
  ∃ items, d.items? = some items ∧ List.Forall₂ (fun item x => item.toScalar = .ok x) items xs

theorem BoundArgument.require_eq_ok_iff {role : String} {bound : BoundArgument α}
    {i : Interval α} : bound.require role = .ok i ↔ bound = .interval i := by
  cases bound with
  | interval j => simp [require]
  | other typeName => simp [require]

theorem BoundArgument.mapM_require_eq_ok_iff {role : String} {items : List (BoundArgument α)}
    {intervals : List (Interval α)} :
    items.mapM (·.require role) = .ok intervals ↔ items = intervals.map .interval := by
  simp only [mapM_eq_ok_iff, require_eq_ok_iff]
  rw [← List.forall₂_map_right_iff (R := Eq), List.forall₂_eq_eq_eq]

theorem BoundsArgument.itemsOrSingle_eq_ok_iff {bounds : BoundsArgument α}
    {intervals : List (Interval α)} :
    bounds.itemsOrSingle = .ok (intervals.map .interval) ↔ bounds.Lists intervals := by
  cases bounds with
  | single i =>
      have h : [BoundArgument.interval i] = intervals.map .interval ↔ intervals = [i] := by
        constructor
        · intro h
          obtain ⟨j, rfl, hj⟩ := List.map_eq_singleton_iff.1 h.symm
          cases hj
          rfl
        · rintro rfl
          rfl
      simpa [itemsOrSingle, Lists] using h
  | several given => simp [itemsOrSingle, BoundsArgument.items, Lists]
  | other typeName => simp [itemsOrSingle, BoundsArgument.items, Lists]

omit [Scalar α] in
theorem Datum.items_eq_ok_iff {d : Datum α} {items : List (Datum α)} :
    d.items = .ok items ↔ d.items? = some items := by
  unfold Datum.items
  cases d.items? with
  | none => simp
  | some its => simp

theorem Constraint.checkScale_number {name : String} {s t : α} :
    Constraint.checkScale name (.number s) = .ok t ↔ Interval.isScale s = true ∧ s = t := by
  change (if Interval.isScale s = true then pure s else throw _ : Except (Error α) α) = _ ↔ _
  by_cases hs : Interval.isScale s = true
  · simp [hs]
  · simp [hs]

theorem Constraint.mapM_checkScale_number {name : String} {scales factors : List α} :
    (scales.map Datum.number).mapM (checkScale name) = .ok factors ↔
      (∀ s ∈ scales, Interval.isScale s = true) ∧ scales = factors := by
  simp only [mapM_eq_ok_iff, List.forall₂_map_left_iff, checkScale_number]
  rw [List.forall₂_and_left, List.forall₂_eq_eq_eq]

theorem Constraint.make_number_eq_ok_iff {f : Function α} {items : List (BoundArgument α)}
    {scales : List α} {c : Constraint α} :
    Constraint.make f items (scales.map .number) = .ok c ↔
      c.function = f ∧ items = c.bounds.map .interval ∧ scales = c.scales ∧ c.WellFormed := by
  unfold make
  simp only [check_eq_ok_iff, bind_eq_ok_iff, BoundArgument.mapM_require_eq_ok_iff,
    mapM_checkScale_number, pure_eq_ok_iff, List.length_map, not_not]
  constructor
  · rintro ⟨hitems, hscales, intervals, rfl, factors, ⟨hpos, rfl⟩, rfl⟩
    rw [List.length_map] at hitems
    exact ⟨rfl, rfl, rfl, hitems, hscales, hpos⟩
  · rintro ⟨rfl, rfl, rfl, hc⟩
    exact ⟨by rw [List.length_map, hc.length_bounds]; rfl, hc.length_scales, _, rfl, _,
      ⟨hc.isScale, rfl⟩, rfl⟩

omit [Scalar α] in
theorem Datum.itemFrom_range {count position : Nat} {k : Int} (hk : 0 ≤ k)
    (h : itemFrom (α := α) (List.range count) k = .ok position) : k = position := by
  simp only [itemFrom, if_neg (Int.not_lt.2 hk), if_pos hk] at h
  split at h
  · next item hitem =>
      cases h
      obtain ⟨hlength, hitem⟩ := List.getElem?_eq_some_iff.1 hitem
      rw [List.getElem_range] at hitem
      rw [← hitem, Int.toNat_of_nonneg hk]
  · cases h

/-- A position that passes both checks is the number given, and one of a variable. -/
theorem Datum.position_eq {index : Datum α} {size count position : Nat}
    (hwithin : index.isWithin size = .ok true)
    (hitem : Datum.itemAt (List.range count) index = .ok position) :
    index.whole? = some (position : Int) ∧ position < size := by
  cases index with
  | whole k =>
      have hk : 0 ≤ k ∧ k < size := by simpa [isWithin, whole?] using hwithin
      have hposition := itemFrom_range hk.1 hitem
      subst hposition
      exact ⟨rfl, by simpa using hk.2⟩
  | flag b =>
      have hk : 0 ≤ (if b then 1 else 0 : Int) ∧ (if b then 1 else 0 : Int) < size := by
        simpa [isWithin, whole?] using hwithin
      have hposition := itemFrom_range hk.1 hitem
      rw [hposition] at hk
      exact ⟨congrArg some hposition, by simpa using hk.2⟩
  | _ => cases hitem

theorem Problem.checkMutable_eq_ok_iff {p : Problem α} {u : Unit} :
    p.checkMutable = .ok u ↔ p.frozen = false := by
  unfold checkMutable
  cases p.frozen with
  | true => simp
  | false => simp

/-- A constraint that an open problem accepts: a function of its variables, with an interval and a
positive finite scale for each component. Without scales each of them is one. -/
structure Problem.Accepts (p : Problem α) (f : Function α) (bounds : BoundsArgument α)
    (scales : Option (Datum α)) (c : Constraint α) : Prop where
  isOpen : p.frozen = false
  inputSize : f.inputSize = p.inputSize
  function : c.function = f
  bounds : bounds.Lists c.bounds
  length_bounds : c.bounds.length = f.outputSize
  scales : (scales.getD (.vector (List.replicate c.bounds.length 1.0))).Lists c.scales
  length_scales : c.scales.length = f.outputSize
  positive : ∀ s ∈ c.scales, less 0.0 s = true
  finite : ∀ s ∈ c.scales, isFinite s = true

theorem Problem.newConstraint_eq_ok_iff {p : Problem α} {f : Function α}
    {bounds : BoundsArgument α} {scales : Option (Datum α)} {c : Constraint α} :
    p.newConstraint f bounds scales = .ok c ↔ p.Accepts f bounds scales c := by
  unfold newConstraint
  simp only [check_eq_ok_iff, bind_eq_ok_iff, checkMutable_eq_ok_iff, not_not,
    Constraint.make_number_eq_ok_iff, Datum.items_eq_ok_iff]
  constructor
  · rintro ⟨-, hopen, hinput, items, hitems, given, hgiven, factors, hfactors, rfl, rfl, rfl, hc⟩
    rw [List.length_map] at hgiven
    rw [mapM_eq_ok_iff] at hfactors
    have hscale := fun s hs => Bool.and_eq_true_iff.1 (hc.isScale s hs)
    exact {
      isOpen := hopen
      inputSize := hinput
      function := rfl
      bounds := BoundsArgument.itemsOrSingle_eq_ok_iff.1 hitems
      length_bounds := hc.length_bounds
      scales := ⟨given, hgiven, hfactors⟩
      length_scales := hc.length_scales
      positive := fun s hs => (hscale s hs).1
      finite := fun s hs => (hscale s hs).2 }
  · intro h
    obtain ⟨given, hgiven, hfactors⟩ := h.scales
    have hitems := BoundsArgument.itemsOrSingle_eq_ok_iff.2 h.bounds
    refine ⟨(), h.isOpen, h.inputSize, _, hitems, given, ?_, c.scales, ?_, h.function, rfl, rfl, ?_⟩
    · rw [List.length_map]
      exact hgiven
    · exact mapM_eq_ok_iff.2 hfactors
    · rw [← h.function] at *
      exact {
        length_bounds := h.length_bounds
        length_scales := h.length_scales
        isScale := fun s hs => Bool.and_eq_true_iff.2 ⟨h.positive s hs, h.finite s hs⟩ }

namespace Assembly

/-- How a call that is let through changes a problem: the part that it names is what its arguments
stand for, and every other part is as it was. -/
def Changes (p q : Problem α) : Assembly α → Prop
  | argumentBound index bound => ∃ (k : Nat) (i : Interval α),
      index.whole? = some (k : Int) ∧ k < p.inputSize ∧ bound = .interval i ∧
        q = { p with argumentBounds := p.argumentBounds.set k i }
  | argumentBounds bounds => ∃ intervals, bounds = .several (intervals.map .interval) ∧
      intervals.length = p.inputSize ∧ q = { p with argumentBounds := intervals }
  | allArgumentBounds bound => ∃ intervals, (∀ i ∈ intervals, bound = .interval i) ∧
      intervals.length = p.inputSize ∧ q = { p with argumentBounds := intervals }
  | startingPoint x => ∃ xs, Tensor.ofDatum x = .ok (.vector xs) ∧ xs.length = p.inputSize ∧
      q = { p with startingPoint := some xs }
  | constraint f bounds scales => ∃ c, p.Accepts f bounds scales c ∧
      q = { p with constraints := p.constraints ++ [c] }
  | freeze => q = { p with frozen := true }

variable {p q : Problem α}

theorem changes_argumentBound {index : Datum α} {bound : BoundArgument α}
    (h : p.setArgumentBound index bound = .ok q) : (argumentBound index bound).Changes p q := by
  obtain ⟨-, -, h⟩ := bind_eq_ok_iff.1 h
  obtain ⟨within, hwithin, h⟩ := bind_eq_ok_iff.1 h
  obtain ⟨hrange, h⟩ := check_eq_ok_iff.1 h
  obtain ⟨i, hi, h⟩ := bind_eq_ok_iff.1 h
  obtain ⟨position, hposition, h⟩ := bind_eq_ok_iff.1 h
  have hwithin : index.isWithin p.inputSize = .ok true := by
    rw [hwithin]
    simpa using hrange
  obtain ⟨hindex, hlt⟩ := Datum.position_eq hwithin hposition
  exact ⟨position, i, hindex, hlt, BoundArgument.require_eq_ok_iff.1 hi,
    ((pure_eq_ok_iff _ _).1 h).symm⟩

theorem changes_argumentBounds {bounds : BoundsArgument α}
    (h : p.setArgumentBounds bounds = .ok q) : (argumentBounds bounds).Changes p q := by
  obtain ⟨-, -, h⟩ := bind_eq_ok_iff.1 h
  obtain ⟨items, hitems, h⟩ := bind_eq_ok_iff.1 h
  obtain ⟨hlength, h⟩ := check_eq_ok_iff.1 h
  obtain ⟨intervals, hintervals, h⟩ := bind_eq_ok_iff.1 h
  rw [BoundArgument.mapM_require_eq_ok_iff] at hintervals
  rw [hintervals] at hitems
  rw [hintervals, List.length_map, not_not] at hlength
  refine ⟨intervals, ?_, hlength, ((pure_eq_ok_iff _ _).1 h).symm⟩
  cases bounds with
  | several given =>
      cases hitems
      rfl
  | single i => cases hitems
  | other typeName => cases hitems

theorem changes_allArgumentBounds {bound : BoundArgument α}
    (h : p.setAllArgumentBounds bound = .ok q) : (allArgumentBounds bound).Changes p q := by
  obtain ⟨intervals, hbounds, hlength, hq⟩ := changes_argumentBounds h
  refine ⟨intervals, ?_, hlength, hq⟩
  intro i hi
  -- The call passes on copies of one bound, and each interval stands for one of them.
  have hmem : BoundArgument.interval i ∈ List.replicate p.inputSize bound := by
    rw [BoundsArgument.several.inj hbounds]
    exact List.mem_map_of_mem hi
  exact (List.eq_of_mem_replicate hmem).symm

theorem changes_startingPoint {x : Datum α} (h : p.setStartingPoint x = .ok q) :
    (startingPoint x).Changes p q := by
  obtain ⟨-, -, h⟩ := bind_eq_ok_iff.1 h
  obtain ⟨t, ht, h⟩ := bind_eq_ok_iff.1 h
  obtain ⟨hshape, h⟩ := check_eq_ok_iff.1 h
  obtain ⟨hvector, hlength⟩ := Tensor.eq_vector_of_ofDatum ht (not_not.1 hshape)
  rw [hvector] at ht
  exact ⟨t.entries, ht, hlength, ((pure_eq_ok_iff _ _).1 h).symm⟩

theorem changes_of_apply {call : Assembly α} (h : call.apply p = .ok q) : call.Changes p q := by
  cases call with
  | argumentBound index bound => exact changes_argumentBound h
  | argumentBounds bounds => exact changes_argumentBounds h
  | allArgumentBounds bound => exact changes_allArgumentBounds h
  | startingPoint x => exact changes_startingPoint h
  | constraint f bounds scales =>
      rw [apply_constraint, map_eq_ok_iff] at h
      obtain ⟨c, hc, hq⟩ := h
      exact ⟨c, Problem.newConstraint_eq_ok_iff.1 hc, hq.symm⟩
  | freeze =>
      cases h
      rfl

theorem exists_apply_constraint_iff {f : Function α} {bounds : BoundsArgument α}
    {scales : Option (Datum α)} :
    (∃ q, (constraint f bounds scales).apply p = .ok q) ↔ ∃ c, p.Accepts f bounds scales c := by
  simp only [apply_constraint, map_eq_ok_iff, Problem.newConstraint_eq_ok_iff]
  constructor
  · rintro ⟨q, c, hc, -⟩
    exact ⟨c, hc⟩
  · rintro ⟨c, hc⟩
    exact ⟨_, c, hc, rfl⟩

theorem apply_of_frozen (hp : p.frozen = true) {call : Assembly α} (hcall : call ≠ .freeze) :
    call.apply p = .error .problemFrozen := by
  have hcheck : p.checkMutable = .error .problemFrozen := by
    rw [Problem.checkMutable, if_pos hp]
  cases call with
  | argumentBound index bound =>
      simp only [apply, Problem.setArgumentBound, hcheck]
      rfl
  | argumentBounds bounds =>
      simp only [apply, Problem.setArgumentBounds, hcheck]
      rfl
  | allArgumentBounds bound =>
      simp only [apply, Problem.setAllArgumentBounds, Problem.setArgumentBounds, hcheck]
      rfl
  | startingPoint x =>
      simp only [apply, Problem.setStartingPoint, hcheck]
      rfl
  | constraint f bounds scales =>
      simp only [apply_constraint, Problem.newConstraint, hcheck]
      rfl
  | freeze => exact absurd rfl hcall

end Assembly

end NonlinearProgram
