import NonlinearProgram.Proofs.Interval.Position
import NonlinearProgram.Proofs.Solver.Stacked

/-!
# Feasible points

The distance of a value from an interval is zero or positive, never what is not a number. The
largest of all distances at a point is therefore told by the tolerances it keeps, which are those
that every variable and every component keeps. So whether a point is feasible is a conjunction over
variables and components, in which their order is of no account.
-/

namespace NonlinearProgram

open Scalar LawfulScalar OrderedScalar

variable {α : Type} [Scalar α] [OrderedScalar α]

namespace Constraint

variable {bounds : List (Interval α)} {values ds : List α} {t : α}

theorem isDistance_of_mem_distances {d : α} (hd : d ∈ distances bounds values) : IsDistance d := by
  rw [distances, ← List.map_uncurry_zip_eq_zipWith] at hd
  obtain ⟨⟨i, v⟩, -, rfl⟩ := List.mem_map.1 hd
  exact i.isDistance_distance v

omit [OrderedScalar α] in
theorem isDistance_greatest (h : ∀ d ∈ ds, IsDistance d) : IsDistance (greatest 0.0 ds) :=
  greatest_induction (.inl rfl) h

omit [OrderedScalar α] in
theorem distances_atMost_iff (hlength : bounds.length = values.length) :
    (∀ d ∈ distances bounds values, atMost d t = true) ↔
      List.Forall₂ (fun i v => i.contains v t = true) bounds values := by
  induction bounds generalizing values with
  | nil =>
      rw [List.eq_nil_of_length_eq_zero hlength.symm]
      exact ⟨fun _ => .nil, fun _ => nofun⟩
  | cons i bounds ih =>
      obtain ⟨v, values, rfl⟩ := List.exists_cons_of_length_eq_add_one hlength.symm
      have hcons : distances (i :: bounds) (v :: values) =
          i.distance v :: distances bounds values := rfl
      rw [hcons, List.forall_mem_cons, ih (Nat.succ.inj hlength), List.forall₂_cons]
      exact Iff.rfl

omit [OrderedScalar α] in
theorem violation_eq_ok {c : Constraint α} {x : Datum α}
    (hvalues : c.function.compute x = .ok values) :
    c.violation x = .ok (greatest 0.0 (distances c.bounds values)) :=
  bind_eq_ok_iff.2 ⟨values, hvalues, rfl⟩

end Constraint

theorem forall₂_flatMap_iff {β γ δ : Type} {R : β → γ → Prop} {f : δ → List β} {g : δ → List γ}
    {xs : List δ} (h : ∀ x ∈ xs, (f x).length = (g x).length) :
    List.Forall₂ R (xs.flatMap f) (xs.flatMap g) ↔ ∀ x ∈ xs, List.Forall₂ R (f x) (g x) := by
  induction xs with
  | nil => simp
  | cons x xs ih =>
      obtain ⟨hx, hxs⟩ := List.forall_mem_cons.1 h
      rw [List.flatMap_cons, List.flatMap_cons, List.forall_mem_cons, ← ih hxs]
      constructor
      · intro hall
        have htake := List.forall₂_take (f x).length hall
        have hdrop := List.forall₂_drop (f x).length hall
        rw [List.take_left, hx, List.take_left] at htake
        rw [List.drop_left, hx, List.drop_left] at hdrop
        exact ⟨htake, hdrop⟩
      · rintro ⟨hfirst, hrest⟩
        exact List.rel_append hfirst hrest

namespace Problem

variable {p : Problem α} {x : Datum α} {xs values : List α} {g : Constraint α → List α}

omit [OrderedScalar α] in
theorem constraintViolation_eq_ok (hx : Tensor.ofDatum x = .ok (.vector xs))
    (hg : ∀ c ∈ p.constraints, c.function.compute x = .ok (g c)) :
    p.constraintViolation x = .ok (Constraint.greatest 0.0
      (Constraint.distances p.argumentBounds xs ++ p.constraints.map fun c =>
        Constraint.greatest 0.0 (Constraint.distances c.bounds (g c)))) := by
  have houtside : p.argumentDistances x = .ok (Constraint.distances p.argumentBounds xs) :=
    bind_eq_ok_iff.2 ⟨_, hx, rfl⟩
  have hviolations := mapM_eq_ok_map fun c hc => Constraint.violation_eq_ok (hg c hc)
  exact bind_eq_ok_iff.2 ⟨_, houtside, bind_eq_ok_iff.2 ⟨_, hviolations, rfl⟩⟩

/-- The violation is a distance, and keeps the tolerances that all distances keep. The largest of
all distances may be looked for constraint by constraint. -/
theorem exists_constraintViolation (hx : Tensor.ofDatum x = .ok (.vector xs))
    (hg : ∀ c ∈ p.constraints, c.function.compute x = .ok (g c)) :
    ∃ violation, p.constraintViolation x = .ok violation ∧ IsDistance violation ∧
      ∀ t, atMost 0.0 t = true → (atMost violation t = true ↔
        (∀ d ∈ Constraint.distances p.argumentBounds xs, atMost d t = true) ∧
        ∀ c ∈ p.constraints, ∀ d ∈ Constraint.distances c.bounds (g c), atMost d t = true) := by
  have hcomponents : ∀ c : Constraint α, ∀ d ∈ Constraint.distances c.bounds (g c),
      IsDistance d := fun c _ => Constraint.isDistance_of_mem_distances
  have hall : ∀ d ∈ Constraint.distances p.argumentBounds xs ++ p.constraints.map
      (fun c => Constraint.greatest 0.0 (Constraint.distances c.bounds (g c))), IsDistance d := by
    rw [List.forall_mem_append, List.forall_mem_map]
    exact ⟨fun _ => Constraint.isDistance_of_mem_distances,
      fun c _ => Constraint.isDistance_greatest (hcomponents c)⟩
  refine ⟨_, constraintViolation_eq_ok hx hg, Constraint.isDistance_greatest hall, fun t ht => ?_⟩
  rw [Constraint.greatest_atMost_iff ht fun d hd => (hall d hd).isNaN_eq_false,
    List.forall_mem_append, List.forall_mem_map]
  refine and_congr_right fun _ => forall₂_congr fun c _ => ?_
  exact Constraint.greatest_atMost_iff ht fun d hd => (hcomponents c d hd).isNaN_eq_false

/-- The same where the parts of the problem agree in size, variable by variable and component by
component. -/
theorem WellFormed.exists_violation_atMost_iff (hp : p.WellFormed)
    (hx : Tensor.ofDatum x = .ok (.vector xs)) (hlength : xs.length = p.inputSize)
    (hvalues : p.constraintValues x = .ok values) :
    ∃ violation, p.constraintViolation x = .ok violation ∧ IsDistance violation ∧
      ∀ t, atMost 0.0 t = true → (atMost violation t = true ↔
        List.Forall₂ (fun i v => i.contains v t = true) p.argumentBounds xs ∧
        List.Forall₂ (fun i v => i.contains v t = true) p.componentBounds values) := by
  obtain ⟨g, hg, rfl⟩ := exists_values_of_constraintValues hvalues
  have hlengths : ∀ c ∈ p.constraints, c.bounds.length = (g c).length := by
    intro c hc
    rw [(hp.constraints c hc).length_bounds, Function.length_of_compute (hg c hc)]
    rfl
  obtain ⟨violation, hviolation, hdistance, hbounds⟩ := exists_constraintViolation hx hg
  refine ⟨violation, hviolation, hdistance, fun t ht => ?_⟩
  rw [hbounds t ht, Constraint.distances_atMost_iff (hp.length_bounds.trans hlength.symm),
    componentBounds, forall₂_flatMap_iff hlengths]
  exact and_congr_right fun _ =>
    forall₂_congr fun c hc => Constraint.distances_atMost_iff (hlengths c hc)

/-- Where the constraints have values there is a violation, and it is zero where every variable and
every component lies in its interval. -/
theorem WellFormed.exists_violation_eq_zero_iff (hp : p.WellFormed)
    (hx : Tensor.ofDatum x = .ok (.vector xs)) (hlength : xs.length = p.inputSize)
    (hvalues : p.constraintValues x = .ok values) :
    ∃ violation, p.constraintViolation x = .ok violation ∧
      (violation = 0.0 ↔ List.Forall₂ Interval.Encloses p.argumentBounds xs ∧
        List.Forall₂ Interval.Encloses p.componentBounds values) := by
  obtain ⟨violation, hviolation, hdistance, hbounds⟩ :=
    hp.exists_violation_atMost_iff hx hlength hvalues
  refine ⟨violation, hviolation, ?_⟩
  rw [← hdistance.atMost_zero_iff, hbounds _ (atMost_refl isNaN_zero)]
  simp only [Interval.contains_zero_iff]

omit [OrderedScalar α] in
theorem isFeasibleWithin_of_toReal {violation t : α} {tolerance : Datum α}
    (hviolation : p.constraintViolation x = .ok violation) (ht : tolerance.toReal = .ok t) :
    p.isFeasibleWithin x tolerance = .ok ⟨[], [atMost violation t]⟩ := by
  refine bind_eq_ok_iff.2 ⟨violation, hviolation, ?_⟩
  cases tolerance with
  | list items => cases ht
  | nothing | flag b | whole n | number y | text s | record fields =>
      exact bind_eq_ok_iff.2 ⟨t, ht, rfl⟩

omit [OrderedScalar α] in
/-- Where something is not a number, no tolerance is kept that infinity does not keep. -/
theorem infinity_atMost_of_isNaN {bounds : List (Interval α)} {vs : List α} {t : α}
    (hall : List.Forall₂ (fun i v => i.contains v t = true) bounds vs)
    (h : ∃ v ∈ vs, isNaN v = true) : atMost infinity t = true := by
  obtain ⟨v, hv, hnan⟩ := h
  obtain ⟨i, -, hi⟩ := exists_of_mem_right hall hv
  rw [Interval.contains, i.distance_of_isNaN hnan] at hi
  exact hi

/-- **Feasibility is a conjunction.** For every problem that can be assembled and every point where
its constraints have values, infinite ones and such that are no numbers among them: the problem is
feasible with a tolerance where every variable's bound and every component's interval contain their
values with it. The violation is a number and not negative; it is zero where all intervals enclose
their values, infinite where something is not a number, and the same for all orders of the
constraints. -/
theorem isFeasible_iff_contains (hp : p.Reachable) (hx : Tensor.ofDatum x = .ok (.vector xs))
    (hlength : xs.length = p.inputSize) (hvalues : p.constraintValues x = .ok values) :
    (∀ tolerance t, Datum.toReal tolerance = .ok t → atMost 0.0 t = true →
      ∃ b, p.isFeasible x t = .ok b ∧ p.isFeasibleWithin x tolerance = .ok ⟨[], [b]⟩ ∧
        (b = true ↔
          List.Forall₂ (fun i v => i.contains v t = true) p.argumentBounds xs ∧
          List.Forall₂ (fun i v => i.contains v t = true) p.componentBounds values)) ∧
    ∃ violation, p.constraintViolation x = .ok violation ∧
      isNaN violation = false ∧ atMost 0.0 violation = true ∧
      (violation = 0.0 ↔ List.Forall₂ Interval.Encloses p.argumentBounds xs ∧
        List.Forall₂ Interval.Encloses p.componentBounds values) ∧
      ((∃ v ∈ xs ++ values, isNaN v = true) → violation = infinity) ∧
      ∀ q : Problem α, q.argumentBounds = p.argumentBounds →
        q.constraints.Perm p.constraints → q.constraintViolation x = .ok violation := by
  have hwf := hp.wellFormed
  obtain ⟨violation, hviolation, hdistance, hbounds⟩ :=
    hwf.exists_violation_atMost_iff hx hlength hvalues
  obtain ⟨zero, hzero, hzero_iff⟩ := hwf.exists_violation_eq_zero_iff hx hlength hvalues
  rw [hviolation, Except.ok.injEq] at hzero
  subst hzero
  refine ⟨?feasible, violation, hviolation, hdistance.isNaN_eq_false, hdistance.zero_atMost,
    hzero_iff, ?infinite, ?order⟩
  case feasible =>
    intro tolerance t htolerance ht
    refine ⟨atMost violation t, bind_eq_ok_iff.2 ⟨violation, hviolation, rfl⟩,
      isFeasibleWithin_of_toReal hviolation htolerance, hbounds t ht⟩
  case infinite =>
    rintro ⟨v, hv, hnan⟩
    obtain ⟨hargument, hcomponent⟩ := (hbounds violation hdistance.zero_atMost).1
      (atMost_refl hdistance.isNaN_eq_false)
    apply hdistance.eq_infinity
    rcases List.mem_append.1 hv with hv | hv
    · exact infinity_atMost_of_isNaN hargument ⟨v, hv, hnan⟩
    · exact infinity_atMost_of_isNaN hcomponent ⟨v, hv, hnan⟩
  case order =>
    intro q hargument hperm
    obtain ⟨g, hg, rfl⟩ := exists_values_of_constraintValues hvalues
    obtain ⟨mine, hmine, hmineDistance, hmineBounds⟩ := exists_constraintViolation hx hg
    obtain ⟨other, hother, hotherDistance, hotherBounds⟩ :=
      exists_constraintViolation (p := q) hx fun c hc => hg c (hperm.mem_iff.1 hc)
    rw [hviolation, Except.ok.injEq] at hmine
    subst hmine
    rw [hother, hotherDistance.eq_of_bounds hmineDistance]
    intro t ht
    rw [hotherBounds t ht, hmineBounds t ht, hargument]
    simp only [hperm.mem_iff]

end Problem

/-- Where the variable is not a number, neither are its copies, and the violation is infinite. -/
theorem isFeasible_iff_contains_boxed :
    boxed.Reachable ∧ boxed.constraintViolation (.vector [Exact.notANumber]) = .ok infinity := by
  have hx : Tensor.ofDatum (.vector [Exact.notANumber]) = .ok (.vector [Exact.notANumber]) :=
    Tensor.ofDatum_vector _
  have hvalues : boxed.constraintValues (.vector [Exact.notANumber]) =
      .ok [Exact.notANumber, Exact.notANumber] := rfl
  obtain ⟨-, violation, hviolation, -, -, -, hinfinite, -⟩ :=
    Problem.isFeasible_iff_contains boxed_reachable hx rfl hvalues
  refine ⟨boxed_reachable, ?_⟩
  rw [hviolation, hinfinite ⟨.notANumber, List.mem_cons_self, rfl⟩]

end NonlinearProgram
