import NonlinearProgram.Problem.Basic
import NonlinearProgram.Proofs.Function
import NonlinearProgram.Proofs.Interval
import NonlinearProgram.Proofs.Scalar.Ordered

/-!
# Violations are numbers

At a point with finite coordinates and finite constraint values every distance is a number, and so
is the largest of them. A point is looked at only through the vector it stands for.
-/

namespace NonlinearProgram

open Scalar

variable {α : Type} [Scalar α]

namespace Constraint

theorem foldl_larger_mem (d : α) (ds : List α) : ds.foldl larger d ∈ d :: ds := by
  induction ds generalizing d with
  | nil => exact List.mem_singleton_self d
  | cons e ds ih =>
      rw [List.foldl_cons]
      rcases List.mem_cons.1 (ih (larger d e)) with h | h
      · rw [h, larger]
        split
        · exact List.mem_cons_of_mem d List.mem_cons_self
        · exact List.mem_cons_self
      · exact List.mem_cons_of_mem d (List.mem_cons_of_mem e h)

theorem greatest_mem (otherwise : α) (ds : List α) :
    greatest otherwise ds ∈ otherwise :: ds := by
  cases ds with
  | nil => exact List.mem_cons_self
  | cons d ds => exact List.mem_cons_of_mem otherwise (foldl_larger_mem d ds)

theorem greatest_induction {P : α → Prop} {otherwise : α} {ds : List α} (ho : P otherwise)
    (h : ∀ d ∈ ds, P d) : P (greatest otherwise ds) := by
  rcases List.mem_cons.1 (greatest_mem otherwise ds) with heq | hmem
  · rw [heq]
    exact ho
  · exact h _ hmem

theorem isNaN_greatest {otherwise : α} {ds : List α} (ho : isNaN otherwise = false)
    (h : ∀ d ∈ ds, isNaN d = false) : isNaN (greatest otherwise ds) = false :=
  greatest_induction (P := fun d => isNaN d = false) ho h

section Order

variable [OrderedScalar α] {t otherwise : α} {ds : List α}

theorem foldl_larger_atMost_iff {d : α} (hd : isNaN d = false)
    (hds : ∀ e ∈ ds, isNaN e = false) :
    atMost (ds.foldl larger d) t = true ↔ atMost d t = true ∧ ∀ e ∈ ds, atMost e t = true := by
  induction ds generalizing d with
  | nil => simp
  | cons e ds ih =>
      obtain ⟨he, hds⟩ := List.forall_mem_cons.1 hds
      have hlarger : isNaN (larger d e) = false := by
        unfold larger
        split <;> assumption
      rw [List.foldl_cons, ih hlarger hds, larger_atMost_iff hd he, List.forall_mem_cons,
        and_assoc]

theorem atMost_of_greatest (hds : ∀ d ∈ ds, isNaN d = false)
    (h : atMost (greatest otherwise ds) t = true) : ∀ d ∈ ds, atMost d t = true := by
  cases ds with
  | nil => nofun
  | cons d ds =>
      obtain ⟨hd, hds⟩ := List.forall_mem_cons.1 hds
      exact List.forall_mem_cons.2 ((foldl_larger_atMost_iff hd hds).1 h)

theorem greatest_atMost_iff (ho : atMost otherwise t = true) (hds : ∀ d ∈ ds, isNaN d = false) :
    atMost (greatest otherwise ds) t = true ↔ ∀ d ∈ ds, atMost d t = true :=
  ⟨atMost_of_greatest hds, greatest_induction (P := fun d => atMost d t = true) ho⟩

end Order

theorem isNaN_of_mem_distances [LawfulScalar α] {bounds : List (Interval α)} {values : List α}
    (h : ∀ v ∈ values, isFinite v = true) : ∀ d ∈ distances bounds values, isNaN d = false := by
  induction bounds generalizing values with
  | nil => nofun
  | cons i bounds ih =>
      cases values with
      | nil => nofun
      | cons v values =>
          intro d hd
          rcases List.mem_cons.1 hd with rfl | hd
          · exact i.isNaN_distance (h v List.mem_cons_self)
          · exact ih (fun w hw => h w (List.mem_cons_of_mem v hw)) d hd

variable {c : Constraint α} {x y : Datum α}

theorem violation_congr (h : Tensor.ofDatum x = Tensor.ofDatum y) :
    c.violation x = c.violation y := by
  unfold violation
  rw [Function.compute_congr h]

theorem isNaN_violation [LawfulScalar α] {values : List α} {v : α}
    (hvalues : c.function.compute x = .ok values) (hfin : ∀ w ∈ values, isFinite w = true)
    (h : c.violation x = .ok v) : isNaN v = false := by
  obtain ⟨values', hvalues', h⟩ := bind_eq_ok_iff.1 h
  rw [hvalues, Except.ok.injEq] at hvalues'
  rw [pure_eq_ok_iff] at h
  rw [← h, ← hvalues']
  exact isNaN_greatest LawfulScalar.isNaN_zero (isNaN_of_mem_distances hfin)

end Constraint

namespace Problem

variable {p : Problem α} {x y : Datum α} {xs : List α}

theorem constraintValues_congr (h : Tensor.ofDatum x = Tensor.ofDatum y) :
    p.constraintValues x = p.constraintValues y := by
  unfold constraintValues Constraint.stackedValues
  simp only [Function.compute_congr h]

theorem constraintViolation_congr (h : Tensor.ofDatum x = Tensor.ofDatum y) :
    p.constraintViolation x = p.constraintViolation y := by
  unfold constraintViolation argumentDistances
  simp only [Constraint.violation_congr h, h]

theorem exists_compute_of_constraintValues {values : List α}
    (h : p.constraintValues x = .ok values) {c : Constraint α} (hc : c ∈ p.constraints) :
    ∃ cv, c.function.compute x = .ok cv ∧ ∀ v ∈ cv, v ∈ values := by
  obtain ⟨parts, hparts, h⟩ := bind_eq_ok_iff.1 h
  rw [pure_eq_ok_iff] at h
  subst h
  rw [mapM_eq_ok_iff] at hparts
  obtain ⟨cv, hcv, hcompute⟩ := exists_of_mem_left hparts hc
  refine ⟨cv, hcompute, ?_⟩
  intro v hv
  exact List.mem_flatten_of_mem hcv hv

theorem exists_values_of_constraintValues {values : List α}
    (h : p.constraintValues x = .ok values) :
    ∃ g : Constraint α → List α, (∀ c ∈ p.constraints, c.function.compute x = .ok (g c)) ∧
      values = p.constraints.flatMap g := by
  have hg : ∀ c ∈ p.constraints,
      c.function.compute x = .ok ((c.function.compute x).toOption.getD []) := by
    intro c hc
    obtain ⟨cv, hcv, -⟩ := exists_compute_of_constraintValues h hc
    rw [hcv]
    rfl
  refine ⟨_, hg, ?_⟩
  obtain ⟨parts, hparts, h⟩ := bind_eq_ok_iff.1 h
  rw [mapM_eq_ok_map hg, Except.ok.injEq] at hparts
  rw [pure_eq_ok_iff, ← hparts] at h
  rw [← h, List.flatMap_def]

theorem isNaN_constraintViolation [LawfulScalar α] {values : List α} {violation : α}
    (hx : Tensor.ofDatum x = .ok (.vector xs)) (hfin : ∀ v ∈ xs, isFinite v = true)
    (hvalues : p.constraintValues x = .ok values) (hvfin : ∀ v ∈ values, isFinite v = true)
    (h : p.constraintViolation x = .ok violation) : isNaN violation = false := by
  obtain ⟨outside, houtside, h⟩ := bind_eq_ok_iff.1 h
  obtain ⟨violations, hviolations, h⟩ := bind_eq_ok_iff.1 h
  rw [pure_eq_ok_iff] at h
  subst h
  have houtside : outside = Constraint.distances p.argumentBounds xs := by
    obtain ⟨t, ht, houtside⟩ := bind_eq_ok_iff.1 houtside
    rw [hx, Except.ok.injEq] at ht
    subst ht
    rw [← (pure_eq_ok_iff _ _).1 houtside]
    rfl
  refine Constraint.isNaN_greatest LawfulScalar.isNaN_zero ?_
  intro d hd
  rcases List.mem_append.1 hd with hd | hd
  · rw [houtside] at hd
    exact Constraint.isNaN_of_mem_distances hfin d hd
  · obtain ⟨c, hc, hviolation⟩ := exists_of_mem_right (mapM_eq_ok_iff.1 hviolations) hd
    obtain ⟨cv, hcv, hmem⟩ := exists_compute_of_constraintValues hvalues hc
    exact Constraint.isNaN_violation hcv (fun v hv => hvfin v (hmem v hv)) hviolation

end Problem

end NonlinearProgram
