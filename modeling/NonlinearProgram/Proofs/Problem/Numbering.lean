import NonlinearProgram.Proofs.Interval
import NonlinearProgram.Proofs.Problem.Reachable
import NonlinearProgram.Solver.Stacked

/-!
# The numbering of components

The components of all constraints are numbered through: output `i` of a constraint is component
`offset + i`, where the offset counts the components of the constraints before it. A list of
components that goes through the constraints in order follows this numbering, and lists that
follow it do so entry by entry. A sum over the components that counts as it goes keeps in step
with it.
-/

namespace NonlinearProgram

open Scalar

section Lists

variable {β γ δ : Type}

/-- In a list of lists, an entry comes after all entries of the lists before its own. -/
theorem getElem?_flatten_of_getElem? {xss : List (List β)} {xs : List β} {j i : Nat}
    (hj : xss[j]? = some xs) (hi : i < xs.length) :
    xss.flatten[(xss.take j).flatten.length + i]? = xs[i]? := by
  obtain ⟨hlt, rfl⟩ := List.getElem?_eq_some_iff.1 hj
  have hsplit : xss.flatten = (xss.take j).flatten ++ (xss.drop j).flatten := by
    rw [← List.flatten_append, List.take_append_drop]
  rw [hsplit, List.getElem?_append_right (Nat.le_add_right _ _), Nat.add_sub_cancel_left,
    List.drop_eq_getElem_cons hlt, List.flatten_cons, List.getElem?_append_left hi]

theorem zip_flatMap {xs : List δ} {f : δ → List β} {g : δ → List γ}
    (h : ∀ x ∈ xs, (f x).length = (g x).length) :
    (xs.flatMap f).zip (xs.flatMap g) = xs.flatMap fun x => (f x).zip (g x) := by
  induction xs with
  | nil => rfl
  | cons x xs ih =>
      rw [List.flatMap_cons, List.flatMap_cons, List.flatMap_cons,
        List.zip_append (h x List.mem_cons_self)]
      rw [ih fun y hy => h y (List.mem_cons_of_mem x hy)]

end Lists

namespace Problem

variable {α : Type} [Scalar α] {p : Problem α} {β γ δ : Type}

def totalSize (constraints : List (Constraint α)) : Nat :=
  constraints.foldr (fun c rest => c.size + rest) 0

def offset (p : Problem α) (j : Nat) : Nat := totalSize (p.constraints.take j)

/-- A list has an entry for each component, and for those of a constraint the entries of its
part. -/
structure Numbered (p : Problem α) (part : Constraint α → List β) (xs : List β) : Prop where
  length_eq : xs.length = p.componentCount
  getElem?_offset_add : ∀ {j : Nat} {c : Constraint α}, p.constraints[j]? = some c →
    ∀ i < c.size, ∃ b, (part c)[i]? = some b ∧ xs[p.offset j + i]? = some b

theorem totalSize_append (cs ds : List (Constraint α)) :
    totalSize (cs ++ ds) = totalSize cs + totalSize ds := by
  induction cs with
  | nil => exact (Nat.zero_add _).symm
  | cons c cs ih =>
      change c.size + totalSize (cs ++ ds) = c.size + totalSize cs + totalSize ds
      rw [ih, Nat.add_assoc]

theorem length_flatMap_of_length {part : Constraint α → List β} {cs : List (Constraint α)}
    (h : ∀ c ∈ cs, (part c).length = c.size) : (cs.flatMap part).length = totalSize cs := by
  induction cs with
  | nil => rfl
  | cons c cs ih =>
      rw [List.flatMap_cons, List.length_append, h c List.mem_cons_self,
        ih fun d hd => h d (List.mem_cons_of_mem c hd)]
      rfl

theorem offset_length (p : Problem α) : p.offset p.constraints.length = p.componentCount := by
  rw [offset, List.take_length]
  rfl

theorem offset_succ {j : Nat} {c : Constraint α} (hj : p.constraints[j]? = some c) :
    p.offset (j + 1) = p.offset j + c.size := by
  rw [offset, List.take_add_one, hj, totalSize_append]
  rfl

theorem exists_offset_add {k : Nat} (hk : k < p.componentCount) :
    ∃ j c i, p.constraints[j]? = some c ∧ i < c.size ∧ k = p.offset j + i := by
  rw [← offset_length] at hk
  -- On the number of constraints that are counted: the component is among those before, or it
  -- belongs to the last one counted.
  have hreach : ∀ j ≤ p.constraints.length, k < p.offset j →
      ∃ j c i, p.constraints[j]? = some c ∧ i < c.size ∧ k = p.offset j + i := by
    intro j
    induction j with
    | zero =>
        intro _ h
        cases h
    | succ j ih =>
        intro hj h
        by_cases hbefore : k < p.offset j
        · exact ih (Nat.le_of_succ_le hj) hbefore
        · have hc := List.getElem?_eq_getElem (l := p.constraints) hj
          rw [offset_succ hc] at h
          refine ⟨j, _, k - p.offset j, hc, ?_, ?_⟩
          · omega
          · omega
  exact hreach _ (Nat.le_refl _) hk

theorem numbered_flatMap {part : Constraint α → List β}
    (h : ∀ c ∈ p.constraints, (part c).length = c.size) :
    p.Numbered part (p.constraints.flatMap part) := by
  refine ⟨length_flatMap_of_length h, ?_⟩
  intro j c hj i hi
  have hoffset : ((p.constraints.map part).take j).flatten.length = p.offset j := by
    rw [← List.map_take, ← List.flatMap_def]
    exact length_flatMap_of_length fun d hd => h d (List.mem_of_mem_take hd)
  have hpart : (p.constraints.map part)[j]? = some (part c) := by
    rw [List.getElem?_map, hj, Option.map_some]
  rw [← h c (List.mem_of_getElem? hj)] at hi
  refine ⟨(part c)[i], List.getElem?_eq_getElem hi, ?_⟩
  rw [← hoffset, List.flatMap_def, getElem?_flatten_of_getElem? hpart hi,
    List.getElem?_eq_getElem hi]

theorem Numbered.map {part : Constraint α → List β} {xs : List β} (h : p.Numbered part xs)
    (f : β → γ) : p.Numbered (fun c => (part c).map f) (xs.map f) := by
  refine ⟨?_, ?_⟩
  · rw [List.length_map, h.length_eq]
  · intro j c hj i hi
    obtain ⟨b, hb, hxs⟩ := h.getElem?_offset_add hj i hi
    exact ⟨f b, by rw [List.getElem?_map, hb, Option.map_some],
      by rw [List.getElem?_map, hxs, Option.map_some]⟩

theorem Numbered.zipWith {part : Constraint α → List β} {part' : Constraint α → List γ}
    {xs : List β} {ys : List γ} (h : p.Numbered part xs) (h' : p.Numbered part' ys)
    (f : β → γ → δ) :
    p.Numbered (fun c => List.zipWith f (part c) (part' c)) (List.zipWith f xs ys) := by
  refine ⟨?_, ?_⟩
  · rw [List.length_zipWith, h.length_eq, h'.length_eq, Nat.min_self]
  · intro j c hj i hi
    obtain ⟨b, hb, hxs⟩ := h.getElem?_offset_add hj i hi
    obtain ⟨b', hb', hys⟩ := h'.getElem?_offset_add hj i hi
    exact ⟨f b b', by rw [List.getElem?_zipWith, hb, hb'],
      by rw [List.getElem?_zipWith, hxs, hys]⟩

theorem WellFormed.numbered_bounds (hp : p.WellFormed) :
    p.Numbered (·.bounds) p.componentBounds :=
  numbered_flatMap fun c hc => (hp.constraints c hc).length_bounds

theorem WellFormed.numbered_scales (hp : p.WellFormed) :
    p.Numbered (·.scales) p.componentScales :=
  numbered_flatMap fun c hc => (hp.constraints c hc).length_scales

theorem WellFormed.isScale_of_mem (hp : p.WellFormed) {s : α} (hs : s ∈ p.componentScales) :
    Interval.isScale s = true := by
  obtain ⟨c, hc, hs⟩ := List.mem_flatMap.1 hs
  exact (hp.constraints c hc).isScale s hs

theorem WellFormed.scaledBounds_eq (hp : p.WellFormed) :
    p.scaledBounds = (p.componentBounds.zip p.componentScales).mapM fun (i, s) => i.scaled s := by
  have hzip : p.componentBounds.zip p.componentScales =
      p.constraints.flatMap fun c => c.bounds.zip c.scales := by
    apply zip_flatMap
    intro c hc
    rw [(hp.constraints c hc).length_bounds, (hp.constraints c hc).length_scales]
  rw [hzip, mapM_flatMap]
  rfl

theorem WellFormed.forall₂_scaled (hp : p.WellFormed) {bounds : List (Interval α)}
    (h : p.scaledBounds = .ok bounds) :
    List.Forall₂ (fun i b => i.1.scaled i.2 = .ok b) (p.componentBounds.zip p.componentScales)
      bounds := by
  rw [hp.scaledBounds_eq] at h
  exact mapM_eq_ok_iff.1 h

theorem WellFormed.length_scaledBounds (hp : p.WellFormed) {bounds : List (Interval α)}
    (h : p.scaledBounds = .ok bounds) : bounds.length = p.componentCount := by
  rw [← (hp.forall₂_scaled h).length_eq, List.length_zip, hp.numbered_bounds.length_eq,
    hp.numbered_scales.length_eq, Nat.min_self]

theorem WellFormed.exists_scaledBounds [LawfulScalar α] (hp : p.WellFormed) :
    ∃ bounds, p.scaledBounds = .ok bounds ∧
      List.Forall₂ (fun i b => i.1.scaled i.2 = .ok b) (p.componentBounds.zip p.componentScales)
        bounds := by
  have hscaled : ∀ i ∈ p.componentBounds.zip p.componentScales, ∃ b, i.1.scaled i.2 = .ok b := by
    intro i hi
    obtain ⟨b, hb, -⟩ := i.1.scaled_eq_ok (hp.isScale_of_mem (List.of_mem_zip hi).2)
    exact ⟨b, hb⟩
  obtain ⟨bounds, hbounds⟩ := exists_mapM_eq_ok hscaled
  rw [← hp.scaledBounds_eq] at hbounds
  exact ⟨bounds, hbounds, hp.forall₂_scaled hbounds⟩

theorem ends_scaledBounds {intervals bounds : List (Interval α)} {scales : List α}
    (h : List.Forall₂ (fun i b => i.1.scaled i.2 = .ok b) (intervals.zip scales) bounds) :
    ends bounds = (List.zipWith (fun i s => i.lower * s) intervals scales,
      List.zipWith (fun i s => i.upper * s) intervals scales) := by
  induction intervals generalizing scales bounds with
  | nil =>
      rw [List.zip_nil_left, List.forall₂_nil_left_iff] at h
      rw [h]
      rfl
  | cons i intervals ih =>
      cases scales with
      | nil =>
          rw [List.zip_nil_right, List.forall₂_nil_left_iff] at h
          rw [h]
          rfl
      | cons s scales =>
          rw [List.zip_cons_cons, List.forall₂_cons_left_iff] at h
          obtain ⟨b, rest, hb, hrest, rfl⟩ := h
          obtain ⟨hlower, hupper⟩ := Interval.ends_of_scaled hb
          have hends := Prod.mk.inj (ih hrest)
          rw [List.zipWith_cons_cons, List.zipWith_cons_cons, ← hends.1, ← hends.2, ← hlower,
            ← hupper]
          rfl

end Problem

namespace Constraint

variable {α : Type} [Scalar α]

def components (constraints : List (Constraint α)) : List (Function α × Nat) :=
  constraints.flatMap fun c => (List.range c.size).map fun i => (c.function, i)

theorem length_components (constraints : List (Constraint α)) :
    (components constraints).length = Problem.totalSize constraints :=
  Problem.length_flatMap_of_length fun c _ => by simp

section Sum

variable {m : Type → Type} [Monad m] [LawfulMonad m] [MonadExcept (Error α) m]
  {ask : (Function α × Nat) × Nat → m (Matrix α)} {weightOf : Nat → Except (Error α) (Tensor α)}

theorem foldlM_addOutput (f : Function α) (outputs : List Nat) (total : Matrix α) (k : Nat) :
    outputs.foldlM (addOutput ask weightOf f) (total, k) =
      (·, k + outputs.length) <$>
        ((outputs.map fun i => (f, i)).zipIdx k).foldlM (addHessian ask weightOf) total := by
  induction outputs generalizing total k with
  | nil => simp
  | cons i outputs ih =>
      rw [List.foldlM_cons, List.map_cons, List.zipIdx_cons, List.foldlM_cons, addOutput,
        List.length_cons, map_bind]
      simp [ih, Nat.add_assoc, Nat.add_comm 1]

/-- After some constraints the number is that of the first component after theirs, whatever was
asked for on the way. -/
theorem foldlM_addConstraint (constraints : List (Constraint α)) (total : Matrix α) (k : Nat) :
    constraints.foldlM (addConstraint ask weightOf) (total, k) =
      (·, k + Problem.totalSize constraints) <$>
        ((components constraints).zipIdx k).foldlM (addHessian ask weightOf) total := by
  induction constraints generalizing total k with
  | nil => simp [components, Problem.totalSize]
  | cons c constraints ih =>
      have hcomponents : components (c :: constraints) =
          ((List.range c.size).map fun i => (c.function, i)) ++ components constraints := by
        rw [components, List.flatMap_cons]
        rfl
      have hsize : Problem.totalSize (c :: constraints) = c.size + Problem.totalSize constraints :=
        rfl
      rw [List.foldlM_cons, addConstraint, foldlM_addOutput, hcomponents, List.zipIdx_append,
        List.foldlM_append, hsize, map_bind]
      simp [ih, Nat.add_assoc]

theorem stackedHessian_eq_foldlM (constraints : List (Constraint α)) (x : Datum α) :
    stackedHessian ask weightOf constraints x = (do
      let n ← MonadExcept.ofExcept (do (← Tensor.ofDatum x).length)
      (components constraints).zipIdx.foldlM (addHessian ask weightOf) (Matrix.zero n n)) := by
  unfold stackedHessian
  simp [foldlM_addConstraint]

end Sum

end Constraint

end NonlinearProgram
