import NonlinearProgram.Proofs.Problem.Numbering
import NonlinearProgram.Proofs.Solver.Freezing

/-!
# What every problem in use keeps

Whatever is done with a new problem, also where it is refused, its parts agree in size and its
bounds are intervals of numbers. So what backends read from it is always there: no scale of a
problem refuses a bound of it, and a bound times a scale is an interval of numbers again, however
large or small its ends become.
-/

namespace NonlinearProgram

open Scalar

variable {α : Type} [Scalar α]

namespace Tier

theorem lower_le_left (a b : Tier) : a.lower b ≤ a := by
  unfold lower
  split
  · next h => exact Nat.le_of_lt h
  · exact Nat.le_refl _

theorem lower_le_right (a b : Tier) : a.lower b ≤ b := by
  unfold lower
  split
  · exact Nat.le_refl _
  · next h => exact Nat.le_of_not_lt h

theorem lower_eq_or (a b : Tier) : a.lower b = a ∨ a.lower b = b := by
  unfold lower
  split
  · exact .inr rfl
  · exact .inl rfl

end Tier

namespace Problem

variable {p : Problem α}

theorem foldl_lower_le (cs : List (Constraint α)) (tier : Tier) :
    cs.foldl (fun tier c => tier.lower c.function.tier) tier ≤ tier ∧
      ∀ c ∈ cs, cs.foldl (fun tier c => tier.lower c.function.tier) tier ≤ c.function.tier := by
  induction cs generalizing tier with
  | nil => exact ⟨Nat.le_refl _, nofun⟩
  | cons c cs ih =>
      obtain ⟨hstart, hrest⟩ := ih (tier.lower c.function.tier)
      refine ⟨Nat.le_trans hstart (Tier.lower_le_left _ _), fun d hd => ?_⟩
      rcases List.mem_cons.1 hd with rfl | hd
      · exact Nat.le_trans hstart (Tier.lower_le_right _ _)
      · exact hrest d hd

theorem foldl_lower_mem (cs : List (Constraint α)) (tier : Tier) :
    cs.foldl (fun tier c => tier.lower c.function.tier) tier ∈
      tier :: cs.map (·.function.tier) := by
  induction cs generalizing tier with
  | nil => exact List.mem_singleton_self tier
  | cons c cs ih =>
      have h := ih (tier.lower c.function.tier)
      rcases Tier.lower_eq_or tier c.function.tier with hlower | hlower
      · rw [hlower] at h
        rw [List.foldl_cons, hlower]
        rcases List.mem_cons.1 h with h | h
        · rw [h]
          exact List.mem_cons_self
        · exact List.mem_cons_of_mem _ (List.mem_cons_of_mem _ h)
      · rw [hlower] at h
        rw [List.foldl_cons, hlower]
        exact List.mem_cons_of_mem _ h

theorem WellFormed.freeze (hp : p.WellFormed) : p.freeze.WellFormed := { hp with }

theorem WellFormed.left_of_commit {β γ : Type} {m : Edit α β} {f : γ → β × Problem α}
    {x : Except (Error α) γ} (hp : p.WellFormed) (hm : m.run p = Edit.commit p f x)
    (hx : ∀ c, x = .ok c → (f c).2.WellFormed) : (m.left p).WellFormed := by
  unfold Edit.left
  rw [hm]
  cases x with
  | error e => exact hp
  | ok c => exact hx c rfl

theorem WellFormed.next (hp : p.WellFormed) (use : Use α) : (use.next p).WellFormed := by
  cases use with
  | assemble call => exact hp.left_of_commit (call.run_perform p) fun q hq => hp.apply hq
  | bind b explicit priority =>
      refine hp.left_of_commit Edit.run_bind fun s hs => ?_
      rw [(Solver.bind_eq_ok hs).2]
      exact hp.freeze
  | dispatch r name imports explicit priority =>
      refine hp.left_of_commit (Edit.run_create r name imports) fun s hs => ?_
      rw [Registry.problem_create hs]
      exact hp.freeze
  | minimum b parameters result around =>
      rw [Use.next, Solver.problem_run]
      exact hp
  | read f => exact hp.left_of_commit (Edit.run_read f) fun _ _ => hp

theorem WellFormed.after (hp : p.WellFormed) (uses : List (Use α)) :
    (Use.after p uses).WellFormed := by
  induction uses generalizing p with
  | nil => exact hp
  | cons use uses ih => exact ih (hp.next use)

end Problem

def Interval.Proper (i : Interval α) : Prop :=
  isNaN i.lower = false ∧ isNaN i.upper = false ∧ atMost i.lower i.upper = true

theorem Interval.proper [LawfulScalar α] (i : Interval α) : i.Proper :=
  ⟨i.isNaN_lower, i.isNaN_upper, i.ordered⟩

namespace Problem

variable {p : Problem α}

theorem WellFormed.length_initialPoint (hp : p.WellFormed) :
    p.initialPoint.length = p.inputSize := by
  unfold initialPoint
  cases hstart : p.startingPoint with
  | none => rw [Option.getD_none, List.length_map, hp.length_bounds]
  | some x => exact hp.length_start x hstart

/-- The lowest tier is that of the objective or of some constraint function, and none is lower. -/
theorem minimumTier_isLeast (p : Problem α) :
    p.minimumTier ∈ p.objective.tier :: p.constraints.map (·.function.tier) ∧
      ∀ tier ∈ p.objective.tier :: p.constraints.map (·.function.tier), p.minimumTier ≤ tier := by
  obtain ⟨hobjective, hconstraints⟩ := foldl_lower_le p.constraints p.objective.tier
  refine ⟨foldl_lower_mem p.constraints p.objective.tier, fun tier htier => ?_⟩
  rcases List.mem_cons.1 htier with rfl | htier
  · exact hobjective
  · obtain ⟨c, hc, rfl⟩ := List.mem_map.1 htier
    exact hconstraints c hc

/-- What backends read from a problem is there: intervals of numbers for bounds, also times any
scale, and an entry for each variable or component. -/
structure Readable (p : Problem α) : Prop where
  proper : ∀ i ∈ p.argumentBounds ++ p.componentBounds, i.Proper
  scaled : ∀ c ∈ p.constraints, ∀ i ∈ c.bounds, ∀ s ∈ c.scales,
    ∃ b, i.scaled s = .ok b ∧ b.lower = i.lower * s ∧ b.upper = i.upper * s ∧ b.Proper
  scaledBounds : ∃ bounds, p.scaledBounds = .ok bounds ∧ bounds.length = p.componentCount ∧
    ∀ b ∈ bounds, b.Proper
  lowerEnds : (ends p.argumentBounds).1.length = p.inputSize
  upperEnds : (ends p.argumentBounds).2.length = p.inputSize
  scales : p.componentScales.length = p.componentCount
  minimumTier : p.minimumTier ∈ p.objective.tier :: p.constraints.map (·.function.tier) ∧
    ∀ tier ∈ p.objective.tier :: p.constraints.map (·.function.tier), p.minimumTier ≤ tier
  initialPoint : p.initialPoint.length = p.inputSize

theorem WellFormed.readable [LawfulScalar α] (hp : p.WellFormed) : p.Readable where
  proper i _ := i.proper
  scaled c hc i _ s hs := by
    obtain ⟨b, hb, hlower, hupper⟩ := i.scaled_eq_ok ((hp.constraints c hc).isScale s hs)
    exact ⟨b, hb, hlower, hupper, b.proper⟩
  scaledBounds := by
    obtain ⟨bounds, hbounds, -⟩ := hp.exists_scaledBounds
    exact ⟨bounds, hbounds, hp.length_scaledBounds hbounds, fun b _ => b.proper⟩
  lowerEnds := (List.length_map _).trans hp.length_bounds
  upperEnds := (List.length_map _).trans hp.length_bounds
  scales := hp.numbered_scales.length_eq
  minimumTier := p.minimumTier_isLeast
  initialPoint := hp.length_initialPoint

/-- After any uses of a new problem, refused or not, its parts agree in size, every constraint has a
component, and all that backends read is there. -/
theorem wellFormed_after_uses [LawfulScalar α] {objective : Function α} {names : Option (Datum α)}
    (hp : create objective names = .ok p) (uses : List (Use α)) :
    (Use.after p uses).WellFormed ∧ (∀ c ∈ (Use.after p uses).constraints, 0 < c.size) ∧
      (Use.after p uses).Readable := by
  have hafter := (wellFormed_create hp).after uses
  exact ⟨hafter, fun c _ => c.function.outputSize_pos, hafter.readable⟩

/-- A starting point that does not fit, a constraint of two components, a dispatch, and a change
that comes too late. -/
def assembling : List (Use Exact) := [
  .assemble (.startingPoint (.vector [])),
  .assemble (.constraint copies (.several (boxedBounds.map .interval))
    (some (.vector [.finite 2, .finite 3]))),
  .dispatch {} (.text "scipy-slsqp") (.only ["scipy"]) [] none,
  .assemble (.allArgumentBounds (.interval .unbounded))]

/-- Of these the constraint and the dispatch leave something, and both components can be scaled. -/
theorem wellFormed_after_uses_boxed :
    create coordinate (some (.texts ["u"])) = .ok { boxed with constraints := [] } ∧
    Use.after { boxed with constraints := [] } assembling = boxed.freeze ∧
    ∃ bounds, boxed.freeze.scaledBounds = .ok bounds ∧ bounds.length = 2 := by
  have hcreate : create coordinate (some (.texts ["u"])) =
      .ok { boxed with constraints := [] } := rfl
  have hafter : Use.after { boxed with constraints := [] } assembling = boxed.freeze := by
    with_unfolding_all rfl
  obtain ⟨-, -, hreadable⟩ := wellFormed_after_uses hcreate assembling
  rw [hafter] at hreadable
  obtain ⟨bounds, hbounds, hlength, -⟩ := hreadable.scaledBounds
  exact ⟨hcreate, hafter, bounds, hbounds, hlength⟩

end Problem

end NonlinearProgram
