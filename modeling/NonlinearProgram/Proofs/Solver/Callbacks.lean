import NonlinearProgram.Proofs.Solver.Failure
import NonlinearProgram.Proofs.Solver.Freezing
import NonlinearProgram.Proofs.Solver.Ranges

/-!
# What callbacks can fail with

The tiers are checked when a backend is bound, and the problem is frozen by it, so what a library
is handed asks every function only for what its tier provides. Whatever a library asks for at
points of the right length, a callback fails only through a hook of one of the functions.
-/

namespace NonlinearProgram

variable {α : Type} [Scalar α]

/-- The callbacks of a block are there as far as a tier goes, and they fail only with errors of a
kind at vectors of `n` entries and with `m` weights. -/
structure ConstraintBlock.Sound (tier : Tier) (n m : Nat) (P : List α → Error α → Prop)
    (b : ConstraintBlock α) : Prop where
  value : ∀ xs, xs.length = n → FailsOnly (P xs) (b.value (.vector xs))
  jacobian : .differentiable ≤ tier → ∃ g, b.jacobian = some g ∧
    ∀ xs, xs.length = n → FailsOnly (P xs) (g (.vector xs))
  hessian : .twiceDifferentiable ≤ tier → ∃ h, b.hessian = some h ∧
    ∀ xs ws, xs.length = n → ws.length = m → FailsOnly (P xs) (h (.vector xs) (.vector ws))

structure MinimizerModel.Sound (tier : Tier) (n m : Nat) (P : List α → Error α → Prop)
    (model : MinimizerModel α) : Prop where
  value : ∀ xs, xs.length = n → FailsOnly (P xs) (model.objective.evaluate (.vector xs))
  gradient : .differentiable ≤ tier → ∃ g, model.gradient = some g ∧
    ∀ xs, xs.length = n → FailsOnly (P xs) (g.evaluate (.vector xs))
  hessian : .twiceDifferentiable ≤ tier → ∃ h, model.hessian = some h ∧
    ∀ xs, xs.length = n → FailsOnly (P xs) (h (.vector xs))
  blocks : ∀ b ∈ model.blocks, b.Sound tier n m P

structure InteriorModel.Sound (tier : Tier) (n m : Nat) (P : List α → Error α → Prop)
    (model : InteriorModel α) : Prop where
  value : ∀ xs, xs.length = n → FailsOnly (P xs) (model.objective.evaluate (.vector xs))
  gradient : ∀ xs, xs.length = n → FailsOnly (P xs) (model.gradient.evaluate (.vector xs))
  constraints : ∀ xs, xs.length = n → FailsOnly (P xs) (model.constraints (.vector xs))
  jacobian : ∀ xs, xs.length = n → FailsOnly (P xs) (model.jacobian (.vector xs))
  lagrangian : .twiceDifferentiable ≤ tier → ∃ h, model.lagrangian = some h ∧
    ∀ xs ws factor, xs.length = n → ws.length = m →
      FailsOnly (P xs) (h (.vector xs) (.vector ws) factor)

/-- The calls that a minimiser of a tier may make at a point, to blocks that it was handed and with
`m` weights. -/
inductive MinimizerModel.Takes (tier : Tier) (m : Nat) (model : MinimizerModel α) (xs : List α) :
    Request α → Prop
  | value : Takes tier m model xs (.value (.vector xs))
  | gradient (h : .differentiable ≤ tier) : Takes tier m model xs (.gradient (.vector xs))
  | hessian (h : .twiceDifferentiable ≤ tier) : Takes tier m model xs (.hessian (.vector xs))
  | blockValue {k : Datum α} {b : ConstraintBlock α} (hb : model.blockAt k = .ok b) :
      Takes tier m model xs (.blockValue k (.vector xs))
  | blockJacobian {k : Datum α} {b : ConstraintBlock α} (hb : model.blockAt k = .ok b)
      (h : .differentiable ≤ tier) : Takes tier m model xs (.blockJacobian k (.vector xs))
  | blockHessian {k : Datum α} {b : ConstraintBlock α} {ws : List α}
      (hb : model.blockAt k = .ok b) (h : .twiceDifferentiable ≤ tier) (hws : ws.length = m) :
      Takes tier m model xs (.blockHessian k (.vector xs) (.vector ws))

/-- The calls that an interior-point library of a tier may make at a point and with `m`
multipliers. -/
inductive InteriorModel.Takes (tier : Tier) (m : Nat) (xs : List α) : Request α → Prop
  | value : Takes tier m xs (.value (.vector xs))
  | gradient : Takes tier m xs (.gradient (.vector xs))
  | constraints : Takes tier m xs (.constraints (.vector xs))
  | jacobian : Takes tier m xs (.jacobian (.vector xs))
  | jacobianPositions : Takes tier m xs .jacobianPositions
  | lagrangian {ws : List α} {factor : α} (h : .twiceDifferentiable ≤ tier)
      (hws : ws.length = m) :
      Takes tier m xs (.lagrangian (.vector xs) (.vector ws) factor)
  | hessianPositions (h : .twiceDifferentiable ≤ tier) : Takes tier m xs .hessianPositions
  | iteration (k : Int) : Takes tier m xs (.iteration (.whole k))

namespace Datum

omit [Scalar α] in
theorem mem_of_itemAt {β : Type} {items : List β} {k : Datum α} {item : β}
    (h : itemAt items k = .ok item) : item ∈ items := by
  have hfrom : ∀ k : Int, itemFrom (α := α) items k = .ok item → item ∈ items := by
    intro k h
    unfold itemFrom at h
    generalize (if k < 0 then k + items.length else k) = j at h
    by_cases hj : 0 ≤ j
    · simp only [if_pos hj] at h
      cases hitem : items[j.toNat]? with
      | none => simp [hitem] at h
      | some i =>
          simp only [hitem, Except.ok.injEq] at h
          exact h ▸ List.mem_of_getElem? hitem
    · simp [hj] at h
  cases k with
  | whole k => exact hfrom k h
  | flag b => exact hfrom _ h
  | _ => cases h

end Datum

section Answers

variable {tier : Tier} {n m : Nat} {P : List α → Error α → Prop} {xs : List α}
  {request : Request α}

omit [Scalar α] in
theorem MinimizerModel.Sound.answer {model : MinimizerModel α} (h : model.Sound tier n m P)
    (hxs : xs.length = n) (hrequest : model.Takes tier m xs request) :
    FailsOnly (P xs) (model.serve request).2 := by
  cases hrequest with
  | value => exact (h.value xs hxs).map _
  | gradient ht =>
      obtain ⟨g, hg, hfails⟩ := h.gradient ht
      simp only [MinimizerModel.serve, hg]
      exact (hfails xs hxs).map _
  | hessian ht =>
      obtain ⟨g, hg, hfails⟩ := h.hessian ht
      simp only [MinimizerModel.serve, MinimizerModel.uncounted, hg]
      exact (hfails xs hxs).bind fun _ _ => .pure _
  | blockValue hb =>
      have hblock := h.blocks _ (Datum.mem_of_itemAt hb)
      simp only [MinimizerModel.serve, MinimizerModel.uncounted, hb]
      exact (hblock.value xs hxs).bind fun _ _ => .pure _
  | blockJacobian hb ht =>
      obtain ⟨g, hg, hfails⟩ := (h.blocks _ (Datum.mem_of_itemAt hb)).jacobian ht
      simp only [MinimizerModel.serve, MinimizerModel.uncounted, hb]
      change FailsOnly _ (required _ _ >>= _)
      rw [hg]
      exact (hfails xs hxs).bind fun _ _ => .pure _
  | @blockHessian k b ws hb ht hws =>
      obtain ⟨g, hg, hfails⟩ := (h.blocks _ (Datum.mem_of_itemAt hb)).hessian ht
      simp only [MinimizerModel.serve, MinimizerModel.uncounted, hb]
      change FailsOnly _ (required _ _ >>= _)
      rw [hg]
      exact (hfails xs ws hxs hws).bind fun _ _ => .pure _

theorem InteriorModel.Sound.answer {model : InteriorModel α} (h : model.Sound tier n m P)
    (hxs : xs.length = n) (hrequest : InteriorModel.Takes tier m xs request) :
    FailsOnly (P xs) (model.serve request).2 := by
  cases hrequest with
  | value => exact (h.value xs hxs).map _
  | gradient => exact (h.gradient xs hxs).map _
  | constraints => exact (h.constraints xs hxs).bind fun _ _ => .pure _
  | jacobian => exact (h.jacobian xs hxs).bind fun _ _ => .pure _
  | jacobianPositions => exact .ok _
  | @lagrangian ws factor ht hws =>
      obtain ⟨g, hg, hfails⟩ := h.lagrangian ht
      simp only [InteriorModel.serve, InteriorModel.uncounted, hg]
      exact (hfails xs ws factor hxs hws).bind fun _ _ => .pure _
  | hessianPositions ht =>
      obtain ⟨g, hg, -⟩ := h.lagrangian ht
      simp only [InteriorModel.serve, InteriorModel.uncounted, hg, Option.isSome_some, if_true]
      exact .ok _
  | iteration k => exact .ok _

end Answers

namespace Problem

variable {p : Problem α}

/-- A block that comes with a Jacobian where the tier needs one, and without Hessians. -/
theorem sidedBlock_sound {tier : Tier} {sense : Sense α}
    {value : Datum α → Except (Error α) (List α)}
    {jacobian : Datum α → Except (Error α) (Matrix α)} {withJacobian : Bool}
    (htier : ¬.twiceDifferentiable ≤ tier) (hwith : .differentiable ≤ tier → withJacobian = true)
    (hvalue : ∀ xs, xs.length = p.inputSize → FailsOnly (p.HookFails xs) (value (.vector xs)))
    (hjacobian : .differentiable ≤ tier → ∀ xs, xs.length = p.inputSize →
      FailsOnly (p.HookFails xs) (jacobian (.vector xs))) :
    ConstraintBlock.Sound tier p.inputSize p.componentCount p.HookFails
      ⟨sense, value, if withJacobian then some jacobian else none, none⟩ where
  value := hvalue
  jacobian ht := ⟨jacobian, if_pos (hwith ht), hjacobian ht⟩
  hessian ht := absurd ht htier

theorem sidedBlocks_sound (hp : p.WellFormed) {tier : Tier} {withJacobian split : Bool}
    (htier : ¬.twiceDifferentiable ≤ tier) (hwith : .differentiable ≤ tier → withJacobian = true)
    (hgradients : .differentiable ≤ tier → p.HasGradients) {blocks : List (ConstraintBlock α)}
    (h : p.sidedBlocks withJacobian split = .ok blocks) :
    ∀ b ∈ blocks, b.Sound tier p.inputSize p.componentCount p.HookFails := by
  have hscales := hp.numbered_scales.length_eq
  -- Both blocks pick from the same stack, and picking never fails.
  have hvalues := fun (xs : List α) (hxs : xs.length = p.inputSize) =>
    failsOnly_values hp hxs hscales
  have hjacobians := fun ht (xs : List α) (hxs : xs.length = p.inputSize) =>
    failsOnly_jacobian hp hxs hscales (hgradients ht)
  obtain ⟨bounds, -, h⟩ := bind_eq_ok_iff.1 h
  rw [pure_eq_ok_iff] at h
  rw [← h]
  intro b hb
  rcases List.mem_append.1 hb with hb | hb
  · rw [Option.mem_toList, Sides.equalityBlock?, Option.ite_none_left_eq_some] at hb
    cases hb.2
    exact sidedBlock_sound htier hwith (fun xs hxs => (hvalues xs hxs).bind fun _ _ => .pure _)
      fun ht xs hxs => (hjacobians ht xs hxs).bind fun _ _ => .pure _
  · rw [Option.mem_toList, Sides.inequalityBlock?, Option.ite_none_left_eq_some] at hb
    cases hb.2
    exact sidedBlock_sound htier hwith (fun xs hxs => (hvalues xs hxs).bind fun _ _ => .pure _)
      fun ht xs hxs => (hjacobians ht xs hxs).bind fun _ _ => .pure _

theorem boundedBlocks_sound (hp : p.WellFormed) {tier : Tier} (hgradients : p.HasGradients)
    (hhessians : p.HasHessians) {blocks : List (ConstraintBlock α)}
    (h : p.boundedBlocks = .ok blocks) :
    ∀ b ∈ blocks, b.Sound tier p.inputSize p.componentCount p.HookFails := by
  have hscales := hp.numbered_scales.length_eq
  unfold boundedBlocks at h
  split at h
  · cases h
    nofun
  · obtain ⟨bounds, -, h⟩ := bind_eq_ok_iff.1 h
    rw [pure_eq_ok_iff] at h
    rw [← h]
    intro b hb
    rw [List.mem_singleton.1 hb]
    exact {
      value := fun xs hxs => failsOnly_values hp hxs hscales
      jacobian := fun _ =>
        ⟨_, rfl, fun xs hxs => failsOnly_jacobian hp hxs hscales hgradients⟩
      hessian := fun _ =>
        ⟨_, rfl, fun xs ws hxs hws => failsOnly_hessian hp hxs hscales hhessians hws⟩ }

end Problem

def Method.tier : Method → Tier
  | cobyla => .valueOnly
  | slsqp | ipopt => .differentiable
  | trustConstr | ipoptExact => .twiceDifferentiable

namespace Problem

/-- All functions of a problem reach a tier. -/
structure Reaches (p : Problem α) (tier : Tier) : Prop where
  objective : tier ≤ p.objective.tier
  constraints : ∀ c ∈ p.constraints, tier ≤ c.function.tier

variable {p : Problem α} {tier : Tier} (h : p.Reaches tier)

include h

theorem Reaches.objective_gradient (ht : .differentiable ≤ tier) :
    p.objective.hooks.gradient?.isSome = true :=
  (Hooks.gradient?_isSome _).2 (Nat.le_trans ht h.objective)

theorem Reaches.objective_hessian (ht : .twiceDifferentiable ≤ tier) :
    p.objective.hooks.hessian?.isSome = true :=
  (Hooks.hessian?_isSome _).2 (Nat.le_trans ht h.objective)

theorem Reaches.hasGradients (ht : .differentiable ≤ tier) : p.HasGradients :=
  fun c hc => (Hooks.gradient?_isSome _).2 (Nat.le_trans ht (h.constraints c hc))

theorem Reaches.hasHessians (ht : .twiceDifferentiable ≤ tier) : p.HasHessians :=
  fun c hc => (Hooks.hessian?_isSome _).2 (Nat.le_trans ht (h.constraints c hc))

end Problem

theorem Backend.Suits.reaches {method : Method} {p : Problem α}
    (h : (method.backend : Backend α).Suits p) : p.Reaches method.tier := by
  cases method with
  | _ => exact ⟨h.1, h.2⟩

namespace Solver

variable {s : Solver α} {model : MinimizerModel α} (hp : s.problem.WellFormed)

include hp

theorem sequentialModel_sound (hreaches : s.problem.Reaches .differentiable)
    (h : s.sequentialModel = .ok model) :
    model.Sound .differentiable s.problem.inputSize s.problem.componentCount
      s.problem.HookFails := by
  obtain ⟨blocks, hblocks, h⟩ := bind_eq_ok_iff.1 h
  rw [pure_eq_ok_iff] at h
  rw [← h]
  exact {
    value := fun xs hxs => Problem.failsOnly_objective hxs
    gradient := fun ht => ⟨_, rfl, fun xs hxs =>
      Problem.failsOnly_objectiveGradient hxs (hreaches.objective_gradient ht)⟩
    hessian := fun ht => absurd ht (by decide)
    blocks := Problem.sidedBlocks_sound hp (by decide) (fun _ => rfl) hreaches.hasGradients
      hblocks }

theorem trustRegionModel_sound (hreaches : s.problem.Reaches .twiceDifferentiable)
    (h : s.trustRegionModel = .ok model) :
    model.Sound .twiceDifferentiable s.problem.inputSize s.problem.componentCount
      s.problem.HookFails := by
  obtain ⟨blocks, hblocks, h⟩ := bind_eq_ok_iff.1 h
  rw [pure_eq_ok_iff] at h
  rw [← h]
  exact {
    value := fun xs hxs => Problem.failsOnly_objective hxs
    gradient := fun ht => ⟨_, rfl, fun xs hxs =>
      Problem.failsOnly_objectiveGradient hxs (hreaches.objective_gradient ht)⟩
    hessian := fun ht => ⟨_, rfl, fun xs hxs =>
      Problem.failsOnly_objectiveHessian hxs (hreaches.objective_hessian ht)⟩
    blocks := Problem.boundedBlocks_sound hp (hreaches.hasGradients (by decide))
      (hreaches.hasHessians (by decide)) hblocks }

theorem linearModel_sound (h : s.linearModel = .ok model) :
    model.Sound .valueOnly s.problem.inputSize s.problem.componentCount s.problem.HookFails := by
  obtain ⟨blocks, hblocks, h⟩ := bind_eq_ok_iff.1 h
  rw [pure_eq_ok_iff] at h
  rw [← h]
  have hnone : ¬Tier.differentiable ≤ .valueOnly := by decide
  exact {
    value := fun xs hxs => Problem.failsOnly_objective hxs
    gradient := fun ht => absurd ht hnone
    hessian := fun ht => absurd ht (by decide)
    blocks := Problem.sidedBlocks_sound hp (by decide) (absurd · hnone) (absurd · hnone) hblocks }

theorem interiorModel_sound {tier : Tier} (hreaches : s.problem.Reaches tier)
    (hgradients : .differentiable ≤ tier) {exact : Bool}
    (hexact : .twiceDifferentiable ≤ tier → exact = true) :
    (s.interiorModel exact).Sound tier s.problem.inputSize s.problem.componentCount
      s.problem.HookFails where
  value xs hxs := Problem.failsOnly_objective hxs
  gradient xs hxs :=
    Problem.failsOnly_objectiveGradient hxs (hreaches.objective_gradient hgradients)
  constraints xs hxs := Problem.failsOnly_values hp hxs List.length_replicate
  jacobian xs hxs := (Problem.failsOnly_jacobian hp hxs List.length_replicate
    (hreaches.hasGradients hgradients)).bind fun _ _ => .pure _
  lagrangian ht := by
    refine ⟨_, if_pos (hexact ht), fun xs ws factor hxs hws => ?_⟩
    exact Problem.failsOnly_lagrangianEntries hp hxs (hreaches.objective_hessian ht)
      (hreaches.hasHessians ht) hws factor

end Solver

namespace Handover

/-- The calls that a library of a tier may make of what it was handed. -/
def Takes (tier : Tier) (m : Nat) : Handover α → List α → Request α → Prop
  | minimizer model => model.Takes tier m
  | interior _ => InteriorModel.Takes tier m

def Sound (tier : Tier) (n m : Nat) (P : List α → Error α → Prop) : Handover α → Prop
  | minimizer model => model.Sound tier n m P
  | interior model => model.Sound tier n m P

theorem Sound.answer {handover : Handover α} {tier : Tier} {n m : Nat}
    {P : List α → Error α → Prop} {xs : List α} {request : Request α}
    (h : handover.Sound tier n m P) (hxs : xs.length = n)
    (hrequest : handover.Takes tier m xs request) :
    FailsOnly (P xs) (handover.answer request) := by
  cases handover with
  | minimizer model => exact MinimizerModel.Sound.answer h hxs hrequest
  | interior model => exact InteriorModel.Sound.answer h hxs hrequest

end Handover

namespace Solver

variable {s : Solver α} {method : Method} {around : Surroundings α} {contact : Contact α}
  {handover : Handover α}

/-- What a backend hands over for a problem that reaches its tier fails only through hooks. -/
theorem handover_sound (hp : s.problem.WellFormed) (hreaches : s.problem.Reaches method.tier)
    (h : s.handover method = .ok handover) :
    handover.Sound method.tier s.problem.inputSize s.problem.componentCount
      s.problem.HookFails := by
  cases method with
  | slsqp =>
      obtain ⟨model, hmodel, h⟩ := bind_eq_ok_iff.1 h
      cases h
      exact sequentialModel_sound hp hreaches hmodel
  | trustConstr =>
      obtain ⟨model, hmodel, h⟩ := bind_eq_ok_iff.1 h
      cases h
      exact trustRegionModel_sound hp hreaches hmodel
  | cobyla =>
      obtain ⟨model, hmodel, h⟩ := bind_eq_ok_iff.1 h
      cases h
      exact linearModel_sound hp hmodel
  | ipopt =>
      cases h
      exact interiorModel_sound hp hreaches (by decide) (absurd · (by decide))
  | ipoptExact =>
      cases h
      exact interiorModel_sound hp hreaches (by decide) fun _ => rfl

/-- Whatever is done with a problem after a built-in backend has been bound to it, and whatever the
library asks at points of the input size, a callback fails only as a hook of a function does or for
what a hook returned. No function refuses what it is asked, unless a hook of it does. -/
theorem failsOnly_answer_of_takes {p : Problem α} (hp : p.Reachable) {explicit : Options α}
    {priority : Option (Datum α)} (hs : (bind method.backend p explicit priority).outcome = .ok s)
    (uses : List (Use α)) (result : Option (Result α)) (around : Surroundings α)
    (hcontact :
      ((Solver.mk s.backend (Use.after s.problem uses) s.parameters result).run around).1 =
        some contact) (xs : List α) (hxs : xs.length = p.inputSize) :
    (∀ request, contact.handover.Takes method.tier p.componentCount xs request →
      FailsOnly (fun e => p.HookFails xs e ∧ (e.RefusesRequest → p.HookRaises xs e))
        (contact.handover.answer request)) ∧
    ∀ exchange ∈ contact.transcript,
      contact.handover.Takes method.tier p.componentCount xs exchange.1 →
        FailsOnly (fun e => p.HookFails xs e ∧ (e.RefusesRequest → p.HookRaises xs e))
          exchange.2 := by
  obtain ⟨hbackend, hproblem⟩ := bind_eq_ok hs
  -- The tiers were checked on the problem before it was frozen, and freezing keeps its functions.
  have hsuits : (method.backend : Backend α).Suits p := by
    rw [outcome_bind] at hs
    obtain ⟨⟨⟩, hcheck, -⟩ := bind_eq_ok_iff.1 hs
    exact Backend.checkProblem_eq_ok_iff.1 hcheck
  have hafter : Use.after s.problem uses = p.freeze := by
    rw [hproblem]
    exact Use.after_of_frozen rfl uses
  rw [hafter, hbackend] at hcontact
  have hrun : ((Solver.mk method.backend p.freeze s.parameters result).runMethod around method).1 =
      some contact := by
    rw [← hcontact, run]
    simp only [backend_identity]
  have hwf : p.freeze.WellFormed := (Problem.Reachable.step hp .freeze rfl).wellFormed
  have hreaches : p.freeze.Reaches method.tier :=
    ⟨hsuits.reaches.objective, hsuits.reaches.constraints⟩
  obtain ⟨handover, hhandover, rfl⟩ := handover_of_contact hrun
  have hsound := handover_sound hwf hreaches hhandover
  have hfails : ∀ request, handover.Takes method.tier p.componentCount xs request →
      FailsOnly (fun e => p.HookFails xs e ∧ (e.RefusesRequest → p.HookRaises xs e))
        (handover.answer request) := by
    intro request hrequest e he
    have h : p.HookFails xs e := hsound.answer hxs hrequest e he
    exact ⟨h, h.hookRaises⟩
  refine ⟨hfails, fun exchange hexchange htaken => ?_⟩
  rw [Surroundings.answer_of_mem_transcript hexchange]
  exact hfails _ htaken

def curious : Surroundings Exact where
  imports := .only ["cyipopt"]
  minimizer := .fail .problemFrozen
  interior := .ask (.lagrangian (.vector [.finite 2]) (.vector [.finite 3]) (.finite 1)) fun _ =>
    .fail .problemFrozen
  procedure := fun _ => throw .problemFrozen

def exactSolver : Solver Exact where
  backend := Method.ipoptExact.backend
  problem := framed.freeze
  parameters := mergeOptions Method.ipoptExact.backend [] []

theorem failsOnly_answer_of_takes_framed :
    framed.Reachable ∧
    (bind Method.ipoptExact.backend framed [] none).outcome = .ok exactSolver ∧
    ∃ contact, ((Solver.mk exactSolver.backend
        (Use.after framed.freeze [.assemble (.startingPoint (.vector [.finite 3]))])
        exactSolver.parameters none).run curious).1 = some contact ∧
      contact.transcript.length = 1 ∧
      ∀ exchange ∈ contact.transcript,
        FailsOnly (fun e => framed.HookFails [.finite 2] e ∧
          (e.RefusesRequest → framed.HookRaises [.finite 2] e)) exchange.2 := by
  have hbind : (bind Method.ipoptExact.backend framed [] none).outcome = .ok exactSolver := by
    with_unfolding_all rfl
  refine ⟨framed_reachable, hbind, _, rfl, rfl, fun exchange hexchange => ?_⟩
  obtain ⟨-, htranscript⟩ := failsOnly_answer_of_takes framed_reachable hbind
    [.assemble (.startingPoint (.vector [.finite 3]))] none curious rfl [.finite 2] rfl
  refine htranscript exchange hexchange ?_
  rw [List.mem_singleton.1 hexchange]
  exact .lagrangian (Nat.le_refl _) rfl

end Solver

end NonlinearProgram
