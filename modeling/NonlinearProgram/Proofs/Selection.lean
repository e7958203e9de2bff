import NonlinearProgram.Proofs.Problem.Invariant
import NonlinearProgram.Proofs.Solver.Callbacks
import NonlinearProgram.Proofs.Solver.Classification
import NonlinearProgram.Selection

/-!
# Selected backends can be dispatched

A backend is selected by the lowest tier among the functions of a problem, and dispatched by the
tier of each of them. The selected method never asks for more than the lowest tier, so no dispatch
of it is refused for a function, however the tiers are mixed. Where all functions have second
derivatives and accuracy is wanted, the method is one that hands them over.
-/

namespace NonlinearProgram

variable {α : Type} [Scalar α]

namespace Tier

theorem le_twice (t : Tier) : t ≤ twiceDifferentiable := by
  cases t <;> decide

theorem eq_twice_of_le {t : Tier} (h : twiceDifferentiable ≤ t) : t = twiceDifferentiable := by
  cases t with
  | twiceDifferentiable => rfl
  | valueOnly | differentiable => exact absurd h (by decide)

end Tier

namespace Problem

variable {p : Problem α} {tier : Tier}

theorem reaches_iff : p.Reaches tier ↔ tier ≤ p.minimumTier := by
  obtain ⟨hmem, hleast⟩ := p.minimumTier_isLeast
  constructor
  · intro h
    rcases List.mem_cons.1 hmem with hobjective | hconstraint
    · rw [hobjective]
      exact h.objective
    · obtain ⟨c, hc, hconstraint⟩ := List.mem_map.1 hconstraint
      rw [← hconstraint]
      exact h.constraints c hc
  · intro h
    refine ⟨Nat.le_trans h (hleast _ List.mem_cons_self), fun c hc => ?_⟩
    exact Nat.le_trans h (hleast _ (List.mem_cons_of_mem _ (List.mem_map_of_mem hc)))

end Problem

def Method.label : Method → String
  | slsqp => "scipy-slsqp"
  | trustConstr => "scipy-trust-constr"
  | cobyla => "scipy-cobyla"
  | ipopt => "ipopt"
  | ipoptExact => "ipopt-td"

theorem Method.label_backend (method : Method) :
    (method.backend : Backend α).label = method.label := by
  cases method <;> rfl

theorem Method.eq_of_label {a b : Method} (h : a.label = b.label) : a = b := by
  revert h
  cases a <;> cases b <;> decide

theorem Backend.suits_of_reaches {method : Method} {p : Problem α} (h : p.Reaches method.tier) :
    (method.backend : Backend α).Suits p := by
  cases method with
  | _ => exact ⟨h.objective, h.constraints⟩

/-- What was handed over gives a library the second derivatives of a problem: those of the objective
and of the weighted constraints by themselves, or the entries of the Hessian of the Lagrangian. -/
def Handover.GivesHessians (p : Problem α) : Handover α → Prop
  | .minimizer model =>
    (∃ hessian, model.hessian = some hessian ∧ ∀ x, hessian x = p.objective.hessian x (.whole 0)) ∧
    ∀ b ∈ model.blocks, ∃ hessian, b.hessian = some hessian ∧
      ∀ x weights, hessian x weights = p.stacked.hessian x weights
  | .interior model => model.lagrangian = some p.lagrangianEntries

namespace Solver

variable {s : Solver α} {method : Method} {handover : Handover α}

theorem trustRegionModel_hessians {model : MinimizerModel α} (h : s.trustRegionModel = .ok model) :
    (Handover.minimizer model).GivesHessians s.problem := by
  obtain ⟨blocks, hblocks, h⟩ := bind_eq_ok_iff.1 h
  rw [pure_eq_ok_iff] at h
  rw [← h]
  refine ⟨⟨_, rfl, fun x => rfl⟩, fun b hb => ?_⟩
  unfold Problem.boundedBlocks at hblocks
  by_cases hempty : s.problem.constraints.isEmpty = true
  · rw [if_pos hempty, pure_eq_ok_iff] at hblocks
    subst hblocks
    cases hb
  · rw [if_neg hempty] at hblocks
    obtain ⟨bounds, -, hblocks⟩ := bind_eq_ok_iff.1 hblocks
    rw [pure_eq_ok_iff] at hblocks
    subst hblocks
    rw [List.mem_singleton.1 hb]
    exact ⟨_, rfl, fun x weights => rfl⟩

/-- The methods that hand over second derivatives are those that ask all functions for them. -/
theorem givesHessians_iff (h : s.handover method = .ok handover) :
    handover.GivesHessians s.problem ↔ method.tier = .twiceDifferentiable := by
  cases method with
  | slsqp | cobyla =>
      obtain ⟨model, hmodel, h⟩ := bind_eq_ok_iff.1 h
      obtain ⟨blocks, -, hmodel⟩ := bind_eq_ok_iff.1 hmodel
      cases h
      cases hmodel
      constructor
      · rintro ⟨⟨hessian, hnone, -⟩, -⟩
        cases hnone
      · intro htier
        cases htier
  | trustConstr =>
      obtain ⟨model, hmodel, h⟩ := bind_eq_ok_iff.1 h
      cases h
      exact iff_of_true (trustRegionModel_hessians hmodel) rfl
  | ipopt =>
      cases h
      exact iff_of_false nofun nofun
  | ipoptExact =>
      cases h
      exact iff_of_true rfl rfl

end Solver

namespace Selection

def methodFor (tier : Tier) (accurate large : Bool) (available : List String) : Method :=
  match tier with
  | .valueOnly => .cobyla
  | tier =>
    if tier = .twiceDifferentiable && accurate then
      if available.contains "ipopt-td" then .ipoptExact else .trustConstr
    else if large && available.contains "ipopt" then .ipopt
    else .slsqp

variable {tier : Tier} {accurate large : Bool} {available : List String}

theorem tier_methodFor_le : (methodFor tier accurate large available).tier ≤ tier := by
  cases tier with
  | valueOnly => exact Nat.le_refl _
  | differentiable =>
      simp only [methodFor]
      split
      · next h => simp at h
      · split <;> exact Nat.le_refl _
  | twiceDifferentiable => exact Tier.le_twice _

theorem tier_methodFor_accurate :
    (methodFor .twiceDifferentiable true large available).tier = .twiceDifferentiable := by
  change (if available.contains "ipopt-td" then Method.ipoptExact else .trustConstr).tier = _
  split <;> rfl

variable {p : Problem α} {priority : Datum α} {name : String}

theorem choice_eq_label (p : Problem α) (priority : Datum α) (available : List String) :
    choice p priority (.texts available) =
      (methodFor p.minimumTier (priority.isText "accuracy") (decide (largeSize < p.inputSize))
        available).label := by
  unfold choice methodFor
  cases p.minimumTier with
  | valueOnly => rfl
  | differentiable | twiceDifferentiable =>
      simp only [offers_texts]
      split
      · split <;> rfl
      · split <;> rfl

/-- Selecting comes to the choice where it is available, and is refused with it where it is not. -/
theorem outcome_select (p : Problem α) (priority : Datum α) (available : List String) :
    (select p priority (.texts available)).outcome =
      if choice p priority (.texts available) ∈ available then
        .ok (choice p priority (.texts available))
      else .error (.selectionUnavailable (choice p priority (.texts available)) available) := by
  have hnames : (available.map Datum.text).mapM Datum.asText =
      (.ok available : Except (Error α) (List String)) := by
    rw [mapM_eq_ok_iff, List.forall₂_map_left_iff, List.forall₂_same]
    intro name _
    rfl
  have hitems : (Datum.texts available : Datum α).items =
      (.ok (available.map .text) : Except (Error α) _) := rfl
  unfold select
  simp only [Attempt.outcome_bind, Attempt.outcome_liftM, hitems, ok_bind, offers_texts]
  by_cases hmem : choice p priority (.texts available) ∈ available
  · rw [if_pos hmem, List.contains_iff_mem.2 hmem]
    rfl
  · have hcontains : available.contains (choice p priority (.texts available)) = false := by
      simpa using hmem
    rw [if_neg hmem, hcontains]
    simp only [Bool.not_false, if_true, Attempt.outcome_bind, Attempt.outcome_liftM, hnames]
    rfl

/-- What is selected is available, and a dispatch of it succeeds with the built-in backend of that
name: all functions reach the tiers that it declares. With second derivatives throughout and
accuracy for the priority, the backend hands the second derivatives to its library. -/
theorem create_of_select [LawfulScalar α] {p : Problem α} (hp : p.Reachable) {r : Registry α}
    (hr : r.Reachable)
    (hbuiltIn : ∀ method : Method,
      r.registered? (method.backend : Backend α).label = some method.backend)
    {imports : Imports α} {available : List String}
    (havailable : ∀ name ∈ available, ∃ method : Method,
      name = (method.backend : Backend α).label ∧ imports method.library = .ok ())
    (priority : Priority) {name : String}
    (h : (select p (.text priority.name) (.texts available)).outcome = .ok name) :
    name ∈ available ∧ ∃ method : Method, name = (method.backend : Backend α).label ∧
      (method.backend : Backend α).Suits p ∧ ∃ s,
        (r.create (.text name) imports p [] (some (.text priority.name))).value.2 = .ok s ∧
        s.backend = method.backend ∧ s.problem = p.freeze ∧
        (p.Reaches .twiceDifferentiable → priority = .accuracy →
          ∃ handover, s.handover method = .ok handover ∧ handover.GivesHessians s.problem) := by
  rw [outcome_select] at h
  split at h
  · next hmem =>
      rw [Except.ok.injEq] at h
      subst h
      obtain ⟨method, hlabel, himport⟩ := havailable _ hmem
      have hmethod : method = methodFor p.minimumTier ((Datum.text priority.name : Datum α).isText
          "accuracy") (decide (largeSize < p.inputSize)) available := by
        refine Method.eq_of_label ?_
        rw [← Method.label_backend (α := α), ← hlabel, choice_eq_label]
      have hreaches : p.Reaches method.tier := by
        rw [Problem.reaches_iff, hmethod]
        exact tier_methodFor_le
      have hsuits := Backend.suits_of_reaches hreaches
      have hpriority : Priority.Known (.text priority.name : Datum α) :=
        ⟨priority.name, by cases priority <;> decide, rfl⟩
      have hgrants : r.Grants (method.backend : Backend α).label imports p
          (some (.text priority.name)) method.backend := by
        refine ⟨hbuiltIn method, hsuits, Method.installed_backend_iff.2 himport, ?_⟩
        rintro d ⟨⟩
        exact hpriority
      obtain ⟨s, hs, hbackend, hproblem⟩ := hgrants.create hr.named []
      refine ⟨hmem, method, hlabel, hsuits, s, hlabel ▸ hs, hbackend, hproblem, ?_⟩
      intro htwice haccuracy
      have hfrozen : s.problem.WellFormed := hproblem ▸ hp.wellFormed.freeze
      obtain ⟨handover, hhandover⟩ := Solver.exists_handover hfrozen method
      refine ⟨handover, hhandover, (Solver.givesHessians_iff hhandover).2 ?_⟩
      rw [hmethod, Tier.eq_twice_of_le (Problem.reaches_iff.1 htwice), haccuracy]
      exact tier_methodFor_accurate
  · cases h

/-- Where accuracy is wanted of `framed`, the interior-point method with exact Hessians is selected,
and a new registry binds it. -/
theorem create_of_select_framed :
    framed.Reachable ∧ framed.Reaches .twiceDifferentiable ∧
    (select framed (.text "accuracy") (.texts ["scipy-slsqp", "ipopt-td"])).outcome =
      .ok "ipopt-td" ∧
    ∃ s, (({} : Registry Exact).create (.text "ipopt-td") (.only ["scipy", "cyipopt"]) framed []
        (some (.text "accuracy"))).value.2 = .ok s ∧ s.backend = Method.ipoptExact.backend ∧
      ∃ handover, s.handover .ipoptExact = .ok handover ∧ handover.GivesHessians s.problem := by
  have htwice : framed.Reaches .twiceDifferentiable := ⟨by decide, by decide⟩
  have hselect : (select framed (.text "accuracy") (.texts ["scipy-slsqp", "ipopt-td"])).outcome =
      .ok "ipopt-td" := by
    with_unfolding_all rfl
  have havailable : ∀ name ∈ ["scipy-slsqp", "ipopt-td"], ∃ method : Method,
      name = (method.backend : Backend Exact).label ∧
        (.only ["scipy", "cyipopt"] : Imports Exact) method.library = .ok () := by
    rw [List.forall_mem_cons, List.forall_mem_singleton]
    exact ⟨⟨.slsqp, rfl, rfl⟩, ⟨.ipoptExact, rfl, rfl⟩⟩
  obtain ⟨-, method, hlabel, -, s, hs, hbackend, -, hgives⟩ :=
    create_of_select framed_reachable (r := {}) .empty (fun method => by cases method <;> rfl)
      havailable .accuracy hselect
  obtain rfl : method = .ipoptExact := Method.eq_of_label (by
    rw [← Method.label_backend (α := Exact), ← hlabel]
    rfl)
  exact ⟨framed_reachable, htwice, hselect, s, hs, hbackend, hgives htwice rfl⟩

end Selection

end NonlinearProgram
