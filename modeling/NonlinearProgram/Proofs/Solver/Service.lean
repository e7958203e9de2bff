import NonlinearProgram.Proofs.Attempt
import NonlinearProgram.Solver.Run

/-!
# Serving a library

A call changes what is handed over in its counts alone, and no answer depends on a count. So the
answers of a run are those of what was handed over, and what is left of it after the run tells how
often the objective and its gradient were called, and which iteration was reported last.
-/

namespace NonlinearProgram

variable {α : Type}

namespace Request

def isValue : Request α → Bool
  | value _ => true
  | _ => false

def isGradient : Request α → Bool
  | gradient _ => true
  | _ => false

def iteration? [Scalar α] : Request α → Option Int
  | iteration number => number.toWhole.toOption
  | _ => none

end Request

namespace Exchange

def valueCount (transcript : List (Exchange α)) : Nat :=
  transcript.countP fun exchange => exchange.1.isValue

def gradientCount (transcript : List (Exchange α)) : Nat :=
  transcript.countP fun exchange => exchange.1.isGradient

def lastIteration [Scalar α] (transcript : List (Exchange α)) : Int :=
  (transcript.filterMap fun exchange => exchange.1.iteration?).getLastD 0

end Exchange

namespace Conduct

variable {σ Outcome : Type} {serve : σ → Request α → σ × Except (Error α) (Response α)}

/-- What has been asked before makes no difference to an answer. -/
def Steady (serve : σ → Request α → σ × Except (Error α) (Response α)) : Prop :=
  ∀ s request other, (serve (serve s request).1 other).2 = (serve s other).2

theorem mem_run (h : Steady serve) {conduct : Conduct α Outcome} {s : σ} {exchange : Exchange α}
    (hmem : exchange ∈ (conduct.run serve s).2.1) : exchange.2 = (serve s exchange.1).2 := by
  induction conduct generalizing s with
  | finish outcome => cases hmem
  | fail error => cases hmem
  | ask request next ih =>
      rcases List.mem_cons.1 hmem with rfl | hmem
      · rfl
      · rw [ih _ hmem]
        exact h s request exchange.1

/-- A count that goes up by one with every request of a kind has gone up by as many as there were
in a run. -/
theorem count_run {P : σ → Prop} (count : σ → Nat) (counts : Request α → Bool)
    (hP : ∀ s request, P s → P (serve s request).1)
    (h : ∀ s request, P s →
      count (serve s request).1 = count s + if counts request then 1 else 0)
    (conduct : Conduct α Outcome) {s : σ} (hs : P s) :
    count (conduct.run serve s).1 =
      count s + (conduct.run serve s).2.1.countP fun exchange => counts exchange.1 := by
  induction conduct generalizing s with
  | finish outcome => rfl
  | fail error => rfl
  | ask request next ih =>
      change count ((next (serve s request).2).run serve (serve s request).1).1 = _ +
        List.countP _ ((request, (serve s request).2) :: _)
      rw [ih _ (hP s request hs), h s request hs, List.countP_cons, Nat.add_assoc]
      exact congrArg (count s + ·) (Nat.add_comm _ _)

/-- What the last request of a kind left is what is there after a run. -/
theorem last_run {β : Type} (kept : σ → β) (leaves : Request α → Option β)
    (h : ∀ s request, kept (serve s request).1 = (leaves request).getD (kept s))
    (conduct : Conduct α Outcome) (s : σ) :
    kept (conduct.run serve s).1 =
      ((conduct.run serve s).2.1.filterMap fun exchange => leaves exchange.1).getLastD
        (kept s) := by
  induction conduct generalizing s with
  | finish outcome => rfl
  | fail error => rfl
  | ask request next ih =>
      change kept ((next (serve s request).2).run serve (serve s request).1).1 =
        (List.filterMap _ ((request, (serve s request).2) :: _)).getLastD _
      rw [ih, h, List.filterMap_cons]
      cases leaves request with
      | none => rfl
      | some b => rw [Option.getD_some, List.getLastD_cons]

end Conduct

namespace MinimizerModel

theorem steady : Conduct.Steady (serve (α := α)) := by
  intro m request other
  cases request with
  | value x =>
      cases other with
      | gradient y => cases hgradient : m.gradient <;> simp only [serve, hgradient]
      | _ => rfl
  | gradient x =>
      cases hgradient : m.gradient with
      | none => simp only [serve, hgradient]
      | some g =>
          have hserve : (m.serve (.gradient x)).1 = { m with gradient := some (g.call x).1 } := by
            simp only [serve, hgradient]
          rw [hserve]
          cases other with
          | gradient y => simp only [serve, hgradient, CountedEvaluator.call]
          | _ => rfl
  | _ => rfl

theorem evaluations_serve (m : MinimizerModel α) (request : Request α) :
    (m.serve request).1.objective.evaluations =
      m.objective.evaluations + if request.isValue then 1 else 0 := by
  cases request with
  | gradient x => cases hgradient : m.gradient <;> simp [serve, hgradient, Request.isValue]
  | _ => rfl

theorem isSome_gradient_serve (m : MinimizerModel α) (request : Request α) :
    (m.serve request).1.gradient.isSome = m.gradient.isSome := by
  cases request with
  | gradient x => cases hgradient : m.gradient <;> simp [serve, hgradient]
  | _ => rfl

theorem gradientEvaluations_serve (m : MinimizerModel α) (request : Request α) :
    (m.serve request).1.gradientEvaluations =
      m.gradientEvaluations + if m.gradient.isSome && request.isGradient then 1 else 0 := by
  cases request with
  | gradient x =>
      cases hgradient : m.gradient <;>
        simp [serve, hgradient, gradientEvaluations, Request.isGradient, CountedEvaluator.call]
  | _ => simp [serve, gradientEvaluations, Request.isGradient]

section Run

variable {Outcome : Type} (conduct : Conduct α Outcome) (m : MinimizerModel α)

theorem evaluations_run : (conduct.run serve m).1.objective.evaluations =
    m.objective.evaluations + Exchange.valueCount (conduct.run serve m).2.1 :=
  Conduct.count_run (σ := MinimizerModel α) (P := fun _ => True) (fun m => m.objective.evaluations)
    Request.isValue (fun _ _ _ => trivial) (fun m request _ => m.evaluations_serve request) _
    trivial

theorem gradientEvaluations_run : (conduct.run serve m).1.gradientEvaluations =
    m.gradientEvaluations +
      if m.gradient.isSome then Exchange.gradientCount (conduct.run serve m).2.1 else 0 := by
  have hcount := Conduct.count_run (σ := MinimizerModel α)
    (P := fun n => n.gradient.isSome = m.gradient.isSome) (fun n => n.gradientEvaluations)
    (fun request => m.gradient.isSome && request.isGradient)
    (fun n request hn => (n.isSome_gradient_serve request).trans hn)
    (fun n request hn => by rw [n.gradientEvaluations_serve, hn]) conduct rfl
  refine hcount.trans (congrArg (m.gradientEvaluations + ·) ?_)
  cases m.gradient.isSome with
  | true => rfl
  | false => simp

end Run

end MinimizerModel

namespace InteriorModel

variable [Scalar α]

theorem snd_serve_iteration (m : InteriorModel α) (number : Datum α) :
    (m.serve (.iteration number)).2 =
      (fun _ => .goOn) <$> (number.toWhole : Except (Error α) Int) := by
  cases hnumber : (number.toWhole : Except (Error α) Int) <;> simp only [serve, hnumber] <;> rfl

theorem steady : Conduct.Steady (serve (α := α)) := by
  intro m request other
  cases other with
  | iteration number => rw [snd_serve_iteration, snd_serve_iteration]
  | _ =>
      cases request with
      | iteration number =>
          cases hnumber : (number.toWhole : Except (Error α) Int) <;>
            simp only [serve, hnumber] <;> rfl
      | _ => rfl

theorem evaluations_serve (m : InteriorModel α) (request : Request α) :
    (m.serve request).1.objective.evaluations =
      m.objective.evaluations + if request.isValue then 1 else 0 := by
  cases request with
  | iteration number => cases hnumber : (number.toWhole : Except (Error α) Int) <;>
      simp [serve, hnumber, Request.isValue]
  | _ => rfl

theorem gradientEvaluations_serve (m : InteriorModel α) (request : Request α) :
    (m.serve request).1.gradient.evaluations =
      m.gradient.evaluations + if request.isGradient then 1 else 0 := by
  cases request with
  | iteration number => cases hnumber : (number.toWhole : Except (Error α) Int) <;>
      simp [serve, hnumber, Request.isGradient]
  | _ => rfl

theorem iterations_serve (m : InteriorModel α) (request : Request α) :
    (m.serve request).1.iterations = (request.iteration?).getD m.iterations := by
  cases request with
  | iteration number => cases hnumber : (number.toWhole : Except (Error α) Int) <;>
      simp [serve, hnumber, Request.iteration?, Except.toOption]
  | _ => rfl

section Run

variable {Outcome : Type} (conduct : Conduct α Outcome) (m : InteriorModel α)

theorem evaluations_run : (conduct.run serve m).1.objective.evaluations =
    m.objective.evaluations + Exchange.valueCount (conduct.run serve m).2.1 :=
  Conduct.count_run (σ := InteriorModel α) (P := fun _ => True) (fun m => m.objective.evaluations)
    Request.isValue (fun _ _ _ => trivial) (fun m request _ => m.evaluations_serve request) _
    trivial

theorem gradientEvaluations_run : (conduct.run serve m).1.gradient.evaluations =
    m.gradient.evaluations + Exchange.gradientCount (conduct.run serve m).2.1 :=
  Conduct.count_run (σ := InteriorModel α) (P := fun _ => True) (fun m => m.gradient.evaluations)
    Request.isGradient (fun _ _ _ => trivial)
    (fun m request _ => m.gradientEvaluations_serve request) _ trivial

theorem iterations_run (hm : m.iterations = 0) : (conduct.run serve m).1.iterations =
    Exchange.lastIteration (conduct.run serve m).2.1 := by
  have hlast := Conduct.last_run (σ := InteriorModel α) (fun m => m.iterations) Request.iteration?
    (fun m request => m.iterations_serve request) conduct m
  rw [hm] at hlast
  exact hlast

end Run

end InteriorModel

inductive Ending (α : Type) where
  | raised (error : Error α)
  | minimizer (outcome : MinimizerOutcome α)
  | interior (outcome : InteriorOutcome α)

variable [Scalar α]

namespace Handover

def values : Handover α → Nat
  | minimizer model => model.objective.evaluations
  | interior model => model.objective.evaluations

def gradients : Handover α → Nat
  | minimizer model => model.gradientEvaluations
  | interior model => model.gradient.evaluations

def answer : Handover α → Request α → Except (Error α) (Response α)
  | minimizer model, request => (model.serve request).2
  | interior model, request => (model.serve request).2

end Handover

namespace Surroundings

/-- What is left after a run of what the library was handed. -/
def left (around : Surroundings α) : Handover α → Handover α
  | .minimizer model => .minimizer (around.minimizer.run MinimizerModel.serve model).1
  | .interior model => .interior (around.interior.run InteriorModel.serve model).1

/-- What the library asks, and how it is answered, in a run on what it is handed. -/
def transcript (around : Surroundings α) : Handover α → List (Exchange α)
  | .minimizer model => (around.minimizer.run MinimizerModel.serve model).2.1
  | .interior model => (around.interior.run InteriorModel.serve model).2.1

/-- How the library ends a run on what it is handed. -/
def ending (around : Surroundings α) : Handover α → Ending α
  | .minimizer model =>
    match (around.minimizer.run MinimizerModel.serve model).2.2 with
    | .error error => .raised error
    | .ok outcome => .minimizer outcome
  | .interior model =>
    match (around.interior.run InteriorModel.serve model).2.2 with
    | .error error => .raised error
    | .ok outcome => .interior outcome

variable {around : Surroundings α} {handover : Handover α}

/-- Every exchange of a run is an answer of what was handed over to its request. -/
theorem answer_of_mem_transcript {exchange : Exchange α}
    (h : exchange ∈ around.transcript handover) :
    exchange.2 = handover.answer exchange.1 := by
  cases handover with
  | minimizer model => exact Conduct.mem_run MinimizerModel.steady h
  | interior model => exact Conduct.mem_run InteriorModel.steady h

theorem values_left : (around.left handover).values =
    handover.values + Exchange.valueCount (around.transcript handover) := by
  cases handover with
  | minimizer model => exact MinimizerModel.evaluations_run _ _
  | interior model => exact InteriorModel.evaluations_run _ _

end Surroundings

def Method.library : Method → String
  | slsqp | trustConstr | cobyla => "scipy"
  | ipopt | ipoptExact => "cyipopt"

namespace Solver

def handover (s : Solver α) : Method → Except (Error α) (Handover α)
  | .ipopt => .ok (.interior (s.interiorModel false))
  | .ipoptExact => .ok (.interior (s.interiorModel true))
  | method => do return .minimizer (← s.minimizerModel method)

/-- The verdict that a method makes of a run of its library. -/
def verdict (s : Solver α) (around : Surroundings α) (method : Method) :
    Handover α → Attempt α (Result α)
  | .minimizer model =>
    match (around.minimizer.run MinimizerModel.serve model).2.2 with
    | .error error => throw error
    | .ok outcome =>
      s.concludeMinimizer method (around.minimizer.run MinimizerModel.serve model).1 outcome
  | .interior model =>
    match (around.interior.run InteriorModel.serve model).2.2 with
    | .error error => throw error
    | .ok outcome => s.concludeInterior (around.interior.run InteriorModel.serve model).1 outcome

variable {s : Solver α} {method : Method} {around : Surroundings α} {handover : Handover α}
  {model : MinimizerModel α} {contact : Contact α} {e : Error α}

theorem verdict_of_raised (h : around.ending handover = .raised e) :
    s.verdict around method handover = throw e := by
  cases handover with
  | minimizer model =>
      unfold Surroundings.ending at h
      unfold verdict
      cases hrun : (around.minimizer.run MinimizerModel.serve model).2.2 <;>
        simp only [hrun] at h ⊢ <;> cases h
      rfl
  | interior model =>
      unfold Surroundings.ending at h
      unfold verdict
      cases hrun : (around.interior.run InteriorModel.serve model).2.2 <;>
        simp only [hrun] at h ⊢ <;> cases h
      rfl

theorem exists_verdict_of_minimizer (s : Solver α) (method : Method) {outcome : MinimizerOutcome α}
    (h : around.ending handover = .minimizer outcome) :
    ∃ left, around.left handover = .minimizer left ∧
      s.verdict around method handover = s.concludeMinimizer method left outcome := by
  cases handover with
  | minimizer model =>
      refine ⟨_, rfl, ?_⟩
      unfold Surroundings.ending at h
      unfold verdict
      cases hrun : (around.minimizer.run MinimizerModel.serve model).2.2 <;>
        simp only [hrun] at h ⊢ <;> cases h
      rfl
  | interior model =>
      unfold Surroundings.ending at h
      cases hrun : (around.interior.run InteriorModel.serve model).2.2 <;> simp only [hrun] at h <;>
        cases h

theorem exists_verdict_of_interior (s : Solver α) (method : Method) {outcome : InteriorOutcome α}
    (h : around.ending handover = .interior outcome) :
    ∃ left, around.left handover = .interior left ∧
      s.verdict around method handover = s.concludeInterior left outcome := by
  cases handover with
  | minimizer model =>
      unfold Surroundings.ending at h
      cases hrun : (around.minimizer.run MinimizerModel.serve model).2.2 <;>
        simp only [hrun] at h <;> cases h
  | interior model =>
      refine ⟨_, rfl, ?_⟩
      unfold Surroundings.ending at h
      unfold verdict
      cases hrun : (around.interior.run InteriorModel.serve model).2.2 <;>
        simp only [hrun] at h ⊢ <;> cases h
      rfl

theorem runMinimizer_of_model (himport : around.imports "scipy" = .ok ())
    (h : s.minimizerModel method = .ok model) :
    s.runMinimizer around method =
      (some ⟨.minimizer model, around.transcript (.minimizer model)⟩,
        s.verdict around method (.minimizer model)) := by
  unfold runMinimizer
  rw [himport, h]
  rfl

theorem runMinimizer_of_error
    (h : (do around.imports "scipy"; s.minimizerModel method) = .error e) :
    s.runMinimizer around method = (none, throw e) := by
  unfold runMinimizer
  rw [h]

/-- A library that can be imported is handed the model, and the verdict is made of its run. -/
theorem runMethod_of_handover (himport : around.imports method.library = .ok ())
    (h : s.handover method = .ok handover) :
    s.runMethod around method =
      (some ⟨handover, around.transcript handover⟩, s.verdict around method handover) := by
  cases method with
  | slsqp | trustConstr | cobyla =>
      obtain ⟨model, hmodel, h⟩ := bind_eq_ok_iff.1 h
      cases h
      exact runMinimizer_of_model himport hmodel
  | ipopt | ipoptExact =>
      cases h
      unfold runMethod runInterior
      rw [show around.imports "cyipopt" = .ok () from himport]
      rfl

/-- Without its library a run fails as the import does, before anything is handed over. -/
theorem runMethod_of_import_error (himport : around.imports method.library = .error e) :
    s.runMethod around method = (none, throw e) := by
  cases method with
  | slsqp | trustConstr | cobyla =>
      exact runMinimizer_of_error (bind_eq_error_iff.2 (.inl himport))
  | ipopt | ipoptExact =>
      unfold runMethod runInterior
      rw [show around.imports "cyipopt" = .error e from himport]

theorem runMethod_of_handover_error (himport : around.imports method.library = .ok ())
    (h : s.handover method = .error e) : s.runMethod around method = (none, throw e) := by
  cases method with
  | slsqp | trustConstr | cobyla =>
      rcases bind_eq_error_iff.1 h with h | ⟨model, -, h⟩
      · exact runMinimizer_of_error (bind_eq_error_iff.2 (.inr ⟨(), himport, h⟩))
      · cases h
  | ipopt | ipoptExact => cases h

/-- A run either ends before anything is handed over, with an error, or its library is handed the
model and the verdict is made of its run. -/
theorem runMethod_cases (s : Solver α) (around : Surroundings α) (method : Method) :
    (∃ e, s.runMethod around method = (none, throw e)) ∨
      ∃ handover, s.handover method = .ok handover ∧ s.runMethod around method =
        (some ⟨handover, around.transcript handover⟩, s.verdict around method handover) := by
  cases himport : around.imports method.library with
  | error e => exact .inl ⟨e, runMethod_of_import_error himport⟩
  | ok _ =>
      cases h : s.handover method with
      | error e => exact .inl ⟨e, runMethod_of_handover_error himport h⟩
      | ok handover => exact .inr ⟨handover, rfl, runMethod_of_handover himport h⟩

/-- What passed between a backend and its library is what the library asks on being handed the
model of the method. -/
theorem handover_of_contact (h : (s.runMethod around method).1 = some contact) :
    ∃ handover, s.handover method = .ok handover ∧
      contact = ⟨handover, around.transcript handover⟩ := by
  rcases s.runMethod_cases around method with ⟨e, hrun⟩ | ⟨handover, hhandover, hrun⟩
  · rw [hrun] at h
    cases h
  · rw [hrun] at h
    cases h
    exact ⟨handover, hhandover, rfl⟩

/-- A model for a minimiser is handed over without a call that has been counted, and with a gradient
unless the method does without. -/
theorem counts_of_minimizerModel (h : s.minimizerModel method = .ok model) :
    model.objective.evaluations = 0 ∧ model.gradientEvaluations = 0 ∧
      model.gradient.isSome = decide (method ≠ .cobyla) := by
  cases method with
  | _ =>
      obtain ⟨blocks, -, h⟩ := bind_eq_ok_iff.1 h
      cases h
      exact ⟨rfl, rfl, rfl⟩

/-- After a run all calls of the objective have been counted, and of the gradient where the method
takes any. -/
theorem counts_left (around : Surroundings α) (h : s.handover method = .ok handover) :
    (around.left handover).values = Exchange.valueCount (around.transcript handover) ∧
      (around.left handover).gradients =
        if method = .cobyla then 0 else Exchange.gradientCount (around.transcript handover) := by
  rw [Surroundings.values_left]
  cases method with
  | slsqp | trustConstr | cobyla =>
      obtain ⟨model, hmodel, h⟩ := bind_eq_ok_iff.1 h
      cases h
      obtain ⟨hvalues, hgradients, hsome⟩ := counts_of_minimizerModel hmodel
      refine ⟨by rw [Handover.values, hvalues, Nat.zero_add], ?_⟩
      refine (MinimizerModel.gradientEvaluations_run _ _).trans ?_
      rw [hgradients, hsome, Nat.zero_add]
      rfl
  | ipopt | ipoptExact =>
      cases h
      exact ⟨Nat.zero_add _, (InteriorModel.gradientEvaluations_run _ _).trans (Nat.zero_add _)⟩

theorem iterations_left {left : InteriorModel α} (h : s.handover method = .ok handover)
    (hleft : around.left handover = .interior left) :
    left.iterations = Exchange.lastIteration (around.transcript handover) := by
  cases method with
  | slsqp | trustConstr | cobyla =>
      obtain ⟨model, hmodel, h⟩ := bind_eq_ok_iff.1 h
      cases h
      cases hleft
  | ipopt | ipoptExact =>
      cases h
      cases hleft
      exact InteriorModel.iterations_run _ _ rfl

end Solver

end NonlinearProgram
