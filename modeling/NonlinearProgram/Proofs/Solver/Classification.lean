import NonlinearProgram.Proofs.Solver.Callbacks

/-!
# How runs are classified

However a library ends a run, the run has one of four results, and which one it is can be told from
the point, the problem, the tolerance and what the library reports. A point at which something is
not finite makes a failure, a violation above the tolerance makes no solution, and of the points
that are left those of a run that converged without a warning are solved.
-/

namespace NonlinearProgram

open Scalar

variable {α : Type} [Scalar α]

namespace Problem

/-- A problem is finite at a point: that has a finite coordinate for each variable, and the
objective and all constraints have finite values there. -/
structure FiniteAt (p : Problem α) (xs : List α) : Prop where
  length_point : xs.length = p.inputSize
  isFinite_point : ∀ v ∈ xs, isFinite v = true
  objective : ∃ value, p.objective.compute (.vector xs) = .ok [value] ∧ isFinite value = true
  constraints : ∀ c ∈ p.constraints, ∃ values, c.function.compute (.vector xs) = .ok values ∧
    ∀ v ∈ values, isFinite v = true

def Exceeds (p : Problem α) (xs : List α) (tolerance : α) : Prop :=
  ∃ violation, p.constraintViolation (.vector xs) = .ok violation ∧
    less tolerance violation = true

end Problem

theorem Function.scalarValue_eq_ok_iff {f : Function α} {x : Datum α} {value : α}
    (hf : f.outputSize = 1) : f.scalarValue x = .ok value ↔ f.compute x = .ok [value] := by
  constructor
  · intro h
    obtain ⟨outputs, houtputs, hentry⟩ := bind_eq_ok_iff.1 h
    have hlength : outputs.length = 1 := (length_of_compute houtputs).trans hf
    obtain ⟨v, rfl⟩ := List.length_eq_one_iff.1 hlength
    cases hentry
    exact houtputs
  · intro h
    exact bind_eq_ok_iff.2 ⟨[value], h, rfl⟩

namespace Problem

variable {p : Problem α} {xs : List α}

/-- A problem is finite at a point where the steps of the verdict find it so. -/
theorem finiteAt_iff (hp : p.objective.outputSize = 1) : p.FiniteAt xs ↔
    (∀ v ∈ xs, isFinite v = true) ∧
    (∃ value, p.objective.scalarValue (.vector xs) = .ok value ∧ isFinite value = true) ∧
    ∃ values, p.constraintValues (.vector xs) = .ok values ∧ ∀ v ∈ values, isFinite v = true := by
  constructor
  · intro h
    obtain ⟨value, hvalue, hfin⟩ := h.objective
    choose! g hg using h.constraints
    refine ⟨h.isFinite_point, ⟨value, (Function.scalarValue_eq_ok_iff hp).2 hvalue, hfin⟩,
      _, constraintValues_eq_ok fun c hc => (hg c hc).1, ?_⟩
    intro v hv
    obtain ⟨c, hc, hv⟩ := List.mem_flatMap.1 hv
    exact (hg c hc).2 v hv
  · rintro ⟨hpoint, ⟨value, hvalue, hfin⟩, values, hvalues, hvfin⟩
    rw [Function.scalarValue_eq_ok_iff hp] at hvalue
    obtain ⟨point, hcheck⟩ := Function.checkArgument_of_compute hvalue
    obtain ⟨hx, hlength⟩ := Function.checkArgument_eq_ok_iff.1 hcheck
    rw [Tensor.ofDatum_vector, Except.ok.injEq] at hx
    obtain rfl : xs = point := congrArg Tensor.entries hx
    refine ⟨hlength, hpoint, ⟨value, hvalue, hfin⟩, ?_⟩
    intro c hc
    obtain ⟨cv, hcv, hmem⟩ := exists_compute_of_constraintValues hvalues hc
    exact ⟨cv, hcv, fun v hv => hvfin v (hmem v hv)⟩

theorem FiniteAt.exists_constraintViolation (h : p.FiniteAt xs) :
    ∃ violation, p.constraintViolation (.vector xs) = .ok violation := by
  have hviolation : ∀ c ∈ p.constraints, ∃ v, c.violation (.vector xs) = .ok v := by
    intro c hc
    obtain ⟨values, hvalues, -⟩ := h.constraints c hc
    exact ⟨_, bind_eq_ok_iff.2 ⟨values, hvalues, rfl⟩⟩
  obtain ⟨violations, hviolations⟩ := exists_mapM_eq_ok hviolation
  have hdistances : p.argumentDistances (.vector xs) =
      .ok (Constraint.distances p.argumentBounds xs) :=
    bind_eq_ok_iff.2 ⟨_, Tensor.ofDatum_vector xs, rfl⟩
  exact ⟨_, bind_eq_ok_iff.2 ⟨_, hdistances, bind_eq_ok_iff.2 ⟨violations, hviolations, rfl⟩⟩⟩

end Problem

/-- A report as the verdict reads it: whether the run converged, the warnings of the backend, the
message, and multipliers that are a vector or missing. -/
structure RunReport.Reads (report : RunReport α) (converged : Bool) (notes : List String)
    (message : String) : Prop where
  converged : report.converged.holds = converged
  warnings : report.warnings = .list (notes.map .text)
  message : report.message = .text message
  multipliers : report.multipliers = .nothing ∨ ∃ ms, report.multipliers = .vector ms

namespace Solver

/-- All warnings on a run: those of the backend, and the message where the run did not converge, or
that it did not where the message is empty. -/
def allWarnings (s : Solver α) (converged : Bool) (notes : List String) (message : String) :
    List String :=
  notes ++ if converged then [] else
    [if message = "" then s!"{s.backend.label} did not converge" else message]

/-- A result is the one that a run has which ended at a point, converged or not, with some warnings
of the backend and a message. -/
structure Classifies (s : Solver α) (tolerance : α) (xs : List α) (converged : Bool)
    (notes : List String) (message : String) (r : Result α) : Prop where
  failed_iff : (∃ text, r = .failed text) ↔ ¬s.problem.FiniteAt xs
  noSolution_iff : (∃ reason, r = .noSolution reason) ↔
    s.problem.FiniteAt xs ∧ s.problem.Exceeds xs tolerance
  solved_iff : (∃ sol, r = .solved sol) ↔
    s.problem.FiniteAt xs ∧ ¬s.problem.Exceeds xs tolerance ∧ converged = true ∧ notes = []
  solvedWithWarnings_iff : ∀ warnings, (∃ sol, r = .solvedWithWarnings sol warnings) ↔
    s.problem.FiniteAt xs ∧ ¬s.problem.Exceeds xs tolerance ∧ (converged = false ∨ notes ≠ []) ∧
      warnings = s.allWarnings converged notes message
  warnings_ne_nil : ∀ sol warnings, r = .solvedWithWarnings sol warnings → warnings ≠ []

variable {s : Solver α} {tolerance : α} {xs : List α} {converged : Bool} {notes : List String}
  {message : String} {report : RunReport α} {r : Result α}

theorem allWarnings_eq_nil_iff :
    s.allWarnings converged notes message = [] ↔ converged = true ∧ notes = [] := by
  unfold allWarnings
  cases converged with
  | true => simp
  | false => simp

theorem classifies_of_cases
    (hfailed : ¬s.problem.FiniteAt xs → ∃ text, r = .failed text)
    (hnone : s.problem.FiniteAt xs → s.problem.Exceeds xs tolerance →
      ∃ reason, r = .noSolution reason)
    (hsolved : s.problem.FiniteAt xs → ¬s.problem.Exceeds xs tolerance →
      s.allWarnings converged notes message = [] → ∃ sol, r = .solved sol)
    (hwarned : s.problem.FiniteAt xs → ¬s.problem.Exceeds xs tolerance →
      s.allWarnings converged notes message ≠ [] →
      ∃ sol, r = .solvedWithWarnings sol (s.allWarnings converged notes message)) :
    s.Classifies tolerance xs converged notes message r := by
  have hwarnings : s.allWarnings converged notes message ≠ [] ↔
      converged = false ∨ notes ≠ [] := by
    rw [Ne, allWarnings_eq_nil_iff, not_and_or, Bool.not_eq_true]
  by_cases hfinite : s.problem.FiniteAt xs
  · by_cases hexceeds : s.problem.Exceeds xs tolerance
    · obtain ⟨reason, rfl⟩ := hnone hfinite hexceeds
      constructor <;> simp [hfinite, hexceeds]
    · by_cases hempty : s.allWarnings converged notes message = []
      · obtain ⟨sol, rfl⟩ := hsolved hfinite hexceeds hempty
        constructor <;> simp [hfinite, hexceeds, allWarnings_eq_nil_iff.1 hempty]
      · obtain ⟨sol, rfl⟩ := hwarned hfinite hexceeds hempty
        have hclean := mt allWarnings_eq_nil_iff.2 hempty
        have hreason := hwarnings.1 hempty
        constructor <;> simp [hfinite, hexceeds, hempty, hclean, hreason, eq_comm]
  · obtain ⟨text, rfl⟩ := hfailed hfinite
    constructor <;> simp [hfinite]

/-- The checks of the verdict let through the points at which the problem is finite. -/
theorem finiteAt_iff_exists_checked (hp : s.problem.objective.outputSize = 1)
    (htolerance : s.feasibilityTolerance = .ok tolerance) : s.problem.FiniteAt xs ↔
      ∃ t value values violation, s.Checked (.vector xs) t value values violation tolerance := by
  constructor
  · intro hfinite
    obtain ⟨hpoint, ⟨value, hvalue, hfin⟩, values, hvalues, hvfin⟩ :=
      (Problem.finiteAt_iff hp).1 hfinite
    obtain ⟨violation, hviolation⟩ := hfinite.exists_constraintViolation
    exact ⟨.vector xs, value, values, violation, Tensor.ofDatum_vector xs,
      List.all_eq_true.2 hpoint, hvalue, hfin, hvalues, List.all_eq_true.2 hvfin, hviolation,
      htolerance⟩
  · rintro ⟨t, value, values, violation, h⟩
    have ht := h.point_eq
    rw [Tensor.ofDatum_vector, Except.ok.injEq] at ht
    subst ht
    exact (Problem.finiteAt_iff hp).2 ⟨List.all_eq_true.1 h.isFinite_point,
      ⟨value, h.value_eq, h.isFinite_value⟩, values, h.constraintValues_eq,
      List.all_eq_true.1 h.isFinite_constraintValues⟩

theorem Checked.exceeds_iff {t : Tensor α} {value : α} {values : List α} {violation : α}
    (h : s.Checked (.vector xs) t value values violation tolerance) :
    s.problem.Exceeds xs tolerance ↔ less tolerance violation = true := by
  constructor
  · rintro ⟨violation', hviolation, hexceeds⟩
    rw [h.violation_eq, Except.ok.injEq] at hviolation
    exact hviolation ▸ hexceeds
  · intro hexceeds
    exact ⟨violation, h.violation_eq, hexceeds⟩

theorem warningsOf_eq_ok (h : report.Reads converged notes message) :
    s.warningsOf report = .ok ((s.allWarnings converged notes message).map .text) := by
  unfold warningsOf allWarnings
  rw [h.warnings, h.message, h.converged]
  refine bind_eq_ok_iff.2 ⟨notes.map .text, rfl, ?_⟩
  cases converged with
  | true => simp
  | false =>
      by_cases hmessage : message = ""
      · simp [hmessage, Datum.holds]
      · simp [hmessage, Datum.holds]

theorem exists_solutionOf (h : report.Reads converged notes message) (point : Tensor α) (value : α)
    (values : List α) : ∃ sol, solutionOf point value values report = .ok sol := by
  have hmultipliers : ∃ t, report.multipliers.given?.mapM Tensor.ofDatum =
      (.ok t : Except (Error α) _) := by
    rcases h.multipliers with h | ⟨ms, h⟩
    · rw [h]
      exact ⟨none, rfl⟩
    · rw [h]
      exact ⟨some (.vector ms), map_eq_ok_iff.2 ⟨_, Tensor.ofDatum_vector ms, rfl⟩⟩
  obtain ⟨t, ht⟩ := hmultipliers
  exact ⟨_, bind_eq_ok_iff.2 ⟨t, ht, rfl⟩⟩

/-- An accepted run is solved where it has no warnings, and else solved with all of them. -/
theorem outcome_accept {sol : Solution α} (h : report.Reads converged notes message) :
    (s.allWarnings converged notes message = [] →
      (s.accept (.ok sol) report).outcome = .ok (.solved sol)) ∧
    (s.allWarnings converged notes message ≠ [] →
      (s.accept (.ok sol) report).outcome =
        .ok (.solvedWithWarnings sol (s.allWarnings converged notes message))) := by
  constructor
  · intro hempty
    refine Attempt.outcome_bind_eq_ok_iff.2 ⟨_, warningsOf_eq_ok h, ?_⟩
    rw [hempty]
    rfl
  · intro hsome
    refine Attempt.outcome_bind_eq_ok_iff.2 ⟨_, warningsOf_eq_ok h, ?_⟩
    rw [List.isEmpty_map, if_neg (by simpa using hsome)]
    refine Attempt.outcome_bind_eq_ok_iff.2 ⟨(), rfl, ?_⟩
    refine Attempt.outcome_bind_eq_ok_iff.2 ⟨sol, rfl, ?_⟩
    rw [List.map_map]
    exact congrArg (fun ws => Except.ok (Result.solvedWithWarnings sol ws)) (List.map_id _)

/-- The verdict on a point that a library came to is the one that the classification asks for. -/
theorem classifies_conclude (hp : s.problem.objective.outputSize = 1)
    (htolerance : s.feasibilityTolerance = .ok tolerance)
    (h : report.Reads converged notes message) :
    s.Classifies tolerance xs converged notes message
      (s.resultOf (s.conclude (.vector xs) report).outcome) := by
  have hfinite : s.problem.FiniteAt xs ↔ _ := finiteAt_iff_exists_checked hp htolerance
  refine classifies_of_cases ?_ ?_ ?_ ?_
  · intro hnot
    cases houtcome : (s.conclude (.vector xs) report).outcome with
    | error e => exact ⟨_, rfl⟩
    | ok r =>
        rcases failed_or_checked_of_conclude houtcome with
          ⟨text, rfl⟩ | ⟨t, value, values, violation, tolerance', hchecked, -⟩
        · exact ⟨_, rfl⟩
        · obtain rfl : tolerance' = tolerance :=
            Except.ok.inj (hchecked.tolerance_eq.symm.trans htolerance)
          exact absurd (hfinite.2 ⟨t, value, values, violation, hchecked⟩) hnot
  · intro hpoint hexceeds
    obtain ⟨t, value, values, violation, hchecked⟩ := hfinite.1 hpoint
    rw [hchecked.outcome_conclude (.inl ⟨hchecked.exceeds_iff.1 hexceeds, rfl⟩)]
    exact ⟨_, rfl⟩
  · intro hpoint hwithin hempty
    obtain ⟨t, value, values, violation, hchecked⟩ := hfinite.1 hpoint
    obtain ⟨sol, hsol⟩ := exists_solutionOf h t value values
    rw [hchecked.exceeds_iff, Bool.not_eq_true] at hwithin
    rw [hchecked.outcome_conclude (.inr ⟨hwithin, hsol ▸ (outcome_accept h).1 hempty⟩)]
    exact ⟨sol, rfl⟩
  · intro hpoint hwithin hsome
    obtain ⟨t, value, values, violation, hchecked⟩ := hfinite.1 hpoint
    obtain ⟨sol, hsol⟩ := exists_solutionOf h t value values
    rw [hchecked.exceeds_iff, Bool.not_eq_true] at hwithin
    rw [hchecked.outcome_conclude (.inr ⟨hwithin, hsol ▸ (outcome_accept h).2 hsome⟩)]
    exact ⟨sol, rfl⟩

end Solver

/-- A minimiser returned a vector, a flag of success, a message, a status, and a count of
iterations that can be read, if any. -/
structure MinimizerOutcome.Returns (outcome : MinimizerOutcome α) (method : Method) (xs : List α)
    (success message status : Datum α) : Prop where
  point : outcome.point = .vector xs
  success : outcome.success = .ok success
  message : outcome.message = .ok message
  status : outcome.status = .ok status
  iterations : ∃ n, Solver.iterationsOf (method = .cobyla) outcome.iterations = .ok n

/-- An interior-point library returned a vector, a status, a message, and multipliers, if any. -/
structure InteriorOutcome.Returns (outcome : InteriorOutcome α) (xs : List α) (status : Int)
    (message : String) : Prop where
  point : outcome.point = .vector xs
  status : outcome.status.toWhole = .ok status
  message : outcome.message.decode = .text message
  multipliers : outcome.multipliers = .nothing ∨ ∃ ms, outcome.multipliers = .vector ms

/-- The warnings of the backend on a run of a minimiser: a trust region that became too small. -/
def Method.notes (method : Method) (status message : Datum α) : List String :=
  if method = .trustConstr ∧ status.whole? = some 2 then
    [s!"Stopped on step size rather than optimality: {message.write}"]
  else []

namespace Method

variable {method : Method} {imports : Imports α}

theorem backend_library (method : Method) :
    (method.backend : Backend α).library = some (.text method.library) := by
  cases method <;> rfl

theorem isAvailable_backend (method : Method) (imports : Imports α) :
    (method.backend : Backend α).isAvailable imports =
      match imports method.library with
      | .ok () => .ok true
      | .error e => if e.kind.isA .importFailure then .ok false else .error e := by
  cases method <;> rfl

theorem installed_backend_iff :
    (method.backend : Backend α).Installed imports ↔ imports method.library = .ok () := by
  constructor
  · intro h
    obtain ⟨library, hlibrary, -, himport⟩ := h _ (backend_library method)
    cases hlibrary
    exact himport
  · intro himport d hd
    rw [backend_library] at hd
    cases hd
    have hname : Backend.IsModuleName method.library := by
      cases method <;> exact ⟨by decide, by decide⟩
    exact ⟨_, rfl, hname, himport⟩

end Method

namespace Solver

variable {s : Solver α} {method : Method} {around : Surroundings α} {tolerance : α}
  {r : Result α}

/-- A result answers the end of a run: a failure where the library raised or an interior-point
library reported one, no solution where the latter found the problem infeasible, and else what
the point is classified as. -/
def Answers (s : Solver α) (method : Method) (tolerance : α) (r : Result α) : Ending α → Prop
  | .raised _ => ∃ text, r = .failed text
  | .minimizer outcome => ∀ xs success message status,
      outcome.Returns method xs success message status →
        s.Classifies tolerance xs success.holds (method.notes status message) message.write r
  | .interior outcome => ∀ xs status message, outcome.Returns xs status message →
      (status ≤ -10 → ∃ text, r = .failed text) ∧
      (status = 2 → r = .noSolution (.text message)) ∧
      (-10 < status → status ≠ 2 →
        s.Classifies tolerance xs (status = 0 ∨ status = 1)
          (if status = 1 then [message] else []) message r)

theorem exists_handover [LawfulScalar α] (hp : s.problem.WellFormed) (method : Method) :
    ∃ handover, s.handover method = .ok handover := by
  obtain ⟨bounds, hbounds, -⟩ := hp.exists_scaledBounds
  have hsided : ∀ withJacobian split, ∃ blocks,
      s.problem.sidedBlocks withJacobian split = .ok blocks :=
    fun _ _ => ⟨_, bind_eq_ok_iff.2 ⟨bounds, hbounds, rfl⟩⟩
  have hbounded : ∃ blocks, s.problem.boundedBlocks = .ok blocks := by
    unfold Problem.boundedBlocks
    by_cases hempty : s.problem.constraints.isEmpty = true
    · exact ⟨[], if_pos hempty⟩
    · rw [if_neg hempty]
      exact ⟨_, bind_eq_ok_iff.2 ⟨bounds, hbounds, rfl⟩⟩
  cases method with
  | slsqp =>
      obtain ⟨blocks, hblocks⟩ := hsided true false
      exact ⟨_, bind_eq_ok_iff.2 ⟨_, bind_eq_ok_iff.2 ⟨blocks, hblocks, rfl⟩, rfl⟩⟩
  | trustConstr =>
      obtain ⟨blocks, hblocks⟩ := hbounded
      exact ⟨_, bind_eq_ok_iff.2 ⟨_, bind_eq_ok_iff.2 ⟨blocks, hblocks, rfl⟩, rfl⟩⟩
  | cobyla =>
      obtain ⟨blocks, hblocks⟩ := hsided false true
      exact ⟨_, bind_eq_ok_iff.2 ⟨_, bind_eq_ok_iff.2 ⟨blocks, hblocks, rfl⟩, rfl⟩⟩
  | ipopt => exact ⟨_, rfl⟩
  | ipoptExact => exact ⟨_, rfl⟩

theorem outcome_concludeMinimizer (model : MinimizerModel α) {outcome : MinimizerOutcome α}
    {xs : List α} {success message status : Datum α}
    (h : outcome.Returns method xs success message status) :
    ∃ report, report.Reads success.holds (method.notes status message) message.write ∧
      (s.concludeMinimizer method model outcome).outcome =
        (s.conclude (.vector xs) report).outcome := by
  obtain ⟨n, hn⟩ := h.iterations
  have hwarnings : (if method = .trustConstr then stepWarnings outcome else .ok [] :
      Except (Error α) (List (Datum α))) = .ok ((method.notes status message).map .text) := by
    unfold Method.notes
    by_cases hmethod : method = .trustConstr
    · by_cases hstatus : status.whole? = some 2
      · rw [if_pos hmethod, if_pos ⟨hmethod, hstatus⟩]
        refine bind_eq_ok_iff.2 ⟨status, h.status, ?_⟩
        rw [if_pos (beq_iff_eq.2 hstatus)]
        exact bind_eq_ok_iff.2 ⟨message, h.message, rfl⟩
      · rw [if_pos hmethod, if_neg fun h => hstatus h.2]
        refine bind_eq_ok_iff.2 ⟨status, h.status, ?_⟩
        rw [if_neg (mt beq_iff_eq.1 hstatus)]
        rfl
    · rw [if_neg hmethod, if_neg fun h => hmethod h.1]
      rfl
  refine ⟨{
    converged := success
    message := .text message.write
    warnings := .list ((method.notes status message).map .text)
    iterations := .whole n
    functionEvals := .whole model.objective.evaluations
    gradientEvals := .whole model.gradientEvaluations }, ⟨rfl, rfl, rfl, .inl rfl⟩, ?_⟩
  unfold concludeMinimizer
  rw [Attempt.outcome_liftM_bind hwarnings, Attempt.outcome_liftM_bind h.success,
    Attempt.outcome_liftM_bind h.message, Attempt.outcome_liftM_bind hn, h.point]

/-- The verdict on what an interior-point library returned is settled by a status of failure, and
else it is the one on the point. -/
theorem outcome_concludeInterior (model : InteriorModel α) {outcome : InteriorOutcome α}
    {xs : List α} {status : Int} {message : String} (h : outcome.Returns xs status message) :
    (status ≤ -10 → (s.concludeInterior model outcome).outcome =
      .ok (failure s!"IPOPT error {status}: {message}")) ∧
    (status = 2 → (s.concludeInterior model outcome).outcome =
      .ok (.noSolution (.text message))) ∧
    (-10 < status → status ≠ 2 → ∃ report,
      report.Reads (status = 0 ∨ status = 1) (if status = 1 then [message] else []) message ∧
      (s.concludeInterior model outcome).outcome =
        (s.conclude (.vector xs) report).outcome) := by
  -- What is left of the steps once the parts of the outcome have been read.
  have hsteps : (s.concludeInterior model outcome).outcome =
      (if status ≤ -10 then pure (failure s!"IPOPT error {status}: {message}")
        else if status = 2 then pure (.noSolution (.text message))
        else s.conclude (.vector xs) {
          converged := .flag (status = 0 || status = 1)
          message := .text message
          warnings := .list (if status = 1 then [.text message] else [])
          multipliers := outcome.multipliers
          iterations := .whole model.iterations
          functionEvals := .whole model.objective.evaluations
          gradientEvals := .whole model.gradient.evaluations } :
        Attempt α (Result α)).outcome := by
    unfold concludeInterior
    rw [Attempt.outcome_liftM_bind h.status, h.message, h.point]
    rfl
  rw [hsteps]
  refine ⟨?_, ?_, ?_⟩
  · intro herror
    rw [if_pos herror]
    rfl
  · rintro rfl
    rfl
  · intro hnoerror hfeasible
    rw [if_neg (not_le.2 hnoerror), if_neg hfeasible]
    refine ⟨_, ⟨?_, ?_, rfl, h.multipliers⟩, rfl⟩
    · change (decide (status = 0) || decide (status = 1)) = _
      rw [Bool.decide_or]
    · by_cases hacceptable : status = 1
      · simp [hacceptable]
      · simp [hacceptable]

theorem answers_verdict (hp : s.problem.WellFormed)
    (htolerance : s.feasibilityTolerance = .ok tolerance) (around : Surroundings α)
    (handover : Handover α) :
    s.Answers method tolerance (s.resultOf (s.verdict around method handover).outcome)
      (around.ending handover) := by
  cases hend : around.ending handover with
  | raised e =>
      rw [verdict_of_raised hend]
      exact ⟨_, rfl⟩
  | minimizer outcome =>
      obtain ⟨left, -, hverdict⟩ := exists_verdict_of_minimizer s method hend
      rw [hverdict]
      intro xs success message status h
      obtain ⟨report, hreads, houtcome⟩ := outcome_concludeMinimizer (s := s) left h
      rw [houtcome]
      exact classifies_conclude hp.outputSize htolerance hreads
  | interior outcome =>
      obtain ⟨left, -, hverdict⟩ := exists_verdict_of_interior s method hend
      rw [hverdict]
      intro xs status message h
      obtain ⟨herror, hinfeasible, hpoint⟩ := outcome_concludeInterior (s := s) left h
      refine ⟨?_, ?_, ?_⟩
      · intro hstatus
        rw [herror hstatus]
        exact ⟨_, rfl⟩
      · intro hstatus
        rw [hinfeasible hstatus]
        rfl
      · intro hnoerror hfeasible
        obtain ⟨report, hreads, houtcome⟩ := hpoint hnoerror hfeasible
        rw [houtcome]
        exact classifies_conclude hp.outputSize htolerance hreads

theorem identity_of_bind {p : Problem α} {explicit : Options α} {priority : Option (Datum α)}
    (hs : (bind method.backend p explicit priority).outcome = .ok s) :
    s.backend.identity = .builtIn method := by
  rw [(bind_eq_ok hs).1, backend_identity]

theorem wellFormed_of_bind [LawfulScalar α] {b : Backend α} {p : Problem α} (hp : p.Reachable)
    {explicit : Options α} {priority : Option (Datum α)}
    (hs : (bind b p explicit priority).outcome = .ok s) : s.problem.WellFormed := by
  rw [(bind_eq_ok hs).2]
  exact (Problem.Reachable.step hp .freeze rfl).wellFormed

/-- A run of a built-in backend fails where its library cannot be imported. Else the library is
handed the model of the method, and the result answers the way in which the library ends the
run. -/
theorem answers_run [LawfulScalar α] {p : Problem α} (hp : p.Reachable)
    {explicit : Options α} {priority : Option (Datum α)}
    (hs : (bind method.backend p explicit priority).outcome = .ok s)
    (htolerance : s.feasibilityTolerance = .ok tolerance) (around : Surroundings α) :
    (¬(method.backend : Backend α).Installed around.imports →
      (s.run around).1 = none ∧ ∃ text, (s.run around).2.value.2 = .failed text) ∧
    ((method.backend : Backend α).Installed around.imports → ∃ handover,
      s.handover method = .ok handover ∧
      (s.run around).1 = some ⟨handover, around.transcript handover⟩ ∧
      s.Answers method tolerance (s.run around).2.value.2 (around.ending handover)) := by
  have hwf := wellFormed_of_bind hp hs
  have hmethod := identity_of_bind hs
  obtain ⟨hcontact, hvalue⟩ := run_builtIn around hmethod
  rw [Method.installed_backend_iff, hcontact, hvalue]
  constructor
  · intro hfails
    cases himport : around.imports method.library with
    | ok _ => exact absurd himport hfails
    | error e =>
        rw [runMethod_of_import_error himport]
        exact ⟨rfl, _, rfl⟩
  · intro himport
    obtain ⟨handover, hhandover⟩ := exists_handover hwf method
    rw [runMethod_of_handover himport hhandover]
    exact ⟨handover, hhandover, rfl, answers_verdict hwf htolerance around handover⟩

/-- Surroundings in which an interior-point library stops at two, without a word and with a status
that is neither a success nor a failure. -/
def stopping : Surroundings Exact where
  imports := .only ["cyipopt"]
  minimizer := .fail .problemFrozen
  interior := .finish {
    point := .vector [.finite 2]
    status := .whole (-1)
    message := .bytes []
    multipliers := .vector [.finite 0] }
  procedure := fun _ => throw .problemFrozen

def stoppedSolution : Solution Exact where
  point := some (.vector [.finite 2])
  value := .finite 4
  constraintValues := some (.vector [.finite 4])
  multipliers := some (.vector [.finite 0])

/-- A point at which everything is finite and feasible is kept, with the warning that the run did
not converge. -/
theorem answers_run_framed :
    framed.Reachable ∧
    (bind Method.ipoptExact.backend framed [] none).outcome = .ok exactSolver ∧
    exactSolver.feasibilityTolerance = .ok 1e-6 ∧
    stopping.imports Method.ipoptExact.library = .ok () ∧
    exactSolver.Classifies 1e-6 [.finite 2] false [] "" (exactSolver.run stopping).2.value.2 ∧
    (exactSolver.run stopping).2.value.2 =
      .solvedWithWarnings stoppedSolution ["ipopt-td did not converge"] := by
  have hbind : (bind Method.ipoptExact.backend framed [] none).outcome = .ok exactSolver := by
    with_unfolding_all rfl
  have htolerance : exactSolver.feasibilityTolerance = .ok 1e-6 := by with_unfolding_all rfl
  have himport : stopping.imports Method.ipoptExact.library = .ok () := rfl
  obtain ⟨handover, hhandover, -, hanswers⟩ :=
    (answers_run framed_reachable hbind htolerance stopping).2
      (Method.installed_backend_iff.2 himport)
  cases hhandover
  obtain ⟨-, -, hclassifies⟩ := hanswers [.finite 2] (-1) "" {
    point := rfl
    status := rfl
    message := by with_unfolding_all rfl
    multipliers := .inr ⟨[.finite 0], rfl⟩ }
  refine ⟨framed_reachable, hbind, htolerance, himport, hclassifies (by decide) (by decide), ?_⟩
  with_unfolding_all rfl

end Solver

end NonlinearProgram
