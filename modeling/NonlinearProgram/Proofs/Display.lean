import NonlinearProgram.Display
import NonlinearProgram.Proofs.Solver.Classification

/-!
# What can be shown

A certified success can be shown unless it comes with multipliers that are no vector, and any other
result unless its reason is no text. Minimisers report neither, so what cannot be shown comes from
an interior-point library.
-/

namespace NonlinearProgram

variable {α : Type} [Scalar α]

namespace Display

/-- A result that cannot be shown: a reason or a message that is not a text, or multipliers that
are not a vector. -/
inductive Unshowable : Result α → Prop
  | reason {reason : Datum α} (h : ∀ text, reason ≠ .text text) : Unshowable (.noSolution reason)
  | message {message : Datum α} (h : ∀ text, message ≠ .text text) : Unshowable (.failed message)
  | multipliers {r : Result α} {sol : Solution α} {t : Tensor α} (hsol : r.solution? = some sol)
      (ht : sol.multipliers = some t) (hentries : t.entries ≠ []) (h : ∀ n, t.shape ≠ [n]) :
      Unshowable r

omit [Scalar α] in
theorem literal_eq_error {d : Datum α} {e : Error α} (h : literal d = .error e) :
    ∀ text, d ≠ .text text := by
  rintro text rfl
  cases h

theorem numberLine_eq_error {label : String} {digits : Nat} {t : Tensor α} {e : Error α}
    (h : numberLine label digits (some t) = .error e) :
    t.entries ≠ [] ∧ ∀ n, t.shape ≠ [n] := by
  simp only [numberLine] at h
  by_cases hempty : t.entries.isEmpty = true
  · rw [if_pos hempty] at h
    cases h
  · rw [if_neg hempty] at h
    refine ⟨by simpa using hempty, fun n hn => ?_⟩
    unfold bracketed at h
    rw [hn] at h
    cases h

theorem numberLine_vector (label : String) (digits : Nat) (xs : List α) :
    ∃ lines, numberLine label digits (some (.vector xs)) = .ok lines := by
  cases hline : numberLine label digits (some (.vector xs)) with
  | ok lines => exact ⟨lines, rfl⟩
  | error e => exact absurd rfl ((numberLine_eq_error hline).2 xs.length)

theorem solutionBody_eq_error {sol : Solution α} {p : Problem α} {xs values : List α} {e : Error α}
    (hsol : sol.CertifiedAt p xs values) (h : solutionBody sol = .error e) :
    ∃ t, sol.multipliers = some t ∧ t.entries ≠ [] ∧ ∀ n, t.shape ≠ [n] := by
  obtain ⟨lines, hlines⟩ := numberLine_vector "g(x) = " 8 values
  cases hmultipliers : sol.multipliers with
  | none =>
      simp only [solutionBody, solutionLines, hsol.point, hsol.constraintValues, hmultipliers,
        hlines] at h
      cases h
  | some t =>
      cases hline : numberLine "lambda = " 6 (some t) with
      | error e => exact ⟨t, rfl, numberLine_eq_error hline⟩
      | ok line =>
          simp only [solutionBody, solutionLines, hsol.point, hsol.constraintValues, hmultipliers,
            hlines, hline] at h
          cases h

theorem result_eq_error_iff {r : Result α} {e : Error α} :
    result r = .error e ↔ resultPanel r = .error e := by
  unfold result
  cases resultPanel r with
  | error e' => exact ⟨congrArg _ ∘ Except.error.inj, congrArg _ ∘ Except.error.inj⟩
  | ok panel => exact ⟨nofun, nofun⟩

/-- Where the successes are certified, showing a result fails only where it cannot be shown. -/
theorem unshowable_of_result {s : Solver α} {r : Result α} {e : Error α} (hr : s.Certifies r)
    (h : result r = .error e) : Unshowable r := by
  rw [result_eq_error_iff] at h
  have hsuccess : ∀ sol, r.solution? = some sol → solutionBody sol = .error e → Unshowable r := by
    intro sol hsol hbody
    obtain ⟨xs, values, -, hcertified, -⟩ := hr sol hsol
    obtain ⟨t, ht, hentries, hshape⟩ := solutionBody_eq_error hcertified hbody
    exact .multipliers hsol ht hentries hshape
  cases r with
  | solved sol =>
      rcases bind_eq_error_iff.1 h with h | ⟨body, -, h⟩
      · exact hsuccess sol rfl h
      · cases h
  | solvedWithWarnings sol warnings =>
      rcases bind_eq_error_iff.1 h with h | ⟨body, -, h⟩
      · exact hsuccess sol rfl h
      · cases h
  | noSolution reason =>
      rcases bind_eq_error_iff.1 h with h | ⟨body, -, h⟩
      · exact .reason (literal_eq_error h)
      · cases h
  | failed message =>
      rcases bind_eq_error_iff.1 h with h | ⟨body, -, h⟩
      · exact .message (literal_eq_error h)
      · cases h

omit [Scalar α] in
theorem exists_literal_eq_error {d : Datum α} (h : ∀ text, d ≠ .text text) :
    ∃ e, literal d = .error e := by
  cases d with
  | text text => exact absurd rfl (h text)
  | _ => exact ⟨_, rfl⟩

theorem exists_numberLine_eq_error {t : Tensor α} (hentries : t.entries ≠ [])
    (hshape : ∀ n, t.shape ≠ [n]) (label : String) (digits : Nat) :
    ∃ e, numberLine label digits (some t) = .error e := by
  have hempty : ¬t.entries.isEmpty = true := by simpa using hentries
  simp only [numberLine, if_neg hempty]
  unfold bracketed
  split
  · next n hn => exact absurd hn (hshape n)
  · exact ⟨_, rfl⟩

/-- Multipliers that cannot be shown let the whole solution fail, if nothing before them does. -/
theorem exists_solutionBody_eq_error {sol : Solution α} {t : Tensor α}
    (ht : sol.multipliers = some t) (hentries : t.entries ≠ []) (hshape : ∀ n, t.shape ≠ [n]) :
    ∃ e, solutionBody sol = .error e := by
  obtain ⟨e, hline⟩ := exists_numberLine_eq_error hentries hshape "lambda = " 6
  unfold solutionBody solutionLines
  rw [ht, hline]
  cases sol.point with
  | none => exact ⟨_, rfl⟩
  | some point =>
      dsimp only
      cases bracketed 8 point with
      | error e' => exact ⟨e', rfl⟩
      | ok point =>
          cases numberLine "g(x) = " 8 sol.constraintValues with
          | error e' => exact ⟨e', rfl⟩
          | ok values => exact ⟨e, rfl⟩

theorem Unshowable.exists_result_eq_error {r : Result α} (h : Unshowable r) :
    ∃ e, result r = .error e := by
  simp only [result_eq_error_iff]
  cases h with
  | reason h =>
      obtain ⟨e, he⟩ := exists_literal_eq_error h
      exact ⟨e, bind_eq_error_iff.2 (.inl he)⟩
  | message h =>
      obtain ⟨e, he⟩ := exists_literal_eq_error h
      exact ⟨e, bind_eq_error_iff.2 (.inl he)⟩
  | @multipliers r sol t hsol ht hentries hshape =>
      obtain ⟨e, he⟩ := exists_solutionBody_eq_error ht hentries hshape
      cases r with
      | solved sol' | solvedWithWarnings sol' =>
          cases hsol
          exact ⟨e, bind_eq_error_iff.2 (.inl he)⟩
      | noSolution reason | failed message => cases hsol

omit [Scalar α] in
theorem not_unshowable_of_text {r : Result α} {text : String}
    (hr : r = .noSolution (.text text) ∨ r = .failed (.text text)) : ¬Unshowable r := by
  rintro (⟨h⟩ | ⟨h⟩ | ⟨hsol, -, -, -⟩)
  · rcases hr with hr | hr
    · cases hr
      exact h text rfl
    · cases hr
  · rcases hr with hr | hr
    · cases hr
    · cases hr
      exact h text rfl
  · rcases hr with rfl | rfl
    · cases hsol
    · cases hsol

omit [Scalar α] in
theorem not_unshowable_of_solution {r : Result α} {sol : Solution α}
    (hsol : r.solution? = some sol) (hmultipliers : sol.multipliers = none) : ¬Unshowable r := by
  rintro (⟨h⟩ | ⟨h⟩ | ⟨hsol', ht, -, -⟩)
  · cases hsol
  · cases hsol
  · cases hsol.symm.trans hsol'
    cases hmultipliers.symm.trans ht

theorem not_unshowable_of_conclude {s : Solver α} {x : Datum α} {report : RunReport α}
    {r : Result α} (hreport : report.multipliers = .nothing)
    (h : (s.conclude x report).outcome = .ok r) : ¬Unshowable r := by
  rcases Solver.failed_or_checked_of_conclude h with
    ⟨text, rfl⟩ | ⟨t, value, values, violation, tolerance, -, ⟨-, rfl⟩ | ⟨-, h⟩⟩
  · exact not_unshowable_of_text (.inr rfl)
  · exact not_unshowable_of_text (.inl rfl)
  · obtain ⟨sol, hsol, hr⟩ := Solver.solution?_of_accept h
    refine not_unshowable_of_solution hr ?_
    obtain ⟨multipliers, hmultipliers, hsol⟩ := bind_eq_ok_iff.1 hsol
    rw [hreport] at hmultipliers
    cases hmultipliers
    cases hsol
    rfl

theorem not_unshowable_of_concludeMinimizer {s : Solver α} {method : Method}
    {model : MinimizerModel α} {outcome : MinimizerOutcome α} {r : Result α}
    (h : (s.concludeMinimizer method model outcome).outcome = .ok r) : ¬Unshowable r := by
  obtain ⟨warnings, -, h⟩ := Attempt.outcome_bind_eq_ok_iff.1 h
  obtain ⟨success, -, h⟩ := Attempt.outcome_bind_eq_ok_iff.1 h
  obtain ⟨message, -, h⟩ := Attempt.outcome_bind_eq_ok_iff.1 h
  obtain ⟨iterations, -, h⟩ := Attempt.outcome_bind_eq_ok_iff.1 h
  exact not_unshowable_of_conclude rfl h

theorem not_unshowable_of_runMinimizer {s : Solver α} {method : Method}
    {around : Surroundings α} {r : Result α}
    (h : (s.runMinimizer around method).2.outcome = .ok r) : ¬Unshowable r := by
  unfold Solver.runMinimizer at h
  split at h
  · cases h
  · next model _ =>
      cases hend : (around.minimizer.run MinimizerModel.serve model).2.2 with
      | error e =>
          simp only [hend] at h
          cases h
      | ok outcome =>
          simp only [hend] at h
          exact not_unshowable_of_concludeMinimizer h

/-- Only an interior-point library reports multipliers, or a message that is handed on as it is, so
what a minimiser comes to can be shown. -/
theorem library_of_unshowable {s : Solver α} {method : Method} {around : Surroundings α}
    (hmethod : s.backend.identity = .builtIn method)
    (h : Unshowable (s.run around).2.value.2) : method.library = "cyipopt" := by
  rw [(Solver.run_builtIn around hmethod).2] at h
  cases houtcome : (s.runMethod around method).2.outcome with
  | error e =>
      rw [houtcome] at h
      exact absurd h (not_unshowable_of_text (.inr rfl))
  | ok r =>
      rw [houtcome] at h
      cases method with
      | slsqp | trustConstr | cobyla => exact absurd h (not_unshowable_of_runMinimizer houtcome)
      | ipopt | ipoptExact => rfl

end Display

end NonlinearProgram
