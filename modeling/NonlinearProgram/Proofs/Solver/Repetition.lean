import NonlinearProgram.Proofs.Solver.Classification

/-!
# One run after another

A backend hands over counters anew for each run, and after the run they hold how often the objective
and its gradient were called. Of a run only the result is kept, and no run reads it, so a run after
others is the run that a new backend would make.
-/

namespace NonlinearProgram

variable {α : Type} [Scalar α]

namespace Solver

variable {s : Solver α} {method : Method} {around : Surroundings α} {r : Result α}
  {sol : Solution α}

theorem counts_of_conclude {x : Datum α} {report : RunReport α}
    (h : (s.conclude x report).outcome = .ok r) (hsol : r.solution? = some sol) :
    sol.functionEvals = report.functionEvals ∧ sol.gradientEvals = report.gradientEvals := by
  rcases failed_or_checked_of_conclude h with
    ⟨text, rfl⟩ | ⟨t, value, values, violation, tolerance, -, ⟨-, rfl⟩ | ⟨-, h⟩⟩
  · cases hsol
  · cases hsol
  · obtain ⟨sol', hsol', hr⟩ := solution?_of_accept h
    rw [hsol, Option.some.injEq] at hr
    subst hr
    obtain ⟨multipliers, -, hsol⟩ := bind_eq_ok_iff.1 hsol'
    rw [pure_eq_ok_iff] at hsol
    subst hsol
    exact ⟨rfl, rfl⟩

theorem Concludes.counts {values gradients : Nat} (h : s.Concludes values gradients r)
    (hsol : r.solution? = some sol) :
    sol.functionEvals = .whole values ∧ sol.gradientEvals = .whole gradients := by
  rcases h with hnone | ⟨x, report, h, hvalues, hgradients⟩
  · rw [hnone] at hsol
    cases hsol
  · obtain ⟨hfunction, hgradient⟩ := counts_of_conclude h hsol
    exact ⟨hfunction.trans hvalues, hgradient.trans hgradients⟩

/-- Runs a solver once after another: the solver after all runs, and for each run what passed
between the backend and its library and the result. -/
def runs (s : Solver α) :
    List (Surroundings α) → Solver α × List (Option (Contact α) × Result α)
  | [] => (s, [])
  | around :: rest =>
    let run := s.run around
    let later := run.2.value.1.runs rest
    (later.1, (run.1, run.2.value.2) :: later.2)

/-- A run of a built-in backend does not read the result of a run before it. -/
theorem run_congr {t : Solver α} (hmethod : s.backend.identity = .builtIn method)
    (ht : t = { s with result := t.result }) (around : Surroundings α) :
    (t.run around).1 = (s.run around).1 ∧ (t.run around).2.value = (s.run around).2.value := by
  have ht' : t.backend.identity = .builtIn method := by
    rw [ht]
    exact hmethod
  have hrun : t.runMethod around method = s.runMethod around method := by
    rw [ht]
    cases method <;> rfl
  obtain ⟨hcontact, hvalue⟩ := run_builtIn around hmethod
  obtain ⟨hcontact', hvalue'⟩ := run_builtIn around ht'
  rw [hcontact, hcontact', hvalue, hvalue', hrun, ht]
  exact ⟨rfl, rfl⟩

/-- Runs after one another are the runs that the solver would make by itself, and of the solver
only the result changes. -/
theorem runs_builtIn (hmethod : s.backend.identity = .builtIn method)
    (arounds : List (Surroundings α)) :
    s.runs arounds =
      ({ s with result :=
          (arounds.getLast?.map fun around => (s.run around).2.value.2).or s.result },
        arounds.map fun around => ((s.run around).1, (s.run around).2.value.2)) := by
  induction arounds generalizing s with
  | nil => rfl
  | cons around rest ih =>
      have hkept : (s.run around).2.value.1 =
          { s with result := some (s.run around).2.value.2 } := by
        rw [(run_builtIn around hmethod).2]
      have hcongr := run_congr (s := s) (t := (s.run around).2.value.1) hmethod (by rw [hkept])
      have hidentity : (s.run around).2.value.1.backend.identity = .builtIn method := by
        rw [hkept]
        exact hmethod
      rw [runs, ih hidentity, List.map_cons]
      simp only [fun a => (hcongr a).1, fun a => (hcongr a).2]
      rw [hkept, List.getLast?_cons]
      cases rest.getLast? <;> rfl

theorem result_of_bind {b : Backend α} {p : Problem α} {explicit : Options α}
    {priority : Option (Datum α)} (h : (bind b p explicit priority).outcome = .ok s) :
    s.result = none := by
  obtain ⟨-, -, h⟩ := Attempt.outcome_bind_eq_ok_iff.1 h
  obtain ⟨preset, -, h⟩ := Attempt.outcome_bind_eq_ok_iff.1 h
  cases h
  rfl

/-- A backend that is bound to a problem which has been frozen is the one that was bound to the
problem before. -/
theorem bind_freeze {p : Problem α} {explicit : Options α} {priority : Option (Datum α)}
    (hs : (bind method.backend p explicit priority).outcome = .ok s) :
    (bind method.backend s.problem explicit priority).outcome = .ok s := by
  rw [(bind_eq_ok hs).2]
  exact hs

/-- A solution has the counts that are left of its run, and these count the calls of the objective
and of its gradient in this run. -/
structure CountsCalls (s : Solver α) (method : Method) (around : Surroundings α)
    (sol : Solution α) (handover : Handover α) : Prop where
  handover_eq : s.handover method = .ok handover
  contact_eq : (s.run around).1 = some ⟨handover, around.transcript handover⟩
  functionEvals_eq : sol.functionEvals = .whole (around.left handover).values
  values_eq : (around.left handover).values = Exchange.valueCount (around.transcript handover)
  gradientEvals_eq : sol.gradientEvals = .whole (around.left handover).gradients
  gradients_eq : (around.left handover).gradients =
    if method = .cobyla then 0 else Exchange.gradientCount (around.transcript handover)

theorem exists_countsCalls (hmethod : s.backend.identity = .builtIn method)
    (hsol : (s.run around).2.value.2.solution? = some sol) :
    ∃ handover, s.CountsCalls method around sol handover := by
  obtain ⟨hcontact, hvalue⟩ := run_builtIn around hmethod
  rw [hvalue] at hsol
  cases houtcome : (s.runMethod around method).2.outcome with
  | error e =>
      rw [houtcome] at hsol
      cases hsol
  | ok r =>
      rw [houtcome] at hsol
      obtain ⟨handover, hhandover, hrun, hconcludes⟩ := concludes_of_runMethod houtcome
      obtain ⟨hvalues, hgradients⟩ := hconcludes.counts hsol
      obtain ⟨hcalls, hgradientCalls⟩ := counts_left around hhandover
      exact ⟨handover, hhandover, hcontact.trans hrun, hvalues, hcalls, hgradients, hgradientCalls⟩

/-- Runs of a built-in backend, however the library goes about them, come to what a new backend
with the same problem and the same options comes to. Every run ends with a result, which is all that
is kept of it. -/
theorem runs_eq_map_run {p : Problem α} {explicit : Options α} {priority : Option (Datum α)}
    (hs : (bind method.backend p explicit priority).outcome = .ok s)
    (arounds : List (Surroundings α)) :
    (bind method.backend s.problem explicit priority).outcome = .ok s ∧
    s.runs arounds =
      ({ s with result := arounds.getLast?.map fun around => (s.run around).2.value.2 },
        arounds.map fun around => ((s.run around).1, (s.run around).2.value.2)) ∧
    ∀ around ∈ arounds,
      (s.run around).2.value.2 = s.resultOf (s.runMethod around method).2.outcome ∧
      ∀ sol, (s.run around).2.value.2.solution? = some sol →
        ∃ handover, s.CountsCalls method around sol handover := by
  have hmethod := identity_of_bind hs
  have hnone : s.result = none := result_of_bind hs
  refine ⟨bind_freeze hs, ?_, fun around _ => ⟨?_, fun sol => exists_countsCalls hmethod⟩⟩
  · rw [runs_builtIn hmethod, hnone, Option.or_none]
  · rw [(run_builtIn around hmethod).2]

/-- Surroundings in which an interior-point library asks for the value at two points, and for the
gradient and the constraints at one, before it stops. -/
def asking : Surroundings Exact where
  imports := .only ["cyipopt"]
  minimizer := .fail .problemFrozen
  interior :=
    .ask (.value (.vector [.finite 3])) fun _ =>
    .ask (.gradient (.vector [.finite 3])) fun _ =>
    .ask (.constraints (.vector [.finite 3])) fun _ =>
    .ask (.value (.vector [.finite 2])) fun _ => .finish {
      point := .vector [.finite 2]
      status := .whole 0
      message := .datum (.text "done")
      multipliers := .nothing }
  procedure := fun _ => throw .problemFrozen

def askedSolution : Solution Exact where
  point := some (.vector [.finite 2])
  value := .finite 4
  constraintValues := some (.vector [.finite 4])
  functionEvals := .whole 2
  gradientEvals := .whole 1

/-- A run that is made again after another has the counts that it had before. -/
theorem runs_eq_map_run_framed :
    (bind Method.ipoptExact.backend framed [] none).outcome = .ok exactSolver ∧
    ((exactSolver.runs [asking, stopping, asking]).2.map (·.2)) =
      [.solved askedSolution, .solvedWithWarnings stoppedSolution ["ipopt-td did not converge"],
        .solved askedSolution] ∧
    ∃ handover, (exactSolver.run asking).1 = some ⟨handover, asking.transcript handover⟩ ∧
      Exchange.valueCount (asking.transcript handover) = 2 ∧
      Exchange.gradientCount (asking.transcript handover) = 1 := by
  have hbind : (bind Method.ipoptExact.backend framed [] none).outcome = .ok exactSolver := by
    with_unfolding_all rfl
  have hasked : (exactSolver.run asking).2.value.2 = .solved askedSolution := by
    with_unfolding_all rfl
  have hstopped : (exactSolver.run stopping).2.value.2 =
      .solvedWithWarnings stoppedSolution ["ipopt-td did not converge"] := by
    with_unfolding_all rfl
  obtain ⟨-, hruns, hcounts⟩ := runs_eq_map_run hbind [asking, stopping, asking]
  obtain ⟨handover, hcounts⟩ :=
    (hcounts asking List.mem_cons_self).2 askedSolution (by rw [hasked]; rfl)
  refine ⟨hbind, ?_, handover, hcounts.contact_eq, ?_, ?_⟩
  · rw [hruns]
    simp only [List.map_cons, List.map_nil, hasked, hstopped]
  · have hvalues := hcounts.functionEvals_eq
    rw [hcounts.values_eq] at hvalues
    exact Int.ofNat.inj (Datum.whole.inj hvalues).symm
  · have hgradients := hcounts.gradientEvals_eq
    rw [hcounts.gradients_eq] at hgradients
    exact Int.ofNat.inj (Datum.whole.inj hgradients).symm

end Solver

end NonlinearProgram
