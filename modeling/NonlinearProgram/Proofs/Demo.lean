import NonlinearProgram.Demo
import NonlinearProgram.Proofs.Benchmark.HockSchittkowski
import NonlinearProgram.Proofs.CommandLine
import NonlinearProgram.Proofs.Display
import NonlinearProgram.Proofs.Registry.Laziness
import NonlinearProgram.Proofs.Solver.Precedence

/-!
# The exit status of the demonstration

Whatever is asked for on the command line and whatever the library does, the demonstration ends
with 0 where a built-in backend comes to a success and with 2 otherwise, unless the result cannot be
shown: then it ends with 1, also after a success. The tolerance is the one that is the default, so
that a success is a point that is feasible for the problem within a millionth.
-/

namespace NonlinearProgram

open Scalar

variable {α : Type} [Scalar α]

def Imports.Plain (imports : Imports α) : Prop :=
  ∀ library e, imports library = .error e → e.kind.isA .importFailure = true

omit [Scalar α] in
theorem Imports.plain_only (installed : List String) : (only installed : Imports α).Plain := by
  intro library e h
  unfold only at h
  split at h
  · cases h
  · cases h
    rfl

theorem Method.exists_isAvailable {imports : Imports α} (himports : imports.Plain)
    (method : Method) : ∃ known, (method.backend : Backend α).isAvailable imports = .ok known := by
  rw [isAvailable_backend]
  cases himport : imports method.library with
  | ok _ => exact ⟨true, rfl⟩
  | error e => exact ⟨false, if_pos (himports _ _ himport)⟩

namespace Registry

/-- Names stand for the built-in backends and for no others. -/
def OnlyBuiltIn (r : Registry α) : Prop := ∀ name, r.registered? name = builtIn? name

theorem exists_method_of_builtIn? {name : String} {b : Backend α} (h : builtIn? name = some b) :
    ∃ method : Method, b = method.backend := by
  obtain ⟨method, -, hmethod⟩ := Option.map_eq_some_iff.1 h
  exact ⟨method, hmethod.symm⟩

variable {r : Registry α} {imports : Imports α}

theorem OnlyBuiltIn.seed (hr : r.Reachable) (h : r.OnlyBuiltIn) : r.seed.value.OnlyBuiltIn := by
  intro name
  rw [registered?_seed hr.nodup, h name]

theorem OnlyBuiltIn.exists_available (hr : r.Reachable) (h : r.OnlyBuiltIn)
    (himports : imports.Plain) : ∃ names, (r.available imports).value.2 = .ok names := by
  change ∃ names, availableNames r.seed.value.entries imports = .ok names
  rw [availableNames_eq]
  have hmarked : ∀ p ∈ r.seed.value.entries, ∃ marked,
      (do return (p.1, ← p.2.isAvailable imports) : Except (Error α) (String × Bool)) =
        .ok marked := by
    intro p hp
    have hget := Dictionary.get?_of_mem (nodup_seed hr.nodup).1 hp
    rw [get?_seed, h] at hget
    obtain ⟨method, hmethod⟩ := exists_method_of_builtIn? hget
    obtain ⟨known, hknown⟩ := method.exists_isAvailable himports
    rw [hmethod, hknown]
    exact ⟨_, rfl⟩
  obtain ⟨marked, hmarked⟩ := exists_mapM_eq_ok hmarked
  exact ⟨_, map_eq_ok_iff.2 ⟨marked, hmarked, rfl⟩⟩

end Registry

namespace Demo

open HockSchittkowski

variable {r : Registry Float} {arguments : CommandLine.Arguments} {around : Surroundings Float}

def dispatched (arguments : CommandLine.Arguments) (r : Registry Float)
    (around : Surroundings Float) : Except (Error Float) (Solver Float) :=
  (r.create (.text arguments.backend) around.imports assembled []
    (arguments.priority.map .text)).value.2

/-- The demonstration solves the problem where the dispatch succeeds, tells an error that is one of
this library, and stops at any other. -/
theorem value_start (arguments : CommandLine.Arguments) (r : Registry Float)
    (around : Surroundings Float) :
    ∃ threshold, (start arguments r around).value =
      match dispatched arguments r around with
      | .ok s => (solve threshold r.seed.value around assembled s).value
      | .error e =>
        if e.kind.isA .problem then (refuse threshold r.seed.value around.imports e).value
        else stop threshold r.seed.value e := by
  have hproblem : (problem : Attempt Float (Problem Float)).run.value = .ok assembled :=
    outcome_problem
  refine ⟨if arguments.verbose then Level.info else .warning, ?_⟩
  unfold start dispatched
  simp only [Logged.value_bind, hproblem]
  rw [← Registry.state_create (.text arguments.backend) around.imports assembled []
    (arguments.priority.map .text)]
  generalize (r.create (.text arguments.backend) around.imports assembled []
    (arguments.priority.map .text)).value = created
  obtain ⟨registry, created⟩ := created
  cases created with
  | ok s => rfl
  | error e =>
      by_cases he : e.kind.isA .problem = true
      · simp only [he, if_true]
      · simp only [he]
        rfl

theorem value_refuse (threshold : Level) (e : Error Float) {imports : Imports Float}
    {names : List String} (h : (r.available imports).value.2 = .ok names) :
    (refuse threshold r imports e).value.failure = none ∧
      (refuse threshold r imports e).value.exitCode = 2 := by
  unfold refuse
  rw [Logged.value_bind]
  generalize (r.available imports).value = available at h
  obtain ⟨registry, found⟩ := available
  subst h
  exact ⟨rfl, rfl⟩

theorem exists_shown_assembled : ∃ shown, Display.problem assembled = .ok shown := ⟨_, rfl⟩

/-- A result that is shown decides the exit status, and one that is not ends the demonstration. -/
theorem value_solve (threshold : Level) (r : Registry Float) (around : Surroundings Float)
    (s : Solver Float) :
    (∀ shown, Display.result (s.run around).2.value.2 = .ok shown →
      (solve threshold r around assembled s).value.failure = none ∧
      (solve threshold r around assembled s).value.exitCode =
        exitCode (s.run around).2.value.2) ∧
    ∀ e, Display.result (s.run around).2.value.2 = .error e →
      (solve threshold r around assembled s).value.failure = some e ∧
      (solve threshold r around assembled s).value.exitCode = 1 := by
  obtain ⟨before, hbefore⟩ := exists_shown_assembled
  unfold solve
  rw [hbefore]
  simp only [Logged.value_bind]
  constructor
  · intro shown h
    rw [h]
    exact ⟨rfl, rfl⟩
  · intro e h
    rw [h]
    exact ⟨rfl, rfl⟩

theorem le_twiceDifferentiable (tier : Tier) : tier ≤ .twiceDifferentiable := by
  cases tier <;> decide

/-- A dispatch that fails does so because nobody knows the backend or its library is missing. -/
theorem isA_problem_of_dispatched (hr : r.Reachable) (hbuiltIn : r.OnlyBuiltIn)
    (himports : around.imports.Plain) (hpriority : ∀ text, arguments.priority = some text →
      ∃ chosen, Priority.ofName? text = some chosen)
    {e : Error Float} (hfailed : dispatched arguments r around = .error e) :
    e.kind.isA .problem = true := by
  have hrefuses : r.Refuses arguments.backend around.imports assembled
      (arguments.priority.map .text) e := by
    rcases r.grants_or_refuses arguments.backend around.imports assembled
      (arguments.priority.map .text) with ⟨b, hb⟩ | ⟨e', he'⟩
    · obtain ⟨s, hs, -⟩ := hb.create hr.named []
      cases hfailed.symm.trans hs
    · cases hfailed.symm.trans (he'.create hr.named)
      exact he'
  clear hfailed
  cases hrefuses with
  | unregistered | unavailable => rfl
  | objective _ h => exact absurd (le_twiceDifferentiable _) h
  | @constraint b before after c hb _ hsplit _ h =>
      have hc : c ∈ assembled.constraints := by
        rw [hsplit]
        exact List.mem_append_right before List.mem_cons_self
      rcases List.mem_pair.1 hc with rfl | rfl
      · exact absurd (le_twiceDifferentiable _) h
      · exact absurd (le_twiceDifferentiable _) h
  | broken hb _ h =>
      rw [hbuiltIn] at hb
      obtain ⟨method, rfl⟩ := Registry.exists_method_of_builtIn? hb
      obtain ⟨known, hknown⟩ := method.exists_isAvailable himports
      cases h.isAvailable.symm.trans hknown
  | @priority b d hb _ _ hd h =>
      obtain ⟨text, htext, rfl⟩ := Option.map_eq_some_iff.1 hd
      obtain ⟨chosen, hchosen⟩ := hpriority text htext
      refine absurd (Priority.ofDatum?_isSome_iff.1 ?_) h
      rw [Priority.ofDatum?, hchosen]
      rfl

/-- A solver that is dispatched is a built-in backend bound to the problem, under the tolerance
that is the default. -/
theorem bind_of_dispatched (hbuiltIn : r.OnlyBuiltIn) {s : Solver Float}
    (h : dispatched arguments r around = .ok s) :
    ∃ method : Method, s.backend.identity = .builtIn method ∧ s.problem = assembled.freeze ∧
      s.feasibilityTolerance = .ok 1e-6 := by
  unfold dispatched at h
  cases hname : r.registered? arguments.backend with
  | none =>
      rw [Registry.value_create, Registry.find_seed, hname] at h
      cases h
  | some b =>
      rw [Registry.create_of_registered hname] at h
      rw [hbuiltIn] at hname
      obtain ⟨method, rfl⟩ := Registry.exists_method_of_builtIn? hname
      have hbind := Registry.bind_of_dispatch h
      obtain ⟨hbackend, hproblem⟩ := Solver.bind_eq_ok hbind
      refine ⟨method, ?_, hproblem, Solver.feasibilityTolerance_of_bind hbind⟩
      rw [hbackend, Solver.backend_identity]

/-- A solution has four finite coordinates of which each is at most a millionth outside its range,
as their product and the sum of their squares are, and the value of the objective there. -/
structure Solves (sol : Solution Float) (a b c d : Float) : Prop where
  point : sol.point = some (.vector [a, b, c, d])
  isFinite_point : ∀ v ∈ [a, b, c, d], isFinite v = true
  ranges : ∀ v ∈ [a, b, c, d], atMost (variableRange.distance v) 1e-6 = true
  product : atMost (productRange.distance (productValue [a, b, c, d])) 1e-6 = true
  squares : atMost (squaresRange.distance (squaresValue [a, b, c, d])) 1e-6 = true
  value : sol.value = objectiveValue [a, b, c, d]

theorem solves_of_run {method : Method} {s : Solver Float}
    (hmethod : s.backend.identity = .builtIn method) (hproblem : s.problem = assembled.freeze)
    (htolerance : s.feasibilityTolerance = .ok 1e-6) {sol : Solution Float}
    (hsol : (s.run around).2.value.2.solution? = some sol) : ∃ a b c d, Solves sol a b c d := by
  obtain ⟨xs, values, tolerance, hcertified, htolerance', hfeasible⟩ :=
    Solver.certifies_of_run around hmethod sol hsol
  rw [htolerance, Except.ok.injEq] at htolerance'
  subst htolerance'
  rw [hproblem] at hcertified hfeasible
  have hlength : xs.length = 4 := hcertified.length_point
  match xs, hlength with
  | [a, b, c, d], _ =>
      have hvalues : values = [productValue [a, b, c, d], squaresValue [a, b, c, d]] :=
        Except.ok.inj (hcertified.constraintValues_eq.symm.trans constraintValues_assembled)
      have hnumber : isNaN (1e-6 : Float) = false := by decide +kernel
      rw [hnumber] at hfeasible
      obtain ⟨hvariables, hproduct, hsquares⟩ := distances_of_isFeasible hcertified.isFinite_point
        (hvalues ▸ hcertified.isFinite_constraintValues) hfeasible
      obtain ⟨outputs, houtputs, hvalue⟩ := hcertified.value
      have hcompute : outputs = [objectiveValue [a, b, c, d]] :=
        Except.ok.inj (houtputs.symm.trans (compute_closedForm rfl))
      rw [hcompute] at hvalue
      exact ⟨a, b, c, d, hcertified.point, hcertified.isFinite_point, hvariables, hproduct,
        hsquares, (Option.some.inj hvalue).symm⟩

theorem start_of_error (hr : r.Reachable) (hbuiltIn : r.OnlyBuiltIn)
    (himports : around.imports.Plain) (hpriority : ∀ text, arguments.priority = some text →
      ∃ chosen, Priority.ofName? text = some chosen)
    {e : Error Float} (h : dispatched arguments r around = .error e) :
    (start arguments r around).value.failure = none ∧
      (start arguments r around).value.exitCode = 2 := by
  obtain ⟨threshold, hstart⟩ := value_start arguments r around
  obtain ⟨names, hnames⟩ :=
    Registry.OnlyBuiltIn.exists_available (.look hr) (hbuiltIn.seed hr) himports
  rw [hstart, h]
  simp only [if_pos (isA_problem_of_dispatched hr hbuiltIn himports hpriority h)]
  exact value_refuse threshold e hnames

theorem start_of_ok {s : Solver Float} (h : dispatched arguments r around = .ok s) :
    (∀ shown, Display.result (s.run around).2.value.2 = .ok shown →
      (start arguments r around).value.failure = none ∧
      (start arguments r around).value.exitCode = exitCode (s.run around).2.value.2) ∧
    ∀ e, Display.result (s.run around).2.value.2 = .error e →
      (start arguments r around).value.failure = some e ∧
      (start arguments r around).value.exitCode = 1 := by
  obtain ⟨threshold, hstart⟩ := value_start arguments r around
  rw [hstart, h]
  exact value_solve threshold r.seed.value around s

theorem isSuccess_of_exitCode {s : Solver Float} (h : dispatched arguments r around = .ok s)
    (hzero : (start arguments r around).value.exitCode = 0) :
    (s.run around).2.value.2.isSuccess = true := by
  obtain ⟨hshown, hunshown⟩ := start_of_ok h
  cases hresult : Display.result (s.run around).2.value.2 with
  | error e =>
      rw [(hunshown e hresult).2] at hzero
      cases hzero
  | ok shown =>
      rw [(hshown shown hresult).2, exitCode] at hzero
      by_contra hfailed
      rw [if_neg hfailed] at hzero
      cases hzero

/-- How the demonstration ends on some arguments. It ends with 0 or 2 by the result, unless that
cannot be shown: then an error ends it with 1, whatever the result is. -/
structure Ends (arguments : CommandLine.Arguments) (r : Registry Float)
    (around : Surroundings Float) (o : Outcome Float) : Prop where
  refused : ∀ e, dispatched arguments r around = .error e → o.failure = none ∧ o.exitCode = 2
  shown : ∀ s, dispatched arguments r around = .ok s →
    ¬Display.Unshowable (s.run around).2.value.2 →
    o.failure = none ∧ o.exitCode = if (s.run around).2.value.2.isSuccess then 0 else 2
  unshowable : ∀ s, dispatched arguments r around = .ok s →
    Display.Unshowable (s.run around).2.value.2 →
    (∃ e, o.failure = some e) ∧ o.exitCode = 1 ∧
      ∃ method : Method, s.backend.identity = .builtIn method ∧ method.library = "cyipopt"
  solves : o.exitCode = 0 → ∃ s sol a b c d, dispatched arguments r around = .ok s ∧
    (s.run around).2.value.2.solution? = some sol ∧ Solves sol a b c d

theorem ends_of_parse {words : List String} (hwords : CommandLine.parse words = .ok arguments)
    (hr : r.Reachable) (hbuiltIn : r.OnlyBuiltIn) (himports : around.imports.Plain) :
    (problem : Attempt Float (Problem Float)).outcome = .ok assembled ∧
      Ends arguments r around (run words r around).value := by
  have hrun : (run words r around).value = (start arguments r around).value := by
    rw [run, hwords]
  rw [hrun]
  refine ⟨outcome_problem, ?_, ?_, ?_, ?_⟩
  · intro e he
    exact start_of_error hr hbuiltIn himports (fun text => CommandLine.priority_of_parse hwords) he
  · intro s hs hshowable
    obtain ⟨method, hmethod, -⟩ := bind_of_dispatched hbuiltIn hs
    cases hresult : Display.result (s.run around).2.value.2 with
    | error e =>
        have hcertifies := Solver.certifies_of_run around hmethod
        exact absurd (Display.unshowable_of_result hcertifies hresult) hshowable
    | ok shown => exact (start_of_ok hs).1 shown hresult
  · intro s hs hunshowable
    obtain ⟨method, hmethod, -⟩ := bind_of_dispatched hbuiltIn hs
    obtain ⟨e, he⟩ := hunshowable.exists_result_eq_error
    obtain ⟨hfailure, hexit⟩ := (start_of_ok hs).2 e he
    exact ⟨⟨e, hfailure⟩, hexit, method, hmethod, Display.library_of_unshowable hmethod hunshowable⟩
  · intro hzero
    cases hdispatched : dispatched arguments r around with
    | error e =>
        rw [(start_of_error hr hbuiltIn himports
          (fun text => CommandLine.priority_of_parse hwords) hdispatched).2] at hzero
        cases hzero
    | ok s =>
        obtain ⟨method, hmethod, hproblem, htolerance⟩ := bind_of_dispatched hbuiltIn hdispatched
        have hsuccess := isSuccess_of_exitCode hdispatched hzero
        rw [Result.isSuccess_eq_isSome, Option.isSome_iff_exists] at hsuccess
        obtain ⟨sol, hsol⟩ := hsuccess
        obtain ⟨a, b, c, d, hsolves⟩ := solves_of_run hmethod hproblem htolerance hsol
        exact ⟨s, sol, a, b, c, d, rfl, hsol, hsolves⟩

/-- A library of either kind that ends near the optimum at once. The interior-point library, if it
is installed, reports its multipliers as a matrix. -/
def endingAtOptimum (installed : List String) : Surroundings Float where
  imports := .only installed
  minimizer := .finish {
    point := .vector [1.0, 4.7429994, 3.8211503, 1.3794082]
    success := .ok (.flag true)
    message := .ok (.text "done")
    iterations := some (.whole 1)
    status := .ok (.whole 0) }
  interior := .finish {
    point := .vector [1.0, 4.7429994, 3.8211503, 1.3794082]
    status := .whole 0
    message := .datum (.text "done")
    multipliers := .list [.vector [0.0, 0.0]] }
  procedure := fun _ => throw .problemFrozen

def accurateCobyla : Solver Float where
  backend := Method.cobyla.backend
  problem := assembled.freeze
  parameters := Solver.mergeOptions Method.cobyla.backend (Preset.linearApproximation .accuracy) []

/-- With the derivative-free method and a priority the demonstration ends with 0, and without the
interior-point library it ends with 2. -/
theorem ends_of_parse_cobyla :
    CommandLine.parse ["scipy-cobyla", "--priority=accuracy"] =
      .ok { backend := "scipy-cobyla", priority := some "accuracy" } ∧
    (run ["scipy-cobyla", "--priority=accuracy"] {} (endingAtOptimum ["scipy"])).value.exitCode =
      0 ∧
    (∃ sol a b c d,
      (accurateCobyla.run (endingAtOptimum ["scipy"])).2.value.2.solution? = some sol ∧
      Solves sol a b c d) ∧
    (run ["ipopt"] {} (endingAtOptimum ["scipy"])).value.exitCode = 2 := by
  have hwords : CommandLine.parse ["scipy-cobyla", "--priority=accuracy"] =
      .ok { backend := "scipy-cobyla", priority := some "accuracy" } := by
    with_unfolding_all rfl
  have hother : CommandLine.parse ["ipopt"] = .ok { backend := "ipopt" } := by
    with_unfolding_all rfl
  have hbuiltIn : ({} : Registry Float).OnlyBuiltIn := fun _ => rfl
  have hs : dispatched { backend := "scipy-cobyla", priority := some "accuracy" } {}
      (endingAtOptimum ["scipy"]) = .ok accurateCobyla := by
    with_unfolding_all rfl
  have hsuccess : (accurateCobyla.run (endingAtOptimum ["scipy"])).2.value.2.isSuccess = true := by
    decide +kernel
  have hmissing : dispatched { backend := "ipopt" } {} (endingAtOptimum ["scipy"]) =
      .error (.backendUnavailable "ipopt" (.text "cyipopt")) := by
    with_unfolding_all rfl
  have hplain : (endingAtOptimum ["scipy"]).imports.Plain := Imports.plain_only _
  have hends := (ends_of_parse hwords .empty hbuiltIn hplain).2
  have hrefused := (ends_of_parse hother .empty hbuiltIn hplain).2.refused _ hmissing
  have hshowable : ¬Display.Unshowable (accurateCobyla.run (endingAtOptimum ["scipy"])).2.value.2 :=
    fun h => absurd (Display.library_of_unshowable (Solver.backend_identity .cobyla) h) (by decide)
  have hzero := (hends.shown _ hs hshowable).2.trans (if_pos hsuccess)
  obtain ⟨s, sol, a, b, c, d, hs', hsol, hsolves⟩ := hends.solves hzero
  cases hs.symm.trans hs'
  exact ⟨hwords, hzero, ⟨sol, a, b, c, d, hsol, hsolves⟩, hrefused.2⟩

def plainIpopt : Solver Float where
  backend := Method.ipopt.backend
  problem := assembled.freeze
  parameters := Solver.mergeOptions Method.ipopt.backend [] []

/-- The dispatch succeeds, and so does the run, but the demonstration ends with 1. -/
theorem exitCode_run_matrix :
    CommandLine.parse ["ipopt"] = .ok { backend := "ipopt" } ∧
    dispatched { backend := "ipopt" } {} (endingAtOptimum ["cyipopt"]) = .ok plainIpopt ∧
    (plainIpopt.run (endingAtOptimum ["cyipopt"])).2.value.2.isSuccess = true ∧
    (run ["ipopt"] {} (endingAtOptimum ["cyipopt"])).value.exitCode = 1 := by
  refine ⟨by with_unfolding_all rfl, by with_unfolding_all rfl, by decide +kernel, ?_⟩
  decide +kernel

end Demo

end NonlinearProgram
