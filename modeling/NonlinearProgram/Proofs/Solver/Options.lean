import NonlinearProgram.Proofs.Solver.Precedence
import NonlinearProgram.Proofs.Solver.Repetition

/-!
# Which options a library gets

A library is handed the options of its solver and no others, each once and by the name that the
library uses, without those that are not meant for it. Interior-point libraries get two options
beside them: approximated Hessians are asked for whatever the user gave, and user scaling is asked
for where a scale differs from one and the user did not choose. The options of the solver stay what
they are, so every run hands over the same.
-/

namespace NonlinearProgram

open Dictionary

variable {α : Type} [Scalar α]

def Problem.HasScales (p : Problem α) : Prop :=
  ∃ scale ∈ p.componentScales, Scalar.equal scale 1.0 = false

instance (p : Problem α) : Decidable p.HasScales :=
  inferInstanceAs (Decidable (∃ scale ∈ p.componentScales, Scalar.equal scale 1.0 = false))

def Handover.options : Handover α → Options α
  | .minimizer model => model.options
  | .interior model => model.options

omit [Scalar α] in
theorem Backend.optionName_notMem_aliases {b : Backend α}
    (h : ∀ p ∈ b.aliases, p.2 ∉ keys b.aliases) (key : String) :
    b.optionName key ∉ keys b.aliases := by
  unfold optionName
  cases hkey : b.aliases.get? key with
  | some option => exact h _ (mem_of_get? hkey)
  | none => exact get?_eq_none_iff.1 hkey

omit [Scalar α] in
/-- An option that has no other name and is none is told by its name. -/
theorem Backend.optionName_eq_iff {b : Backend α} {option : String}
    (h : ∀ p ∈ b.aliases, p.1 ≠ option ∧ p.2 ≠ option) {key : String} :
    b.optionName key = option ↔ key = option := by
  unfold optionName
  cases hkey : b.aliases.get? key with
  | some other =>
      obtain ⟨hname, hoption⟩ := h _ (mem_of_get? hkey)
      exact ⟨fun h => absurd h hoption, fun h => absurd h hname⟩
  | none => rfl

theorem Method.notMem_aliases (method : Method) :
    ∀ p ∈ (method.backend : Backend α).aliases,
      p.2 ∉ keys (method.backend : Backend α).aliases := by
  cases method with
  | _ => simp [keys, Method.backend]

theorem Method.library_eq (method : Method) :
    method.library = "scipy" ∨ method.library = "cyipopt" := by
  cases method with
  | _ => simp [Method.library]

namespace Solver

variable {s : Solver α} {p : Problem α} {method : Method} {explicit : Options α}
  {priority : Option (Datum α)}

theorem keys_parameters (hs : (bind method.backend p explicit priority).outcome = .ok s) :
    (keys s.parameters).Nodup ∧
      ∀ key ∈ keys s.parameters, key ∉ keys (method.backend : Backend α).aliases := by
  obtain ⟨preset, -, hparameters⟩ := parameters_of_bind hs
  rw [hparameters]
  refine ⟨nodup_keys_rename _ _, fun key hkey => ?_⟩
  obtain ⟨spelling, -, rfl⟩ := mem_keys_rename.1 hkey
  exact Backend.optionName_notMem_aliases method.notMem_aliases spelling

theorem scaling_notMem_presetsOf (method : Method) (chosen : Priority) :
    "nlp_scaling_method" ∉ keys (presetsOf method chosen : Options α) := by
  cases method with
  | _ =>
      cases chosen with
      | _ =>
          simp [keys, presetsOf, Preset.sequentialQuadratic, Preset.trustRegion,
            Preset.linearApproximation, Preset.interiorPoint]

theorem libraryOptions_nil (s : Solver α) :
    s.libraryOptions [] = s.parameters.without s.backend.coreKeys :=
  without_nil _

/-- No default and no preset of an interior-point backend chooses a scaling, and no other name
stands for the choice. -/
theorem get?_scaling_eq_none_iff (hlibrary : method.library = "cyipopt")
    (hs : (bind method.backend p explicit priority).outcome = .ok s) :
    (s.libraryOptions []).get? "nlp_scaling_method" = none ↔
      "nlp_scaling_method" ∉ keys explicit := by
  obtain ⟨preset, hpreset, hparameters⟩ := parameters_of_bind hs
  have hname (key : String) : (method.backend : Backend α).optionName key =
      "nlp_scaling_method" ↔ key = "nlp_scaling_method" := by
    refine Backend.optionName_eq_iff ?_
    cases method with
    | slsqp | trustConstr | cobyla => simp [Method.library] at hlibrary
    | ipopt | ipoptExact => simp [Method.backend]
  have hspells (layer : Options α) :
      Spells (method.backend : Backend α).optionName "nlp_scaling_method" layer ↔
        "nlp_scaling_method" ∈ keys layer := by
    simp only [Spells, hname, exists_eq_right]
  have hcore : "nlp_scaling_method" ∉ s.backend.coreKeys := by
    rw [(bind_eq_ok hs).1]
    cases method with
    | _ => simp [Method.backend]
  have hdefault : "nlp_scaling_method" ∉ keys (method.backend : Backend α).defaults := by
    cases method with
    | _ => simp [keys, Method.backend]
  have hpresets : "nlp_scaling_method" ∉ keys preset := by
    rcases preset_of_builtIn hpreset with rfl | ⟨chosen, rfl⟩
    · exact List.not_mem_nil
    · exact scaling_notMem_presetsOf method chosen
  rw [libraryOptions_nil, get?_without, if_neg hcore, hparameters, mergeOptions_eq,
    get?_rename_layered_eq_none_iff]
  simp [hspells, hpresets, hdefault]

theorem scalingFactors_eq (p : Problem α) :
    scalingFactors p = if p.HasScales then some (1.0, p.componentScales) else none := by
  refine if_congr ?_ rfl rfl
  simp [Problem.HasScales]

def beforeScaling (s : Solver α) (exact : Bool) : Options α :=
  if exact then s.libraryOptions []
  else put "hessian_approximation" (.text "limited-memory") (s.libraryOptions [])

theorem get?_beforeScaling (s : Solver α) (exact : Bool) (key : String) :
    (s.beforeScaling exact).get? key =
      if exact = false ∧ key = "hessian_approximation" then some (.text "limited-memory")
      else (s.libraryOptions []).get? key := by
  cases exact with
  | true => simp [beforeScaling]
  | false => simp [beforeScaling, get?_put]

theorem interiorOptions_eq (s : Solver α) (exact : Bool) : s.interiorOptions exact =
    if s.problem.HasScales ∧ (s.libraryOptions []).get? "nlp_scaling_method" = none then
      put "nlp_scaling_method" (.text "user-scaling") (s.beforeScaling exact)
    else s.beforeScaling exact := by
  refine if_congr ?_ rfl rfl
  change ((scalingFactors s.problem).isSome &&
    ((s.beforeScaling exact).get? "nlp_scaling_method").isNone) = true ↔ _
  rw [get?_beforeScaling, if_neg (by simp), scalingFactors_eq]
  by_cases hscales : s.problem.HasScales <;> simp [hscales]

theorem get?_interiorOptions (s : Solver α) (exact : Bool) (key : String) :
    (s.interiorOptions exact).get? key =
      if exact = false ∧ key = "hessian_approximation" then some (.text "limited-memory")
      else if s.problem.HasScales ∧ (s.libraryOptions []).get? "nlp_scaling_method" = none ∧
        key = "nlp_scaling_method" then some (.text "user-scaling")
      else (s.libraryOptions []).get? key := by
  rw [interiorOptions_eq, apply_ite (fun options => get? options key), get?_put,
    get?_beforeScaling]
  by_cases hkey : key = "nlp_scaling_method"
  · subst hkey
    simp
  · simp [hkey]

/-- The options for an interior-point library come by names of the solver's own options and by two
others. -/
theorem mem_keys_interiorOptions {exact : Bool} {key : String}
    (h : key ∈ keys (s.interiorOptions exact)) :
    key ∈ keys (s.libraryOptions []) ∨ key = "hessian_approximation" ∨
      key = "nlp_scaling_method" := by
  by_contra hother
  rw [not_or, not_or, ← get?_eq_none_iff] at hother
  obtain ⟨hnone, hhessian, hscaling⟩ := hother
  refine get?_eq_none_iff.1 ?_ h
  rw [get?_interiorOptions, if_neg fun h => hhessian h.2, if_neg fun h => hscaling h.2.2, hnone]

theorem nodup_keys_interiorOptions (h : (keys (s.libraryOptions [])).Nodup) (exact : Bool) :
    (keys (s.interiorOptions exact)).Nodup := by
  have hbefore : (keys (s.beforeScaling exact)).Nodup := by
    cases exact with
    | true => exact h
    | false => exact nodup_keys_put h _ _
  rw [interiorOptions_eq]
  split
  · exact nodup_keys_put hbefore _ _
  · exact hbefore

theorem options_of_minimizer {handover : Handover α} (hlibrary : method.library = "scipy")
    (h : s.handover method = .ok handover) : handover.options = s.libraryOptions [] := by
  cases method with
  | slsqp | trustConstr | cobyla =>
      obtain ⟨model, hmodel, h⟩ := bind_eq_ok_iff.1 h
      obtain ⟨blocks, -, hmodel⟩ := bind_eq_ok_iff.1 hmodel
      cases hmodel
      cases h
      rfl
  | ipopt | ipoptExact => simp [Method.library] at hlibrary

theorem handover_of_interior (hlibrary : method.library = "cyipopt") :
    ∃ exact, s.handover method = .ok (.interior (s.interiorModel exact)) ∧
      (exact = false ↔ method = .ipopt) := by
  cases method with
  | slsqp | trustConstr | cobyla => simp [Method.library] at hlibrary
  | ipopt => exact ⟨false, rfl, by simp⟩
  | ipoptExact => exact ⟨true, rfl, by simp⟩

/-- The options of a bound solver that are meant for its library come once each, by the library's
own names. -/
theorem keys_libraryOptions (hs : (bind method.backend p explicit priority).outcome = .ok s) :
    (keys (s.libraryOptions [])).Nodup ∧ ∀ key ∈ keys (s.libraryOptions []),
      key ∉ (method.backend : Backend α).coreKeys ∧
        key ∉ keys (method.backend : Backend α).aliases := by
  obtain ⟨hnodup, haliases⟩ := keys_parameters hs
  rw [libraryOptions_nil, keys_without, (bind_eq_ok hs).1]
  refine ⟨hnodup.filter _, fun key hkey => ?_⟩
  obtain ⟨hmem, hcore⟩ := List.mem_filter.1 hkey
  exact ⟨by simpa using hcore, haliases key hmem⟩

/-- The options of every handover come once each, by the library's own names, and none of them is
kept from the library. -/
theorem keys_options (hs : (bind method.backend p explicit priority).outcome = .ok s)
    {handover : Handover α} (h : s.handover method = .ok handover) :
    (keys handover.options).Nodup ∧ ∀ key ∈ keys handover.options,
      key ∉ (method.backend : Backend α).coreKeys ∧
        key ∉ keys (method.backend : Backend α).aliases := by
  obtain ⟨hnodup, hkeys⟩ := keys_libraryOptions hs
  rcases method.library_eq with hlibrary | hlibrary
  · rw [options_of_minimizer hlibrary h]
    exact ⟨hnodup, hkeys⟩
  · obtain ⟨exact, hinterior, -⟩ := handover_of_interior (s := s) hlibrary
    cases hinterior.symm.trans h
    refine ⟨nodup_keys_interiorOptions hnodup exact, fun key hkey => ?_⟩
    rcases mem_keys_interiorOptions hkey with hkey | rfl | rfl
    · exact hkeys key hkey
    · cases method with
      | _ => simp [keys, Method.backend]
    · cases method with
      | _ => simp [keys, Method.backend]

/-- An interior-point library is handed some options, two others beside them, and scales as factors.
User scaling is asked for where the user gave no such option. -/
structure Adds (method : Method) (p : Problem α) (explicit own : Options α)
    (model : InteriorModel α) : Prop where
  options : ∀ key, model.options.get? key =
    if method = .ipopt ∧ key = "hessian_approximation" then some (.text "limited-memory")
    else if p.HasScales ∧ "nlp_scaling_method" ∉ keys explicit ∧ key = "nlp_scaling_method" then
      some (.text "user-scaling")
    else own.get? key
  scaling : model.scaling = if p.HasScales then some (1.0, p.componentScales) else none

/-- A solver of a built-in backend, bound to a problem with options of a user's, hands its own
options to its library, in every run the same. -/
structure Forwards (s : Solver α) (method : Method) (p : Problem α) (explicit : Options α)
    (handover : Handover α) : Prop where
  handover_eq : s.handover method = .ok handover
  nodup_keys : (keys handover.options).Nodup
  notMem_coreKeys : ∀ key ∈ keys handover.options, key ∉ (method.backend : Backend α).coreKeys
  notMem_aliases : ∀ key ∈ keys handover.options, key ∉ keys (method.backend : Backend α).aliases
  minimizer : method.library = "scipy" →
    handover.options = s.parameters.without (method.backend : Backend α).coreKeys
  interior : method.library = "cyipopt" → ∃ model, handover = .interior model ∧
    Adds method p explicit (s.parameters.without (method.backend : Backend α).coreKeys) model
  parameters_runs : ∀ arounds, (s.runs arounds).1.parameters = s.parameters
  contacts_runs : ∀ arounds, (s.runs arounds).2.map (·.1) = arounds.map fun around =>
    (around.imports method.library).toOption.map fun _ => ⟨handover, around.transcript handover⟩

/-- The contact of a run that is handed a model: there is one where the library can be imported. -/
theorem contact_of_handover {around : Surroundings α} {handover : Handover α}
    (h : s.handover method = .ok handover) :
    (s.runMethod around method).1 =
      (around.imports method.library).toOption.map fun _ =>
        ⟨handover, around.transcript handover⟩ := by
  cases himport : around.imports method.library with
  | error e => rw [runMethod_of_import_error himport]; rfl
  | ok _ => rw [runMethod_of_handover himport h]; rfl

theorem exists_forwards_of_bind [LawfulScalar α] (hp : p.Reachable)
    (hs : (bind method.backend p explicit priority).outcome = .ok s) :
    ∃ handover, s.Forwards method p explicit handover := by
  obtain ⟨handover, hhandover⟩ := exists_handover (wellFormed_of_bind hp hs) method
  obtain ⟨hnodup, hkeys⟩ := keys_options hs hhandover
  obtain ⟨hbackend, hproblem⟩ := bind_eq_ok hs
  have hmethod := identity_of_bind hs
  have hown : s.libraryOptions [] =
      s.parameters.without (method.backend : Backend α).coreKeys := by
    rw [libraryOptions_nil, hbackend]
  refine ⟨handover, hhandover, hnodup, fun key hkey => (hkeys key hkey).1,
    fun key hkey => (hkeys key hkey).2, fun hlibrary => ?_, fun hlibrary => ?_,
    fun arounds => ?_, fun arounds => ?_⟩
  · rw [options_of_minimizer hlibrary hhandover, hown]
  · obtain ⟨exact, hinterior, hexact⟩ := handover_of_interior (s := s) hlibrary
    cases hinterior.symm.trans hhandover
    have hscales : s.problem.HasScales ↔ p.HasScales := by
      rw [hproblem]
      rfl
    have hchosen := get?_scaling_eq_none_iff hlibrary hs
    refine ⟨_, rfl, fun key => (get?_interiorOptions s exact key).trans ?_,
      (scalingFactors_eq s.problem).trans (if_congr hscales (by rw [hproblem]; rfl) rfl)⟩
    rw [hown] at hchosen ⊢
    exact if_congr (and_congr_left' hexact) rfl
      (if_congr (and_congr hscales (and_congr_left' hchosen)) rfl rfl)
  · rw [runs_builtIn hmethod]
  · rw [runs_builtIn hmethod, List.map_map]
    refine List.map_congr_left fun around _ => ?_
    exact (run_builtIn around hmethod).1.trans (contact_of_handover hhandover)

/-- Options of a user's, one by another name, one that the backend overrules, and one that is not
meant for the library. -/
def tuning : Options Exact :=
  [("maxiter", .whole 7), ("hessian_approximation", .text "exact"),
    ("feasibility_tolerance", .number (.finite 1))]

def tunedSolver : Solver Exact where
  backend := Method.ipopt.backend
  problem := boxed.freeze
  parameters := mergeOptions Method.ipopt.backend [] tuning

/-- The library is asked for approximated Hessians and for the user's scaling, and is not told of
the tolerance. -/
theorem exists_forwards_of_bind_boxed :
    boxed.Reachable ∧
    (bind Method.ipopt.backend boxed tuning none).outcome = .ok tunedSolver ∧
    ∃ model, tunedSolver.handover .ipopt = .ok (.interior model) ∧
      model.options.get? "max_iter" = some (.whole 7) ∧
      model.options.get? "hessian_approximation" = some (.text "limited-memory") ∧
      model.options.get? "nlp_scaling_method" = some (.text "user-scaling") ∧
      model.options.get? "feasibility_tolerance" = none ∧
      model.scaling = some (1.0, [.finite 2, .finite 3]) := by
  have hs : (bind Method.ipopt.backend boxed tuning none).outcome = .ok tunedSolver := by
    with_unfolding_all rfl
  have hscales : boxed.HasScales := ⟨.finite 2, List.mem_cons_self, by decide +kernel⟩
  obtain ⟨_, hforwards⟩ := exists_forwards_of_bind boxed_reachable hs
  obtain ⟨model, rfl, hadds⟩ := hforwards.interior rfl
  refine ⟨boxed_reachable, hs, model, hforwards.handover_eq, ?_, ?_, ?_, ?_, ?_⟩
  · rw [hadds.options, if_neg (by simp), if_neg (by simp)]
    rfl
  · rw [hadds.options, if_pos ⟨rfl, rfl⟩]
  · rw [hadds.options, if_neg (by simp), if_pos ⟨hscales, by simp [keys, tuning], rfl⟩]
  · rw [hadds.options, if_neg (by simp), if_neg (by simp)]
    rfl
  · rw [hadds.scaling, if_pos hscales]
    rfl

end Solver

end NonlinearProgram
