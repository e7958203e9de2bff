import NonlinearProgram.Proofs.Dictionary
import NonlinearProgram.Proofs.Solver.Dispatch
import NonlinearProgram.Proofs.Solver.Verdict

/-!
# Which options a solver gets

Explicit options are written over those of a preset, and these over the defaults, and other names
of options are replaced afterwards. So an explicit option wins where it has its way among the keys
for it. It does where the defaults and the preset have at most one key for the option, as those of
all built-in backends have; with two of them it can be lost. No default and no preset of these has
a word on the tolerance, so without explicit options it is what it is for all of them.
-/

namespace NonlinearProgram.Solver

open Dictionary

variable {α : Type} [Scalar α] {b : Backend α} {p : Problem α} {explicit : Options α}
  {priority : Option (Datum α)} {s : Solver α}

omit [Scalar α] in
theorem mergeOptions_eq (b : Backend α) (preset explicit : Options α) :
    mergeOptions b preset explicit =
      (layered [explicit, preset, b.defaults]).rename b.optionName := rfl

/-- A bound solver has the options of its backend, of the preset and of the user. -/
theorem parameters_of_bind (h : (bind b p explicit priority).outcome = .ok s) :
    ∃ preset, (presetOptions b priority).outcome = .ok preset ∧
      s.parameters = mergeOptions b preset explicit := by
  rw [outcome_bind] at h
  obtain ⟨⟨⟩, -, h⟩ := bind_eq_ok_iff.1 h
  obtain ⟨preset, hpreset, h⟩ := bind_eq_ok_iff.1 h
  rw [pure_eq_ok_iff] at h
  exact ⟨preset, hpreset, h ▸ rfl⟩

def presetsOf : Method → Priority → Options α
  | .slsqp => Preset.sequentialQuadratic
  | .trustConstr => Preset.trustRegion
  | .cobyla => Preset.linearApproximation
  | .ipopt | .ipoptExact => Preset.interiorPoint

theorem outcome_presetOptions_builtIn (method : Method) {d : Datum α} {chosen : Priority}
    (hd : Priority.ofDatum? d = some chosen) :
    (presetOptions method.backend (some d)).outcome = .ok (presetsOf method chosen) := by
  cases method with
  | _ =>
      rw [presetOptions, Attempt.outcome_bind, Attempt.outcome_liftM]
      change (Preset.options _ d).outcome = _
      unfold Preset.options
      rw [hd]
      rfl

/-- The options that a built-in backend gets from a priority are one of its presets, or none. -/
theorem preset_of_builtIn {method : Method} {preset : Options α}
    (h : (presetOptions (method.backend : Backend α) priority).outcome = .ok preset) :
    preset = [] ∨ ∃ chosen, preset = presetsOf method chosen := by
  cases priority with
  | none =>
      cases h
      exact .inl rfl
  | some d =>
      cases hd : Priority.ofDatum? d with
      | none =>
          have hunknown : ¬Priority.Known d := by
            rw [← Priority.ofDatum?_isSome_iff, hd]
            exact Bool.false_ne_true
          rw [presetOptions, Attempt.outcome_bind, Attempt.outcome_liftM] at h
          obtain ⟨name, -, h⟩ := bind_eq_ok_iff.1 h
          rw [Preset.outcome_options_of_unknown hunknown] at h
          cases h
      | some chosen =>
          rw [outcome_presetOptions_builtIn method hd] at h
          cases h
          exact .inr ⟨chosen, rfl⟩

theorem optionName_of_preset {method : Method} {preset : Options α}
    (h : (presetOptions (method.backend : Backend α) priority).outcome = .ok preset) :
    ∀ key ∈ keys preset, (method.backend : Backend α).optionName key = key := by
  rcases preset_of_builtIn h with rfl | ⟨chosen, rfl⟩
  · nofun
  · cases method with
    | _ =>
        cases chosen with
        | _ =>
            simp [keys, presetsOf, Preset.sequentialQuadratic, Preset.trustRegion,
              Preset.linearApproximation, Preset.interiorPoint, Backend.optionName,
              Method.backend, get?_cons]

theorem optionName_of_default (method : Method) :
    ∀ key ∈ keys (method.backend : Backend α).defaults,
      (method.backend : Backend α).optionName key = key := by
  cases method with
  | _ => simp [keys, Backend.optionName, Method.backend, get?_cons]

theorem unique_key_builtIn {method : Method} {preset : Options α} {option : String}
    (h : (presetOptions (method.backend : Backend α) priority).outcome = .ok preset) :
    ∀ k ∈ keys (layered [preset, (method.backend : Backend α).defaults]),
      ∀ l ∈ keys (layered [preset, (method.backend : Backend α).defaults]),
        (method.backend : Backend α).optionName k = option →
          (method.backend : Backend α).optionName l = option → k = l := by
  have hname : ∀ key ∈ keys (layered [preset, (method.backend : Backend α).defaults]),
      (method.backend : Backend α).optionName key = key := by
    intro key hkey
    obtain ⟨layer, hlayer, hmem⟩ := mem_keys_layered.1 hkey
    rcases List.mem_pair.1 hlayer with heq | heq
    · exact optionName_of_preset h key (heq ▸ hmem)
    · exact optionName_of_default method key (heq ▸ hmem)
  intro k hk l hl hkname hlname
  rw [← hname k hk, ← hname l hl, hkname, hlname]

theorem tolerance_notMem_presetsOf (method : Method) (chosen : Priority) :
    "feasibility_tolerance" ∉ keys (presetsOf method chosen : Options α) := by
  cases method with
  | _ =>
      cases chosen with
      | _ =>
          simp [keys, presetsOf, Preset.sequentialQuadratic, Preset.trustRegion,
            Preset.linearApproximation, Preset.interiorPoint]

theorem tolerance_notMem_defaults (method : Method) :
    "feasibility_tolerance" ∉ keys (method.backend : Backend α).defaults := by
  cases method with
  | _ => simp [keys, Method.backend]

theorem feasibilityTolerance_of_bind {method : Method}
    (hs : (bind method.backend p [] priority).outcome = .ok s) :
    s.feasibilityTolerance = .ok 1e-6 := by
  obtain ⟨preset, hpreset, hparameters⟩ := parameters_of_bind hs
  have hnone : s.parameters.get? "feasibility_tolerance" = none := by
    rw [hparameters, mergeOptions_eq, get?_rename_layered_eq_none_iff]
    rintro layer hlayer ⟨key, hkey, hname⟩
    -- No key of the backend gets another name, so the key would be the tolerance itself.
    rcases List.mem_cons.1 hlayer with rfl | hlayer
    · cases hkey
    rcases List.mem_pair.1 hlayer with rfl | rfl
    · rw [optionName_of_preset hpreset key hkey] at hname
      subst hname
      rcases preset_of_builtIn hpreset with rfl | ⟨chosen, rfl⟩
      · cases hkey
      · exact tolerance_notMem_presetsOf method chosen hkey
    · rw [optionName_of_default method key hkey] at hname
      subst hname
      exact tolerance_notMem_defaults method hkey
  unfold feasibilityTolerance
  rw [hnone]

/-- An option of a bound solver has a value of the first layer that prevails: explicit options, the
preset, or the defaults. It is missing where no layer has a key for it. Where the defaults and the
preset have at most one key for the option, so for every built-in backend, it has a value of the
first layer that has any key for it. -/
theorem chosen_parameters (hs : (bind b p explicit priority).outcome = .ok s) (option : String) :
    ∃ preset, (presetOptions b priority).outcome = .ok preset ∧
      Chosen (Prevails b.optionName option) (Gives b.optionName option)
        [explicit, preset, b.defaults] (s.parameters.get? option) ∧
      (s.parameters.get? option = none ↔
        ∀ layer ∈ [explicit, preset, b.defaults], ¬Spells b.optionName option layer) ∧
      ((∀ k ∈ keys (layered [preset, b.defaults]), ∀ l ∈ keys (layered [preset, b.defaults]),
          b.optionName k = option → b.optionName l = option → k = l) →
        Chosen (fun layer _ => Spells b.optionName option layer) (Gives b.optionName option)
          [explicit, preset, b.defaults] (s.parameters.get? option)) ∧
      ∀ method : Method, b = method.backend →
        Chosen (fun layer _ => Spells b.optionName option layer) (Gives b.optionName option)
          [explicit, preset, b.defaults] (s.parameters.get? option) := by
  obtain ⟨preset, hpreset, hparameters⟩ := parameters_of_bind hs
  rw [hparameters, mergeOptions_eq]
  refine ⟨preset, hpreset, chosen_prevails _, get?_rename_layered_eq_none_iff, chosen_spells, ?_⟩
  rintro method rfl
  exact chosen_spells (unique_key_builtIn hpreset)

def accurateSolver : Solver Exact where
  backend := Method.slsqp.backend
  problem := boxed.freeze
  parameters := mergeOptions Method.slsqp.backend (Preset.sequentialQuadratic .accuracy)
    [("max_iterations", .whole 7)]

theorem chosen_parameters_boxed :
    (bind Method.slsqp.backend boxed [("max_iterations", .whole 7)]
      (some (.text "accuracy"))).outcome = .ok accurateSolver ∧
    ∃ preset : Options Exact,
      Chosen
        (fun layer _ => Spells (Method.slsqp.backend : Backend Exact).optionName "maxiter" layer)
        (Gives (Method.slsqp.backend : Backend Exact).optionName "maxiter")
        [[("max_iterations", .whole 7)], preset, (Method.slsqp.backend : Backend Exact).defaults]
        (some (.whole 7)) := by
  have hs : (bind Method.slsqp.backend boxed [("max_iterations", .whole 7)]
      (some (.text "accuracy"))).outcome = .ok accurateSolver := by
    with_unfolding_all rfl
  obtain ⟨preset, -, -, -, -, hchosen⟩ := chosen_parameters hs "maxiter"
  exact ⟨hs, preset, hchosen .slsqp rfl⟩

/-- A backend under the name of the sequential method that has a default under another name of the
option. -/
def tightBackend : Backend Exact where
  identity := .custom 0
  className := "Tight"
  name := some (some "scipy-slsqp")
  defaults := [("tol", .number 1e-6)]
  aliases := [("tol", "ftol")]

/-- The tolerance asked for is lost to that of the preset, which came after the default. -/
theorem not_chosen_parameters_tightBackend :
    let explicit : Options Exact := [("tol", .number 1e-3)]
    let preset : Options Exact := [("maxiter", .whole 1000), ("ftol", .number 1e-12)]
    (presetOptions tightBackend (some (.text "accuracy"))).outcome = .ok preset ∧
    ∃ s, (bind tightBackend boxed explicit (some (.text "accuracy"))).outcome = .ok s ∧
      s.parameters = [("ftol", .number 1e-12), ("maxiter", .whole 1000)] ∧
      ¬Chosen (fun layer _ => Spells tightBackend.optionName "ftol" layer)
        (Gives tightBackend.optionName "ftol") [explicit, preset, tightBackend.defaults]
        (s.parameters.get? "ftol") := by
  refine ⟨by with_unfolding_all rfl, _, by with_unfolding_all rfl, rfl, ?_⟩
  intro hchosen
  have hspells : Spells tightBackend.optionName "ftol" ([("tol", .number 1e-3)] : Options Exact) :=
    ⟨"tol", List.mem_singleton_self _, rfl⟩
  cases hchosen with
  | taken _ hgives =>
      obtain ⟨key, -, hvalue⟩ := hgives
      rw [lastValue?_singleton] at hvalue
      split at hvalue
      · have hne : (1e-3 : Exact) ≠ 1e-12 := by decide +kernel
        exact hne (Datum.number.inj (Option.some.inj hvalue))
      · cases hvalue
  | passed hnot _ => exact hnot hspells

end NonlinearProgram.Solver
