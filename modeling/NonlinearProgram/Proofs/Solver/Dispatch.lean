import NonlinearProgram.Proofs.Problem.Editing
import NonlinearProgram.Proofs.Registry
import NonlinearProgram.Proofs.Solver.Stacked

/-!
# Which dispatches succeed

A dispatch goes through five conditions and is refused by the first that is not met: a backend
under the name, the tier of the objective, the tiers of the constraint functions in order, the
library, and the priority. The problem is frozen after all of them, so a refused dispatch leaves it
as it was. The library has one more outcome than it should: a declaration may name something that
could not be a library at all, or the import may break off, and neither is told as a library that is
missing.
-/

namespace NonlinearProgram

variable {α : Type} [Scalar α]

namespace Backend

/-- The functions of a problem reach the tiers of a backend. -/
def Suits (b : Backend α) (p : Problem α) : Prop :=
  b.objectiveTier ≤ p.objective.tier ∧
    ∀ c ∈ p.constraints, b.constraintTier ≤ c.function.tier

/-- A text that could be the name of a library. -/
def IsModuleName (library : String) : Prop := library ≠ "" ∧ library.toList.head? ≠ some '.'

/-- A backend needs no library, or one that can be imported. -/
def Installed (b : Backend α) (imports : Imports α) : Prop :=
  ∀ d, b.library = some d →
    ∃ library, d = .text library ∧ IsModuleName library ∧ imports library = .ok ()

/-- A backend needs a library, and importing it fails for want of it. -/
def Lacks (b : Backend α) (imports : Imports α) (library : String) : Prop :=
  b.library = some (.text library) ∧ IsModuleName library ∧
    ∃ e, imports library = .error e ∧ e.kind.isA .importFailure = true

/-- A backend declares as its library what could not be one, or importing the library breaks
off. -/
inductive Breaks (b : Backend α) (imports : Imports α) : Error α → Prop
  | empty (h : b.library = some (.text "")) : Breaks b imports (.fault .emptyModule)
  | relative {library : String} (h : b.library = some (.text library))
      (hdot : library.toList.head? = some '.') :
      Breaks b imports (.fault (.relativeModule library))
  | untyped {d : Datum α} (h : b.library = some d) (hd : ∀ s, d ≠ .text s) :
      Breaks b imports (.fault (.noField d.typeName "startswith"))
  | broken {library : String} {e : Error α} (h : b.library = some (.text library))
      (hname : IsModuleName library) (himport : imports library = .error e)
      (hkind : e.kind.isA .importFailure = false) : Breaks b imports e

omit [Scalar α] in
theorem checkFunction_eq_ok_iff {b : Backend α} {role : String} {tier : Tier} {f : Function α} :
    b.checkFunction role tier f = .ok () ↔ tier ≤ f.tier := by
  unfold checkFunction Function.supports
  by_cases h : tier ≤ f.tier
  · simp [h]
  · simp [h]

omit [Scalar α] in
theorem checkFunction_eq_error_iff {b : Backend α} {role : String} {tier : Tier} {f : Function α}
    {e : Error α} :
    b.checkFunction role tier f = .error e ↔ ¬tier ≤ f.tier ∧ e = b.tierError role f tier := by
  unfold checkFunction Function.supports
  by_cases h : tier ≤ f.tier
  · simp [h]
  · simp [h, eq_comm]

theorem checkProblem_eq_ok_iff {b : Backend α} {p : Problem α} :
    b.checkProblem p = .ok () ↔ b.Suits p := by
  unfold checkProblem Suits
  rw [bind_eq_ok_iff]
  simp only [forM_eq_ok_iff, checkFunction_eq_ok_iff]
  constructor
  · rintro ⟨⟨⟩, hobjective, hconstraints⟩
    exact ⟨checkFunction_eq_ok_iff.1 hobjective, hconstraints⟩
  · rintro ⟨hobjective, hconstraints⟩
    exact ⟨(), checkFunction_eq_ok_iff.2 hobjective, hconstraints⟩

/-- The first function that does not reach its tier decides, the objective before the constraints
in order. -/
theorem checkProblem_eq_error_iff {b : Backend α} {p : Problem α} {e : Error α} :
    b.checkProblem p = .error e ↔
      (¬b.objectiveTier ≤ p.objective.tier ∧
        e = b.tierError "objective" p.objective b.objectiveTier) ∨
      (b.objectiveTier ≤ p.objective.tier ∧ ∃ before c after, p.constraints = before ++ c :: after ∧
        (∀ c' ∈ before, b.constraintTier ≤ c'.function.tier) ∧
        ¬b.constraintTier ≤ c.function.tier ∧
        e = b.tierError "constraint" c.function b.constraintTier) := by
  unfold checkProblem
  rw [bind_eq_error_iff, checkFunction_eq_error_iff]
  simp only [forM_eq_error_iff, checkFunction_eq_ok_iff, checkFunction_eq_error_iff]
  refine or_congr_right ⟨?_, ?_⟩
  · rintro ⟨⟨⟩, hobjective, h⟩
    exact ⟨checkFunction_eq_ok_iff.1 hobjective, h⟩
  · rintro ⟨hobjective, h⟩
    exact ⟨(), checkFunction_eq_ok_iff.2 hobjective, h⟩

omit [Scalar α] in
theorem tierError_of_name {b : Backend α} {name : String} (h : b.name = some (some name))
    (role : String) (f : Function α) (tier : Tier) :
    b.tierError role f tier = .unsupportedTier (.text name) role f.name tier f.tier := by
  simp only [tierError, declaredName, h]
  rfl

section Library

omit [Scalar α]

variable {b : Backend α} {imports : Imports α}

theorem isAvailable_text {library : String} (h : b.library = some (.text library)) :
    b.isAvailable imports =
      if library = "" then .error (.fault .emptyModule)
      else if library.toList.head? = some '.' then .error (.fault (.relativeModule library))
      else match imports library with
        | .ok () => .ok true
        | .error e => if e.kind.isA .importFailure then .ok false else .error e := by
  unfold isAvailable
  rw [h]
  cases hchars : library.toList with
  | nil =>
      rw [String.toList_eq_nil_iff] at hchars
      simp [hchars]
  | cons c rest =>
      have hname : library ≠ "" := by
        rintro rfl
        cases hchars
      by_cases hdot : c = '.'
      · simp [hchars, hdot, hname]
      · cases himport : imports library <;> simp [hchars, hdot, hname, himport]

theorem Installed.isAvailable (h : b.Installed imports) : b.isAvailable imports = .ok true := by
  cases hlibrary : b.library with
  | none => simp [Backend.isAvailable, hlibrary]
  | some d =>
      obtain ⟨library, rfl, hname, himport⟩ := h d hlibrary
      rw [isAvailable_text hlibrary, if_neg hname.1, if_neg hname.2, himport]

theorem Lacks.isAvailable {library : String} (h : b.Lacks imports library) :
    b.isAvailable imports = .ok false := by
  obtain ⟨hlibrary, hname, e, himport, hkind⟩ := h
  rw [isAvailable_text hlibrary, if_neg hname.1, if_neg hname.2, himport]
  exact if_pos hkind

theorem Breaks.isAvailable {e : Error α} (h : b.Breaks imports e) :
    b.isAvailable imports = .error e := by
  cases h with
  | empty h => rw [isAvailable_text h, if_pos rfl]
  | @relative library h hdot =>
      have hempty : library ≠ "" := by
        rintro rfl
        cases hdot
      rw [isAvailable_text h, if_neg hempty, if_pos hdot]
  | @untyped d h hd =>
      cases d with
      | text library => exact absurd rfl (hd library)
      | _ => rw [Backend.isAvailable, h]
  | broken h hname himport hkind =>
      rw [isAvailable_text h, if_neg hname.1, if_neg hname.2, himport]
      exact if_neg (by rw [hkind]; exact Bool.false_ne_true)

theorem installed_or_lacks_or_breaks (b : Backend α) (imports : Imports α) :
    b.Installed imports ∨ (∃ library, b.Lacks imports library) ∨ ∃ e, b.Breaks imports e := by
  cases hlibrary : b.library with
  | none =>
      refine .inl fun d hd => ?_
      rw [hlibrary] at hd
      cases hd
  | some d =>
      cases d with
      | text library =>
          by_cases hempty : library = ""
          · rw [hempty] at hlibrary
            exact .inr (.inr ⟨_, .empty hlibrary⟩)
          by_cases hdot : library.toList.head? = some '.'
          · exact .inr (.inr ⟨_, .relative hlibrary hdot⟩)
          cases himport : imports library with
          | ok _ =>
              refine .inl fun d hd => ?_
              rw [hlibrary] at hd
              cases hd
              exact ⟨library, rfl, ⟨hempty, hdot⟩, himport⟩
          | error e =>
              cases hkind : e.kind.isA .importFailure with
              | true => exact .inr (.inl ⟨library, hlibrary, ⟨hempty, hdot⟩, e, himport, hkind⟩)
              | false => exact .inr (.inr ⟨e, .broken hlibrary ⟨hempty, hdot⟩ himport hkind⟩)
      | _ => exact .inr (.inr ⟨_, .untyped hlibrary nofun⟩)

end Library

end Backend

namespace Priority

omit [Scalar α]

def Known (d : Datum α) : Prop := ∃ name ∈ priorityNames, d = .text name

theorem ofDatum?_isSome_iff {d : Datum α} : (ofDatum? d).isSome = true ↔ Known d := by
  cases d with
  | text name => simp [ofDatum?, ofName?, Known, ← map_name_all]
  | _ => simp [ofDatum?, Known]

end Priority

namespace Preset

variable {backend priority : Datum α}

theorem outcome_options_of_known {k : Option String}
    (hbackend : backend.key? = (.ok k : Except (Error α) _))
    (hpriority : Priority.Known priority) : ∃ o, (options backend priority).outcome = .ok o := by
  obtain ⟨chosen, hchosen⟩ := Option.isSome_iff_exists.1 (Priority.ofDatum?_isSome_iff.2 hpriority)
  unfold options
  rw [hchosen]
  simp only [Attempt.outcome_bind, Attempt.outcome_liftM, hbackend]
  cases hpreset : k.bind (ofBackend? (α := α)) with
  | none => exact ⟨[], by simp only [bind, Except.bind, hpreset]; rfl⟩
  | some preset => exact ⟨preset chosen, by simp only [bind, Except.bind, hpreset]; rfl⟩

theorem outcome_options_of_unknown (hpriority : ¬Priority.Known priority) :
    (options backend priority).outcome = .error (.unknownPriority priority) := by
  rw [← Priority.ofDatum?_isSome_iff, Option.not_isSome_iff_eq_none] at hpriority
  unfold options
  rw [hpriority]
  rfl

end Preset

namespace Registry

omit [Scalar α] in
theorem nameOf_eq_ok_iff {b : Backend α} {name : String} :
    nameOf b = .ok name ↔ b.name = some (some name) ∧ name ≠ "" := by
  unfold nameOf
  constructor
  · intro h
    split at h
    · cases h
    · cases h
    · next given hempty hgiven =>
        cases h
        exact ⟨Option.join_eq_some_iff.1 hgiven, hempty⟩
  · rintro ⟨hname, hempty⟩
    rw [hname]
    simp

end Registry

namespace Solver

variable {b : Backend α} {name : String} {priority : Option (Datum α)}

theorem outcome_presetOptions_of_known (hb : Registry.nameOf b = .ok name)
    (hpriority : ∀ d ∈ priority, Priority.Known d) :
    ∃ options, (presetOptions b priority).outcome = .ok options := by
  have hname := (Registry.nameOf_eq_ok_iff.1 hb).1
  cases priority with
  | none => exact ⟨[], rfl⟩
  | some d =>
      have hkey : (Datum.text name : Datum α).key? = (.ok (some name) : Except (Error α) _) := rfl
      obtain ⟨options, h⟩ := Preset.outcome_options_of_known hkey (hpriority d rfl)
      refine ⟨options, ?_⟩
      rw [presetOptions, Attempt.outcome_bind, Attempt.outcome_liftM, Backend.declaredName, hname]
      exact h

theorem outcome_presetOptions_of_unknown (hb : Registry.nameOf b = .ok name) {d : Datum α}
    (hd : ¬Priority.Known d) :
    (presetOptions b (some d)).outcome = .error (.unknownPriority d) := by
  rw [presetOptions, Attempt.outcome_bind, Attempt.outcome_liftM, Backend.declaredName,
    (Registry.nameOf_eq_ok_iff.1 hb).1]
  exact Preset.outcome_options_of_unknown hd

theorem outcome_bind {p : Problem α} {explicit : Options α} :
    (bind b p explicit priority).outcome = do
      b.checkProblem p
      let preset ← (presetOptions b priority).outcome
      return ⟨b, p.freeze, mergeOptions b preset explicit, none⟩ := by
  unfold bind
  rw [Attempt.outcome_bind, Attempt.outcome_liftM]
  simp only [Attempt.outcome_bind]
  rfl

end Solver

namespace Registry

theorem outcome_dispatch {b : Backend α} {name : String} {imports : Imports α} {p : Problem α}
    {explicit : Options α} {priority : Option (Datum α)} :
    (dispatch b name imports p explicit priority).outcome = (do
      b.checkProblem p
      if !(← b.isAvailable imports) then
        throw (.backendUnavailable name (b.library.getD .nothing))
      (Solver.bind b p explicit priority).outcome) := by
  unfold dispatch
  simp only [Attempt.outcome_bind, Attempt.outcome_liftM]
  cases b.checkProblem p with
  | error e => rfl
  | ok _ =>
      cases (b.isAvailable imports : Except (Error α) Bool) with
      | error e => rfl
      | ok here =>
          cases here with
          | false => rfl
          | true =>
              change Attempt.outcome (Solver.bind b p explicit priority >>= _) = _
              rw [Attempt.outcome_bind]
              cases (Solver.bind b p explicit priority).outcome with
              | error e => rfl
              | ok s => rfl

theorem bind_of_dispatch {b : Backend α} {name : String} {imports : Imports α} {p : Problem α}
    {explicit : Options α} {priority : Option (Datum α)} {s : Solver α}
    (h : (dispatch b name imports p explicit priority).outcome = .ok s) :
    (Solver.bind b p explicit priority).outcome = .ok s := by
  rw [outcome_dispatch] at h
  obtain ⟨-, -, h⟩ := bind_eq_ok_iff.1 h
  obtain ⟨here, -, h⟩ := bind_eq_ok_iff.1 h
  exact (check_eq_ok_iff.1 h).2

theorem value_create (r : Registry α) (name : Datum α) (imports : Imports α) (p : Problem α)
    (explicit : Options α) (priority : Option (Datum α)) :
    (r.create name imports p explicit priority).value.2 =
      r.seed.value.find name >>= fun b =>
        (dispatch b name.write imports p explicit priority).outcome := by
  unfold create get
  simp only [Logged.value_bind, Logged.value_pure]
  cases r.seed.value.find name with
  | error e => rfl
  | ok b => rfl

theorem find_seed (r : Registry α) (name : String) :
    r.seed.value.find (.text name) =
      match r.registered? name with
      | some b => .ok b
      | none => .error (.unknownBackend (.text name) r.seed.value.entries.keys) := by
  rw [← get?_seed]
  change (match r.seed.value.entries.get? name with | some b => _ | none => _) = _
  split <;> rfl

variable {r : Registry α} {name : String} {imports : Imports α} {p : Problem α}
  {explicit : Options α} {priority : Option (Datum α)}

/-- All conditions of a dispatch are met, with a backend. -/
structure Grants (r : Registry α) (name : String) (imports : Imports α) (p : Problem α)
    (priority : Option (Datum α)) (b : Backend α) : Prop where
  registered : r.registered? name = some b
  suits : b.Suits p
  installed : b.Installed imports
  priority : ∀ d, priority = some d → Priority.Known d

/-- A condition of a dispatch is not met and all before it are: the error of that condition. -/
inductive Refuses (r : Registry α) (name : String) (imports : Imports α) (p : Problem α)
    (priority : Option (Datum α)) : Error α → Prop
  | unregistered (h : r.registered? name = none) :
      Refuses r name imports p priority
        (.unknownBackend (.text name) r.seed.value.entries.keys)
  | objective {b : Backend α} (hb : r.registered? name = some b)
      (h : ¬b.objectiveTier ≤ p.objective.tier) :
      Refuses r name imports p priority
        (.unsupportedTier (.text name) "objective" p.objective.name b.objectiveTier
          p.objective.tier)
  | constraint {b : Backend α} {before after : List (Constraint α)} {c : Constraint α}
      (hb : r.registered? name = some b) (hobjective : b.objectiveTier ≤ p.objective.tier)
      (hsplit : p.constraints = before ++ c :: after)
      (hbefore : ∀ c' ∈ before, b.constraintTier ≤ c'.function.tier)
      (h : ¬b.constraintTier ≤ c.function.tier) :
      Refuses r name imports p priority
        (.unsupportedTier (.text name) "constraint" c.function.name b.constraintTier
          c.function.tier)
  | unavailable {b : Backend α} {library : String} (hb : r.registered? name = some b)
      (hsuits : b.Suits p) (h : b.Lacks imports library) :
      Refuses r name imports p priority (.backendUnavailable name (.text library))
  | broken {b : Backend α} {e : Error α} (hb : r.registered? name = some b)
      (hsuits : b.Suits p) (h : b.Breaks imports e) : Refuses r name imports p priority e
  | priority {b : Backend α} {d : Datum α} (hb : r.registered? name = some b)
      (hsuits : b.Suits p) (hinstalled : b.Installed imports) (hd : priority = some d)
      (h : ¬Priority.Known d) :
      Refuses r name imports p priority (.unknownPriority d)

theorem create_of_registered {b : Backend α} (hb : r.registered? name = some b) :
    (r.create (.text name) imports p explicit priority).value.2 =
      (dispatch b name imports p explicit priority).outcome := by
  rw [value_create, find_seed, hb]
  rfl

theorem Named.of_registered {b : Backend α} (hr : r.Named) (hb : r.registered? name = some b) :
    nameOf b = .ok name :=
  hr.seed name b (by rw [get?_seed, hb])

theorem Grants.create {b : Backend α} (hr : r.Named) (h : r.Grants name imports p priority b)
    (explicit : Options α) :
    ∃ s, (r.create (.text name) imports p explicit priority).value.2 = .ok s ∧
      s.backend = b ∧ s.problem = p.freeze := by
  obtain ⟨preset, hpreset⟩ :=
    Solver.outcome_presetOptions_of_known (hr.of_registered h.registered) h.priority
  have hsuits := Backend.checkProblem_eq_ok_iff.2 h.suits
  refine ⟨⟨b, p.freeze, Solver.mergeOptions b preset explicit, none⟩, ?_, rfl, rfl⟩
  rw [create_of_registered h.registered, outcome_dispatch, Solver.outcome_bind, hsuits,
    h.installed.isAvailable, hpreset]
  rfl

theorem Refuses.create {e : Error α} (hr : r.Named) (h : r.Refuses name imports p priority e) :
    (r.create (.text name) imports p explicit priority).value.2 = .error e := by
  cases h with
  | unregistered h =>
      rw [value_create, find_seed, h]
      rfl
  | @objective b hb h =>
      have hname := (nameOf_eq_ok_iff.1 (hr.of_registered hb)).1
      have hcheck := Backend.checkProblem_eq_error_iff.2 (.inl ⟨h, rfl⟩)
      rw [create_of_registered hb, outcome_dispatch, hcheck, Backend.tierError_of_name hname]
      rfl
  | @constraint b before after c hb hobjective hsplit hbefore h =>
      have hname := (nameOf_eq_ok_iff.1 (hr.of_registered hb)).1
      have hcheck := Backend.checkProblem_eq_error_iff.2
        (.inr ⟨hobjective, before, c, after, hsplit, hbefore, h, rfl⟩)
      rw [create_of_registered hb, outcome_dispatch, hcheck, Backend.tierError_of_name hname]
      rfl
  | @unavailable b library hb hsuits h =>
      rw [create_of_registered hb, outcome_dispatch, Backend.checkProblem_eq_ok_iff.2 hsuits,
        h.isAvailable, h.1]
      rfl
  | @broken b e hb hsuits h =>
      rw [create_of_registered hb, outcome_dispatch, Backend.checkProblem_eq_ok_iff.2 hsuits,
        h.isAvailable]
      rfl
  | @priority b d hb hsuits hinstalled hd h =>
      rw [create_of_registered hb, outcome_dispatch, Solver.outcome_bind,
        Backend.checkProblem_eq_ok_iff.2 hsuits, hinstalled.isAvailable, hd,
        Solver.outcome_presetOptions_of_unknown (hr.of_registered hb) h]
      rfl

theorem grants_or_refuses (r : Registry α) (name : String) (imports : Imports α) (p : Problem α)
    (priority : Option (Datum α)) :
    (∃ b, r.Grants name imports p priority b) ∨ ∃ e, r.Refuses name imports p priority e := by
  -- The cases follow the conditions in their order, each where all before it are met.
  cases hb : r.registered? name with
  | none => exact .inr ⟨_, .unregistered hb⟩
  | some b =>
      cases hcheck : b.checkProblem p with
      | error e =>
          rcases Backend.checkProblem_eq_error_iff.1 hcheck with ⟨h, -⟩ |
            ⟨hobjective, before, c, after, hsplit, hbefore, h, -⟩
          · exact .inr ⟨_, .objective hb h⟩
          · exact .inr ⟨_, .constraint hb hobjective hsplit hbefore h⟩
      | ok _ =>
          have hsuits := Backend.checkProblem_eq_ok_iff.1 hcheck
          rcases b.installed_or_lacks_or_breaks imports with
            hinstalled | ⟨library, h⟩ | ⟨e, h⟩
          · by_cases hpriority : ∀ d, priority = some d → Priority.Known d
            · exact .inl ⟨b, hb, hsuits, hinstalled, hpriority⟩
            · push Not at hpriority
              obtain ⟨d, hd, h⟩ := hpriority
              exact .inr ⟨_, .priority hb hsuits hinstalled hd h⟩
          · exact .inr ⟨_, .unavailable hb hsuits h⟩
          · exact .inr ⟨_, .broken hb hsuits h⟩

end Registry

namespace Edit

/-- Binding a backend freezes the problem in memory, after everything that can refuse it. -/
def bind (b : Backend α) (explicit : Options α) (priority : Option (Datum α)) :
    Edit α (Solver α) := do
  b.checkProblem (← get)
  let preset ← (Solver.presetOptions b priority).outcome
  modify Problem.freeze
  return ⟨b, ← get, Solver.mergeOptions b preset explicit, none⟩

def dispatch (b : Backend α) (name : String) (imports : Imports α) (explicit : Options α)
    (priority : Option (Datum α)) : Edit α (Solver α) := do
  b.checkProblem (← get)
  if !(← b.isAvailable imports) then
    throw (.backendUnavailable name (b.library.getD .nothing))
  bind b explicit priority

def create (r : Registry α) (name : Datum α) (imports : Imports α) (explicit : Options α)
    (priority : Option (Datum α)) : Edit α (Solver α) := do
  let b ← r.seed.value.find name
  dispatch b name.write imports explicit priority

variable {b : Backend α} {explicit : Options α} {priority : Option (Datum α)} {p : Problem α}

theorem run_bind :
    (bind b explicit priority).run p =
      commit p (fun s => (s, s.problem)) (Solver.bind b p explicit priority).outcome := by
  rw [Solver.outcome_bind]
  refine run_liftM_bind fun _ => run_liftM_bind fun preset => ?_
  rfl

theorem run_dispatch {name : String} {imports : Imports α} :
    (dispatch b name imports explicit priority).run p =
      commit p (fun s => (s, s.problem))
        (Registry.dispatch b name imports p explicit priority).outcome := by
  rw [Registry.outcome_dispatch]
  refine run_liftM_bind fun _ => run_liftM_bind fun here => run_check ?_
  exact run_bind

theorem run_create (r : Registry α) (name : Datum α) (imports : Imports α) :
    (create r name imports explicit priority).run p =
      commit p (fun s => (s, s.problem))
        (r.create name imports p explicit priority).value.2 := by
  rw [Registry.value_create]
  exact run_liftM_bind fun b => run_dispatch

end Edit

namespace Registry

/-- A dispatch succeeds if and only if all conditions are met. Then the solver has the backend
that is registered under the name, and freezing the problem is all that happens to it. Otherwise
the error is that of the first condition that is not met, and the problem stays as it is. -/
theorem create_iff_grants {r : Registry α} (hr : r.Reachable) (name : String)
    (imports : Imports α) (p : Problem α) (explicit : Options α)
    (priority : Option (Datum α)) :
    ((∃ s, (r.create (.text name) imports p explicit priority).value.2 = .ok s) ↔
      ∃ b, r.Grants name imports p priority b) ∧
    (∀ s, (r.create (.text name) imports p explicit priority).value.2 = .ok s →
      r.Grants name imports p priority s.backend ∧ s.problem = { p with frozen := true } ∧
        (Edit.create r (.text name) imports explicit priority).run p =
          .ok s { p with frozen := true }) ∧
    (∀ e, (r.create (.text name) imports p explicit priority).value.2 = .error e ↔
      r.Refuses name imports p priority e) ∧
    ∀ e, (r.create (.text name) imports p explicit priority).value.2 = .error e →
      (Edit.create r (.text name) imports explicit priority).run p = .error e p := by
  have hcases := grants_or_refuses r name imports p priority
  refine ⟨⟨?_, ?_⟩, ?_, fun e => ⟨fun he => ?_, fun h => h.create hr.named⟩, ?_⟩
  · rintro ⟨s, hs⟩
    refine hcases.resolve_right ?_
    rintro ⟨e, he⟩
    cases hs.symm.trans (he.create hr.named)
  · rintro ⟨b, hb⟩
    obtain ⟨s, hs, -⟩ := hb.create hr.named explicit
    exact ⟨s, hs⟩
  · intro s hs
    rcases hcases with ⟨b, hb⟩ | ⟨e, he⟩
    · obtain ⟨s', hs', rfl, hproblem⟩ := hb.create hr.named explicit
      cases hs.symm.trans hs'
      refine ⟨hb, hproblem, ?_⟩
      rw [Edit.run_create, hs]
      change EStateM.Result.ok s s.problem = _
      rw [hproblem]
      rfl
    · cases hs.symm.trans (he.create hr.named)
  · rcases hcases with ⟨b, hb⟩ | ⟨e', he'⟩
    · obtain ⟨s, hs, -⟩ := hb.create hr.named explicit
      cases he.symm.trans hs
    · cases he.symm.trans (he'.create hr.named)
      exact he'
  · intro e he
    rw [Edit.run_create, he]
    rfl

/-- In a new registry the sequential method is found for a problem with first derivatives, and the
trust-region method is refused for want of second ones. -/
theorem create_iff_grants_boxed : ({} : Registry Exact).Reachable ∧
    (∃ s,
      (({} : Registry Exact).create (.text "scipy-slsqp") (.only ["scipy"]) boxed [] none).value.2 =
        .ok s ∧ s.backend = Method.slsqp.backend ∧
      (Edit.create {} (.text "scipy-slsqp") (.only ["scipy"]) [] none).run boxed =
        .ok s { boxed with frozen := true }) ∧
    (Edit.create {} (.text "scipy-trust-constr") (.only ["scipy"]) [] none).run boxed =
      .error (.unsupportedTier (.text "scipy-trust-constr") "objective" (.text "coordinate")
        .twiceDifferentiable .differentiable) boxed := by
  have hslsqp : ({} : Registry Exact).registered? "scipy-slsqp" = some Method.slsqp.backend := rfl
  have htrust : ({} : Registry Exact).registered? "scipy-trust-constr" =
      some Method.trustConstr.backend := rfl
  refine ⟨.empty, ?_, ?_⟩
  · obtain ⟨hsuccess, hsolver, -⟩ :=
      create_iff_grants (.empty (α := Exact)) "scipy-slsqp" (.only ["scipy"]) boxed [] none
    have hgrants : ({} : Registry Exact).Grants "scipy-slsqp" (.only ["scipy"]) boxed none
        Method.slsqp.backend := by
      refine ⟨hslsqp, ⟨by decide, by decide⟩, ?_, nofun⟩
      intro d hd
      cases hd
      exact ⟨"scipy", rfl, ⟨by decide, by decide⟩, rfl⟩
    obtain ⟨s, hs⟩ := hsuccess.2 ⟨_, hgrants⟩
    obtain ⟨hbackend, -, hrun⟩ := hsolver s hs
    exact ⟨s, hs, Option.some.inj (hbackend.registered.symm.trans hslsqp), hrun⟩
  · obtain ⟨-, -, herror, hrun⟩ :=
      create_iff_grants (.empty (α := Exact)) "scipy-trust-constr" (.only ["scipy"]) boxed [] none
    exact hrun _ ((herror _).2 (.objective htrust (by decide)))

def relativeBackend : Backend Exact where
  identity := .custom 0
  className := "Custom"
  name := some (some "custom")
  library := some (.text ".solver")

def relativeRegistry : Registry Exact where
  entries := [("custom", relativeBackend)]

/-- All that is wrong with a dispatch is that its library is not installed, and yet it is not
refused as unavailable. -/
theorem create_relativeBackend : relativeRegistry.Reachable ∧
    relativeRegistry.registered? "custom" = some relativeBackend ∧
    relativeBackend.Suits boxed ∧ relativeBackend.library = some (.text ".solver") ∧
    (Imports.only [] ".solver" : Except (Error Exact) Unit) =
      .error (.fault (.noModule ".solver")) ∧
    (relativeRegistry.create (.text "custom") (.only []) boxed [] none).value.2 =
      .error (.fault (.relativeModule ".solver")) := by
  refine ⟨.register .empty relativeBackend rfl, rfl, ⟨by decide, by decide⟩, rfl, rfl, ?_⟩
  rw [create_of_registered rfl, outcome_dispatch]
  with_unfolding_all rfl

end Registry

end NonlinearProgram
