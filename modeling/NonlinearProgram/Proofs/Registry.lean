import NonlinearProgram.Proofs.Solver.Verdict
import NonlinearProgram.Registry

/-!
# Looking up backends

A name finds the backend that was registered under it last. Where nobody registered one, the first
look finds the built-in backend of that name, so a backend of a user's own is never replaced by a
built-in one.
-/

namespace NonlinearProgram

variable {α : Type} [Scalar α]

namespace Registry

/-- The registries that come from an empty one by registering backends and by looking. -/
inductive Reachable : Registry α → Prop
  | empty : Reachable {}
  | register {r r' : Registry α} (hr : r.Reachable) (b : Backend α)
      (h : (r.register b).outcome = .ok r') : r'.Reachable
  | look {r : Registry α} (hr : r.Reachable) : r.seed.value.Reachable

def builtIn? (name : String) : Option (Backend α) :=
  (Method.all.find? fun method => (method.backend : Backend α).label = name).map Method.backend

/-- The backend of a name: the one registered under it, or else, before the first look, the
built-in one. -/
def registered? (r : Registry α) (name : String) : Option (Backend α) :=
  (r.entries.get? name).or (if r.seeded then none else builtIn? name)

def Named (r : Registry α) : Prop :=
  ∀ name b, r.entries.get? name = some b → nameOf b = .ok name

omit [Scalar α] in
theorem outcome_register (r : Registry α) (b : Backend α) :
    (r.register b).outcome =
      (fun name => { r with entries := r.entries.put name b }) <$> nameOf b := by
  unfold Registry.register
  cases hname : (nameOf b : Except (Error α) String) with
  | error e => rfl
  | ok name =>
      simp only [Attempt.outcome_bind, Attempt.outcome_liftM, ok_bind]
      split
      · split <;> rfl
      · rfl

omit [Scalar α] in
theorem Named.register {r r' : Registry α} {b : Backend α} (hr : r.Named)
    (h : (r.register b).outcome = .ok r') : r'.Named := by
  rw [outcome_register, map_eq_ok_iff] at h
  obtain ⟨name, hname, rfl⟩ := h
  intro name' b' hb'
  rw [Dictionary.get?_put] at hb'
  split at hb'
  · next hsame =>
      cases hb'
      rw [hsame, hname]
  · exact hr name' b' hb'

theorem nameOf_backend (method : Method) :
    nameOf (method.backend : Backend α) = .ok (method.backend : Backend α).label := by
  cases method <;> rfl

theorem value_seedMethod (r : Registry α) (method : Method) :
    (r.seedMethod method).value =
      if (r.entries.get? (method.backend : Backend α).label).isSome then r
      else { r with
        entries := r.entries.put (method.backend : Backend α).label method.backend } := by
  have h : (r.register method.backend).run.value = .ok { r with
      entries := r.entries.put (method.backend : Backend α).label method.backend } := by
    change (r.register method.backend).outcome = _
    rw [outcome_register, nameOf_backend]
    rfl
  by_cases hname : (r.entries.get? (method.backend : Backend α).label).isSome = true
  · simp [seedMethod, hname]
  · simp [seedMethod, hname, h]

theorem get?_seedMethod (r : Registry α) (method : Method) (name : String) :
    (r.seedMethod method).value.entries.get? name =
      (r.entries.get? name).or
        (if (method.backend : Backend α).label = name then some method.backend else none) := by
  rw [value_seedMethod]
  split
  · next hsome =>
      split
      · next hname =>
          rw [hname] at hsome
          obtain ⟨b, hb⟩ := Option.isSome_iff_exists.1 hsome
          simp [hb]
      · simp
  · next hnone =>
      rw [Dictionary.get?_put]
      split
      · next hname =>
          rw [Option.not_isSome_iff_eq_none] at hnone
          simp [hname, hnone]
      · next hname =>
          simp [Ne.symm hname]

theorem get?_foldlM_seedMethod (methods : List Method) (r : Registry α) (name : String) :
    (methods.foldlM seedMethod r).value.entries.get? name =
      (r.entries.get? name).or
        ((methods.find? fun method => (method.backend : Backend α).label = name).map
          Method.backend) := by
  -- A name that one method fills is no longer free for the methods after it.
  induction methods generalizing r with
  | nil => simp
  | cons method methods ih =>
      rw [List.foldlM_cons, Logged.value_bind, ih, get?_seedMethod, Option.or_assoc,
        List.find?_cons]
      by_cases hname : (method.backend : Backend α).label = name
      · simp [hname]
      · simp [hname]

/-- After the first look the registered backends are those that the names stood for before. -/
theorem get?_seed (r : Registry α) (name : String) :
    r.seed.value.entries.get? name = r.registered? name := by
  unfold Registry.seed registered?
  by_cases hr : r.seeded = true
  · simp [hr]
  · simp [hr, builtIn?, get?_foldlM_seedMethod]

theorem Named.seed {r : Registry α} (hr : r.Named) : r.seed.value.Named := by
  intro name b hb
  rw [get?_seed, registered?, Option.or_eq_some_iff] at hb
  rcases hb with hb | ⟨-, hb⟩
  · exact hr name b hb
  · split at hb
    · cases hb
    · rw [builtIn?, Option.map_eq_some_iff] at hb
      obtain ⟨method, hmethod, rfl⟩ := hb
      have hname := List.find?_some hmethod
      rw [nameOf_backend, of_decide_eq_true hname]

theorem Reachable.named {r : Registry α} (hr : r.Reachable) : r.Named := by
  induction hr with
  | empty => nofun
  | register _ b h ih => exact ih.register h
  | look _ ih => exact ih.seed

end Registry

end NonlinearProgram
