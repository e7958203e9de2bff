import Mathlib.Data.List.Nodup
import NonlinearProgram.Proofs.Dictionary
import NonlinearProgram.Proofs.Solver.Dispatch

/-!
# The first look goes unnoticed

The built-in backends are registered at the first look, whenever that comes. A registry that has
them from the start is followed here through the same calls: under every name the two stand for
the same backend, before the first look as well as after it, so they answer alike but for the order
in which names come. What a name stands for is therefore read off the calls alone: it is the
backend that was registered under it last, or else the built-in one.
-/

namespace NonlinearProgram

variable {β γ : Type}

namespace Dictionary

/-- Dictionaries in which the same is found are equal but for the order of their keys. -/
theorem perm_of_get? {d e : Dictionary β} (hd : (keys d).Nodup) (he : (keys e).Nodup)
    (h : ∀ key, d.get? key = e.get? key) : d.Perm e := by
  rw [List.perm_ext_iff_of_nodup (List.Nodup.of_map _ hd) (List.Nodup.of_map _ he)]
  intro p
  rw [mem_iff_get? hd, mem_iff_get? he, h]

end Dictionary

namespace Error

theorem pairwise_sortedNames (names : List String) : (sortedNames names).Pairwise (· ≤ ·) := by
  have htrans : ∀ a b c : String, decide (a ≤ b) = true → decide (b ≤ c) = true →
      decide (a ≤ c) = true := by
    intro a b c hab hbc
    exact decide_eq_true (String.le_trans (of_decide_eq_true hab) (of_decide_eq_true hbc))
  have htotal : ∀ a b : String, (decide (a ≤ b) || decide (b ≤ a)) = true := by
    intro a b
    rw [Bool.or_eq_true, decide_eq_true_iff, decide_eq_true_iff]
    exact String.le_total a b
  exact (List.pairwise_mergeSort htrans htotal names).imp of_decide_eq_true

theorem perm_sortedNames (names : List String) : (sortedNames names).Perm names :=
  List.mergeSort_perm names _

theorem sortedNames_eq_of_perm {names names' : List String} (h : names.Perm names') :
    sortedNames names = sortedNames names' := by
  refine List.Perm.eq_of_pairwise ?_ (pairwise_sortedNames names) (pairwise_sortedNames names') ?_
  · exact fun a b _ _ hab hba => String.le_antisymm hab hba
  · exact (perm_sortedNames names).trans (h.trans (perm_sortedNames names').symm)

end Error

variable {α : Type}

/-- Two attempts both succeed, with values that are related, or both fail. -/
inductive Alike (R : β → γ → Prop) : Except (Error α) β → Except (Error α) γ → Prop
  | succeed {b : β} {c : γ} (h : R b c) : Alike R (.ok b) (.ok c)
  | fail {e e' : Error α} : Alike R (.error e) (.error e')

theorem Alike.map {δ ε : Type} {R : β → γ → Prop} {S : δ → ε → Prop} {x : Except (Error α) β}
    {y : Except (Error α) γ} {f : β → δ} {g : γ → ε} (h : Alike R x y)
    (hfg : ∀ b c, R b c → S (f b) (g c)) : Alike S (f <$> x) (g <$> y) := by
  cases h with
  | succeed h => exact .succeed (hfg _ _ h)
  | fail => exact .fail

/-- Going through a list in another order succeeds or fails alike. Where it fails, it may do so at
another place. -/
theorem alike_mapM_of_perm {f : β → Except (Error α) γ} {xs ys : List β} (h : xs.Perm ys) :
    Alike List.Perm (xs.mapM f) (ys.mapM f) := by
  have hcons : ∀ {b : β} {zs : List β},
      (b :: zs).mapM f = f b >>= fun c => (c :: ·) <$> zs.mapM f := by
    intro b zs
    rw [List.mapM_cons]
    rfl
  induction h with
  | nil => exact .succeed (.refl _)
  | @cons b xs ys _ ih =>
      rw [hcons, hcons]
      cases f b with
      | error e => exact .fail
      | ok c => exact ih.map fun _ _ h => h.cons c
  | swap b b' zs =>
      rw [hcons, hcons, hcons, hcons]
      cases f b with
      | error e =>
          cases f b' with
          | error e' => exact .fail
          | ok c' => exact .fail
      | ok c =>
          cases f b' with
          | error e' => exact .fail
          | ok c' =>
              cases zs.mapM f with
              | error e => exact .fail
              | ok cs => exact .succeed (.swap c c' cs)
  | @trans xs ys zs _ _ ih ih' =>
      generalize xs.mapM f = x at ih
      generalize ys.mapM f = y at ih ih'
      generalize zs.mapM f = z at ih'
      cases ih with
      | succeed h =>
          cases ih' with
          | succeed h' => exact .succeed (h.trans h')
      | fail =>
          cases ih' with
          | fail => exact .fail

namespace Registry

variable [Scalar α]

inductive Call (α : Type) [Scalar α] where
  | register (b : Backend α)
  | get (name : Datum α)
  | names
  | available (imports : Imports α)
  | list (imports : Imports α)
  | create (name : Datum α) (imports : Imports α) (p : Problem α) (parameters : Options α)
      (priority : Option (Datum α))

inductive Answer (α : Type) [Scalar α] where
  | registered (reply : Except (Error α) Unit)
  | found (reply : Except (Error α) (Backend α))
  | names (reply : List String)
  | available (reply : Except (Error α) (List String))
  | listed (reply : Except (Error α) (Dictionary (Fields α)))
  | solver (reply : Except (Error α) (Solver α))

/-- Answers that differ at most in the order of names, and in the error where each fails at a
backend of its own. -/
inductive Answer.Agrees : Answer α → Answer α → Prop
  | registered (reply : Except (Error α) Unit) : Agrees (.registered reply) (.registered reply)
  | found (reply : Except (Error α) (Backend α)) : Agrees (.found reply) (.found reply)
  | names {reply reply' : List String} (h : reply.Perm reply') :
      Agrees (.names reply) (.names reply')
  | available {reply reply' : Except (Error α) (List String)} (h : Alike List.Perm reply reply') :
      Agrees (.available reply) (.available reply')
  | listed {reply reply' : Except (Error α) (Dictionary (Fields α))}
      (h : Alike List.Perm reply reply') : Agrees (.listed reply) (.listed reply')
  | solver (reply : Except (Error α) (Solver α)) : Agrees (.solver reply) (.solver reply)

def Call.perform (r : Registry α) : Call α → Registry α × Answer α
  | register b =>
    match (r.register b).outcome with
    | .ok registered => (registered, .registered (.ok ()))
    | .error e => (r, .registered (.error e))
  | get name => ((r.get name).value.1, .found (r.get name).value.2)
  | names => (r.names.value.1, .names r.names.value.2)
  | available imports =>
    ((r.available imports).value.1, .available (r.available imports).value.2)
  | list imports => (r.list.value.1, .listed (describe r.list.value.2 imports))
  | create name imports p parameters priority =>
    ((r.create name imports p parameters priority).value.1,
      .solver (r.create name imports p parameters priority).value.2)

def run (r : Registry α) : List (Call α) → Registry α × List (Answer α)
  | [] => (r, [])
  | call :: calls =>
    let next := call.perform r
    let rest := run next.1 calls
    (rest.1, next.2 :: rest.2)

def eager : Registry α where
  entries := Method.all.map fun method => ((method.backend : Backend α).label, method.backend)
  seeded := true

def Call.registers? (name : String) : Call α → Option (Backend α)
  | register b => if (nameOf b).toOption = some name then some b else none
  | _ => none

def lastRegistered? (calls : List (Call α)) (name : String) : Option (Backend α) :=
  (calls.filterMap (Call.registers? name)).getLast?

/-- What a name stands for after some calls: the backend that was registered under it last, or else
the built-in one. -/
def standing? (calls : List (Call α)) (name : String) : Option (Backend α) :=
  (lastRegistered? calls name).or (builtIn? name)

/-- Registering the built-in backends one after another gives the registry that has them from the
start. -/
theorem register_all :
    Attempt.outcome (Method.all.foldlM (fun (r : Registry α) method => r.register method.backend)
      { seeded := true }) = .ok eager := by
  simp only [Method.all, List.foldlM_cons, List.foldlM_nil, Attempt.outcome_bind, outcome_register,
    nameOf_backend]
  rfl

theorem seed_empty : ({} : Registry α).seed.value = eager := by
  rfl

theorem nodup_foldlM_seedMethod (methods : List Method) {r : Registry α}
    (hr : r.entries.keys.Nodup) :
    (methods.foldlM seedMethod r).value.entries.keys.Nodup ∧
      (methods.foldlM seedMethod r).value.seeded = r.seeded := by
  induction methods generalizing r with
  | nil => exact ⟨hr, rfl⟩
  | cons method methods ih =>
      rw [List.foldlM_cons, Logged.value_bind, value_seedMethod]
      split
      · exact ih hr
      · exact ih (Dictionary.nodup_keys_put hr _ _)

theorem nodup_seed {r : Registry α} (hr : r.entries.keys.Nodup) :
    r.seed.value.entries.keys.Nodup ∧ r.seed.value.seeded = true := by
  unfold seed
  by_cases hseeded : r.seeded = true
  · rw [if_pos hseeded]
    exact ⟨hr, hseeded⟩
  · rw [if_neg hseeded]
    exact nodup_foldlM_seedMethod Method.all (r := { r with seeded := true }) hr

theorem Reachable.nodup {r : Registry α} (hr : r.Reachable) : r.entries.keys.Nodup := by
  induction hr with
  | empty => exact List.nodup_nil
  | register _ b h ih =>
      rw [outcome_register, map_eq_ok_iff] at h
      obtain ⟨name, -, rfl⟩ := h
      exact Dictionary.nodup_keys_put ih name b
  | look _ ih => exact (nodup_seed ih).1

theorem registered?_of_seeded {r : Registry α} (hr : r.seeded = true) (name : String) :
    r.registered? name = r.entries.get? name := by
  unfold registered?
  rw [if_pos hr, Option.or_none]

theorem registered?_seed {r : Registry α} (hr : r.entries.keys.Nodup) (name : String) :
    r.seed.value.registered? name = r.registered? name := by
  rw [registered?_of_seeded (nodup_seed hr).2, get?_seed]

/-- What a registry has in common with one that has the built-in backends from the start: every
name stands for the same backend in both. -/
structure Shadows (late early : Registry α) : Prop where
  registered? : ∀ name, late.registered? name = early.registered? name
  nodup_late : late.entries.keys.Nodup
  nodup_early : early.entries.keys.Nodup
  seeded_early : early.seeded = true

theorem shadows_eager : Shadows ({} : Registry α) eager where
  registered? name := by
    rw [← seed_empty, registered?_seed (r := {}) List.nodup_nil]
  nodup_late := List.nodup_nil
  nodup_early := by
    rw [← seed_empty]
    exact (nodup_seed (r := {}) List.nodup_nil).1
  seeded_early := rfl

variable {r late early : Registry α}

theorem Shadows.seed (h : Shadows late early) : Shadows late.seed.value early.seed.value where
  registered? name := by
    rw [registered?_seed h.nodup_late, registered?_seed h.nodup_early, h.registered?]
  nodup_late := (nodup_seed h.nodup_late).1
  nodup_early := (nodup_seed h.nodup_early).1
  seeded_early := (nodup_seed h.nodup_early).2

theorem Shadows.perm (h : Shadows late early) :
    late.seed.value.entries.Perm early.seed.value.entries := by
  refine Dictionary.perm_of_get? h.seed.nodup_late h.seed.nodup_early fun name => ?_
  rw [get?_seed, get?_seed, h.registered?]

theorem Shadows.find (h : Shadows late early) (name : Datum α) :
    late.seed.value.find name = early.seed.value.find name := by
  have hget : late.seed.value.entries.get? = early.seed.value.entries.get? := by
    funext key
    rw [get?_seed, get?_seed, h.registered?]
  have hkeys : Error.unknownBackend name late.seed.value.entries.keys =
      Error.unknownBackend name early.seed.value.entries.keys :=
    congrArg (Error.backendNotFound name) (Error.sortedNames_eq_of_perm (h.perm.map _))
  unfold Registry.find
  rw [hget, hkeys]

theorem perform_register_refused {b : Backend α} {e : Error α} (h : nameOf b = .error e) :
    (Call.register b).perform r = (r, .registered (.error e)) := by
  have hrefused : (r.register b).outcome = .error e := by
    rw [outcome_register, h]
    rfl
  rw [Call.perform, hrefused]

theorem perform_register {b : Backend α} {name : String} (h : nameOf b = .ok name) :
    (Call.register b).perform r =
      ({ r with entries := r.entries.put name b }, .registered (.ok ())) := by
  have hregistered : (r.register b).outcome =
      .ok { r with entries := r.entries.put name b } := by
    rw [outcome_register, h]
    rfl
  rw [Call.perform, hregistered]

theorem state_create (name : Datum α) (imports : Imports α) (p : Problem α)
    (parameters : Options α) (priority : Option (Datum α)) :
    (r.create name imports p parameters priority).value.1 = r.seed.value := by
  unfold create get
  simp only [Logged.value_bind, Logged.value_pure]
  cases r.seed.value.find name with
  | error e => rfl
  | ok b => rfl

theorem perform_create (name : Datum α) (imports : Imports α) (p : Problem α)
    (parameters : Options α) (priority : Option (Datum α)) :
    (Call.create name imports p parameters priority).perform r =
      (r.seed.value, .solver (r.seed.value.find name >>= fun b =>
        (dispatch b name.write imports p parameters priority).outcome)) := by
  rw [← value_create, Call.perform, state_create]

/-- What a call makes of the names: those that it registers take the backend, and every other one
stands for what it did. -/
theorem registered?_perform (hr : r.entries.keys.Nodup) (call : Call α) :
    (call.perform r).1.entries.keys.Nodup ∧
      ∀ name, (call.perform r).1.registered? name =
        (call.registers? name).or (r.registered? name) := by
  cases call with
  | register b =>
      cases hname : nameOf b with
      | error e =>
          rw [perform_register_refused hname]
          refine ⟨hr, fun name => ?_⟩
          rw [Call.registers?, hname]
          rfl
      | ok key =>
          rw [perform_register hname]
          refine ⟨Dictionary.nodup_keys_put hr key b, fun name => ?_⟩
          rw [Call.registers?, hname]
          change ((r.entries.put key b).get? name).or _ = _
          rw [Dictionary.get?_put]
          by_cases h : name = key
          · simp [h, Except.toOption]
          · simp [h, Ne.symm h, Except.toOption, registered?]
  | create name imports p parameters priority =>
      rw [perform_create]
      exact ⟨(nodup_seed hr).1, registered?_seed hr⟩
  | _ => exact ⟨(nodup_seed hr).1, registered?_seed hr⟩

omit [Scalar α] in
theorem availableNames_eq (entries : Dictionary (Backend α)) (imports : Imports α) :
    availableNames entries imports =
      (fun marked => (marked.filter (·.2)).map (·.1)) <$>
        entries.mapM fun (name, b) => do return (name, ← b.isAvailable imports) := by
  rw [map_eq_pure_bind]
  rfl

theorem Shadows.perform (h : Shadows late early) (call : Call α) :
    Shadows (call.perform late).1 (call.perform early).1 ∧
      Answer.Agrees (call.perform late).2 (call.perform early).2 := by
  cases call with
  | register b =>
      cases hname : nameOf b with
      | error e =>
          rw [perform_register_refused hname, perform_register_refused hname]
          exact ⟨h, .registered _⟩
      | ok key =>
          have hlate := registered?_perform h.nodup_late (.register b)
          have hearly := registered?_perform h.nodup_early (.register b)
          rw [perform_register hname] at hlate hearly ⊢
          rw [perform_register hname]
          refine ⟨⟨fun name => ?_, hlate.1, hearly.1, h.seeded_early⟩, .registered _⟩
          rw [hlate.2, hearly.2, h.registered?]
  | get name =>
      refine ⟨h.seed, ?_⟩
      change Answer.Agrees (.found _) (.found (early.seed.value.find name))
      rw [← h.find]
      exact .found _
  | names => exact ⟨h.seed, .names (h.perm.map _)⟩
  | available imports =>
      refine ⟨h.seed, .available ?_⟩
      change Alike _ (availableNames _ _) (availableNames _ _)
      rw [availableNames_eq, availableNames_eq]
      exact (alike_mapM_of_perm h.perm).map fun _ _ hperm => (hperm.filter _).map _
  | list imports => exact ⟨h.seed, .listed (alike_mapM_of_perm h.perm)⟩
  | create name imports p parameters priority =>
      rw [perform_create, perform_create, h.find]
      exact ⟨h.seed, .solver _⟩

theorem Shadows.run (h : Shadows late early) (calls : List (Call α)) :
    Shadows (run late calls).1 (run early calls).1 ∧
      List.Forall₂ Answer.Agrees (run late calls).2 (run early calls).2 := by
  induction calls generalizing late early with
  | nil => exact ⟨h, .nil⟩
  | cons call calls ih =>
      obtain ⟨hnext, hanswer⟩ := h.perform call
      obtain ⟨hlast, hanswers⟩ := ih hnext
      exact ⟨hlast, .cons hanswer hanswers⟩

theorem lastRegistered?_cons (call : Call α) (calls : List (Call α)) (name : String) :
    lastRegistered? (call :: calls) name =
      (lastRegistered? calls name).or (call.registers? name) := by
  unfold lastRegistered?
  rw [← List.singleton_append, List.filterMap_append, List.getLast?_append]
  cases hcall : call.registers? name with
  | none => simp [hcall]
  | some b => simp [hcall]

/-- After some calls a name stands for what was registered under it last, or else for what it stood
for before them. -/
theorem registered?_run (hr : r.entries.keys.Nodup) (calls : List (Call α)) :
    (run r calls).1.entries.keys.Nodup ∧
      ∀ name, (run r calls).1.registered? name =
        (lastRegistered? calls name).or (r.registered? name) := by
  induction calls generalizing r with
  | nil => exact ⟨hr, fun name => rfl⟩
  | cons call calls ih =>
      obtain ⟨hnodup, hcall⟩ := registered?_perform hr call
      obtain ⟨hnodup, hcalls⟩ := ih hnodup
      refine ⟨hnodup, fun name => ?_⟩
      rw [lastRegistered?_cons, Option.or_assoc, ← hcall]
      exact hcalls name

theorem Named.perform (hr : r.Named) (call : Call α) : (call.perform r).1.Named := by
  cases call with
  | register b =>
      cases hname : nameOf b with
      | error e =>
          rw [perform_register_refused hname]
          exact hr
      | ok key =>
          rw [perform_register hname]
          refine hr.register (b := b) ?_
          rw [outcome_register, hname]
          rfl
  | create name imports p parameters priority =>
      rw [perform_create]
      exact hr.seed
  | _ => exact hr.seed

theorem Named.run (hr : r.Named) (calls : List (Call α)) : (run r calls).1.Named := by
  induction calls generalizing r with
  | nil => exact hr
  | cons call calls ih => exact ih (hr.perform call)

omit [Scalar α] in
theorem nameOf_of_nameless {b : Backend α}
    (hb : b.name = none ∨ b.name = some none ∨ b.name = some (some "")) :
    nameOf b = .error (.namelessBackend b.className) := by
  unfold nameOf
  rcases hb with hb | hb | hb
  · rw [hb]
    rfl
  · rw [hb]
    rfl
  · rw [hb]
    rfl

/-- Names are looked up in a registry by what some calls have left: a name finds the backend that
it stands for, a name that stands for none is told with all names in order, and every backend is
under the one name that it declares. -/
structure Reflects (calls : List (Call α)) (r : Registry α) : Prop where
  found : ∀ name b, standing? calls name = some b → (r.get (.text name)).value.2 = .ok b
  missing : ∀ name, standing? calls name = none → ∃ known,
    (r.get (.text name)).value.2 = .error (.backendNotFound (.text name) known) ∧
      known.Pairwise (· ≤ ·) ∧ known.Perm r.names.value.2
  names : ∀ name, name ∈ r.names.value.2 ↔ (standing? calls name).isSome = true
  nodup : r.entries.keys.Nodup
  named : ∀ name b, (name, b) ∈ r.entries → b.name = some (some name) ∧ name ≠ ""

theorem reflects_of_registered? {calls : List (Call α)}
    (hr : ∀ name, r.registered? name = standing? calls name) (hnodup : r.entries.keys.Nodup)
    (hnamed : r.Named) : Reflects calls r where
  found name b hb := by
    change r.seed.value.find (.text name) = _
    rw [find_seed, hr, hb]
  missing name hname := by
    refine ⟨Error.sortedNames r.seed.value.entries.keys, ?_, Error.pairwise_sortedNames _,
      Error.perm_sortedNames _⟩
    change r.seed.value.find (.text name) = _
    rw [find_seed, hr, hname]
    rfl
  names name := by
    change name ∈ r.seed.value.entries.keys ↔ _
    rw [Dictionary.mem_keys_iff (nodup_seed hnodup).1, get?_seed, hr]
  nodup := hnodup
  named name b hb := nameOf_eq_ok_iff.1 (hnamed name b (Dictionary.get?_of_mem hnodup hb))

/-- The first look goes unnoticed. Whatever is called on a new registry, it answers as one that has
the built-in backends from the start, but for the order of names, and in both a name finds the
backend that was registered under it last, or else the built-in one. A backend that is refused, as
one without a name is, leaves no trace. -/
theorem agrees_run_eager (calls : List (Call α)) :
    List.Forall₂ Answer.Agrees (run {} calls).2 (run eager calls).2 ∧
    Reflects calls (run {} calls).1 ∧ Reflects calls (run eager calls).1 ∧
    ∀ b : Backend α,
      ((b.name = none ∨ b.name = some none ∨ b.name = some (some "")) →
        nameOf b = .error (.namelessBackend b.className)) ∧
      ∀ e, nameOf b = .error e → ∀ later,
        run (run {} calls).1 (.register b :: later) =
          ((run (run {} calls).1 later).1,
            .registered (.error e) :: (run (run {} calls).1 later).2) := by
  obtain ⟨hshadows, hanswers⟩ := (shadows_eager (α := α)).run calls
  have hregistered := (registered?_run (r := ({} : Registry α)) List.nodup_nil calls).2
  have heager : (eager : Registry α).Named := by
    rw [← seed_empty]
    exact Reachable.named (.look .empty)
  refine ⟨hanswers, ?_, ?_, fun b => ⟨nameOf_of_nameless, fun e he later => ?_⟩⟩
  · exact reflects_of_registered? hregistered hshadows.nodup_late
      (Named.run Reachable.empty.named calls)
  · refine reflects_of_registered? (fun name => ?_) hshadows.nodup_early (heager.run calls)
    rw [← hshadows.registered?]
    exact hregistered name
  · rw [run, perform_register_refused he]

def impostor : Backend Exact where
  identity := .custom 0
  className := "Custom"
  name := some (some "scipy-slsqp")

/-- A backend that takes a built-in name before the first look keeps it, the other built-in names
are there, and a name that nobody took is told with all others. -/
theorem agrees_run_eager_impostor :
    let calls : List (Call Exact) := [.register impostor, .names, .get (.text "custom")]
    ((run {} calls).1.get (.text "scipy-slsqp")).value.2 = .ok impostor ∧
    ((run eager calls).1.get (.text "scipy-slsqp")).value.2 = .ok impostor ∧
    ((run {} calls).1.get (.text "ipopt")).value.2 = .ok Method.ipopt.backend ∧
    (∃ known, ((run {} calls).1.get (.text "custom")).value.2 =
        .error (.backendNotFound (.text "custom") known) ∧ "ipopt-td" ∈ known) ∧
    run (run {} calls).1 [.register { impostor with name := none }] =
      ((run {} calls).1, [.registered (.error (.namelessBackend "Custom"))]) := by
  intro calls
  have himpostor : standing? calls "scipy-slsqp" = some impostor := by rfl
  have hipopt : standing? calls "ipopt" = some Method.ipopt.backend := by rfl
  have hexact : standing? calls "ipopt-td" = some Method.ipoptExact.backend := by rfl
  have hcustom : standing? calls "custom" = none := by rfl
  obtain ⟨-, hlate, hearly, hrefused⟩ := agrees_run_eager calls
  refine ⟨hlate.found _ _ himpostor, hearly.found _ _ himpostor, hlate.found _ _ hipopt, ?_, ?_⟩
  · obtain ⟨known, hknown, -, hperm⟩ := hlate.missing _ hcustom
    refine ⟨known, hknown, hperm.mem_iff.2 ((hlate.names _).2 ?_)⟩
    rw [hexact]
    rfl
  · obtain ⟨hnameless, htrace⟩ := hrefused { impostor with name := none }
    exact htrace _ (hnameless (.inl rfl)) []

end Registry

end NonlinearProgram
