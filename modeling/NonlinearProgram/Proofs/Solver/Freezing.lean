import NonlinearProgram.Proofs.Problem.Acceptance
import NonlinearProgram.Proofs.Solver.Dispatch

/-!
# Frozen problems

Whoever dispatches, binds, runs a solver, reads or calls again, a problem that is frozen stays the
problem it is. What one use keeps any number of uses keep, and so every call that would change the
problem is refused from the first freeze on.
-/

namespace NonlinearProgram

variable {α : Type} [Scalar α] {β : Type}

/-- The problem as a program leaves it, also where the program fails. -/
def Edit.left (m : Edit α β) (p : Problem α) : Problem α :=
  match m.run p with
  | .ok _ q => q
  | .error _ q => q

/-- What can be done with a problem: an assembling call, binding a backend to it, a dispatch, a run
of a solver that is bound to it, and reading from it. -/
inductive Use (α : Type) [Scalar α] where
  | assemble (call : Assembly α)
  | bind (b : Backend α) (explicit : Options α) (priority : Option (Datum α))
  | dispatch (r : Registry α) (name : Datum α) (imports : Imports α) (explicit : Options α)
      (priority : Option (Datum α))
  | minimum (b : Backend α) (parameters : Options α) (result : Option (Result α))
      (around : Surroundings α)
  | read (f : Problem α → Except (Error α) (Datum α))

namespace Use

def next (p : Problem α) : Use α → Problem α
  | assemble call => call.perform.left p
  | bind b explicit priority => (Edit.bind b explicit priority).left p
  | dispatch r name imports explicit priority =>
    (Edit.create r name imports explicit priority).left p
  | minimum b parameters result around =>
    ((Solver.mk b p parameters result).run around).2.value.1.problem
  | read f => Edit.left (do f (← get)) p

def after (p : Problem α) (uses : List (Use α)) : Problem α := uses.foldl next p

end Use

namespace Edit

variable {γ : Type} {p : Problem α} {f : γ → β × Problem α} {m : Edit α β}

theorem left_eq_of_commit {x : Except (Error α) γ} (hm : m.run p = commit p f x)
    (hx : ∀ c, x = .ok c → (f c).2 = p) : m.left p = p := by
  unfold left
  rw [hm]
  cases x with
  | error e => rfl
  | ok c => exact hx c rfl

theorem run_read (g : Problem α → Except (Error α) γ) :
    EStateM.run (do g (← get) : Edit α γ) p = commit p (·, p) (g p) := by
  change EStateM.run (liftM (g p) : Edit α γ) p = _
  cases g p with
  | error e => rfl
  | ok c => rfl

end Edit

theorem Problem.freeze_eq_self {p : Problem α} (hp : p.frozen = true) : p.freeze = p := by
  change { p with frozen := true } = p
  rw [← hp]

namespace Solver

theorem problem_run (s : Solver α) (around : Surroundings α) :
    (s.run around).2.value.1.problem = s.problem := by
  unfold run
  cases s.backend.identity with
  | builtIn method => rfl
  | custom serial => rfl

end Solver

theorem Registry.problem_create {r : Registry α} {name : Datum α} {imports : Imports α}
    {p : Problem α} {explicit : Options α} {priority : Option (Datum α)} {s : Solver α}
    (h : (r.create name imports p explicit priority).value.2 = .ok s) :
    s.problem = p.freeze := by
  rw [value_create] at h
  obtain ⟨b, -, h⟩ := bind_eq_ok_iff.1 h
  rw [outcome_dispatch] at h
  obtain ⟨-, -, h⟩ := bind_eq_ok_iff.1 h
  obtain ⟨here, -, h⟩ := bind_eq_ok_iff.1 h
  obtain ⟨-, h⟩ := check_eq_ok_iff.1 h
  exact (Solver.bind_eq_ok h).2

namespace Use

variable {p : Problem α}

theorem next_of_frozen (hp : p.frozen = true) (use : Use α) : use.next p = p := by
  -- What is committed is the problem frozen once more, or what a refused call leaves.
  cases use with
  | assemble call =>
      refine Edit.left_eq_of_commit (call.run_perform p) fun q hq => ?_
      by_cases hcall : call = .freeze
      · subst hcall
        cases hq
        exact Problem.freeze_eq_self hp
      · cases (Assembly.apply_of_frozen hp hcall).symm.trans hq
  | bind b explicit priority =>
      refine Edit.left_eq_of_commit Edit.run_bind fun s hs => ?_
      exact (Solver.bind_eq_ok hs).2.trans (Problem.freeze_eq_self hp)
  | dispatch r name imports explicit priority =>
      refine Edit.left_eq_of_commit (Edit.run_create r name imports) fun s hs => ?_
      exact (Registry.problem_create hs).trans (Problem.freeze_eq_self hp)
  | minimum b parameters result around => exact Solver.problem_run _ around
  | read f => exact Edit.left_eq_of_commit (Edit.run_read f) fun _ _ => rfl

theorem after_of_frozen (hp : p.frozen = true) (uses : List (Use α)) : after p uses = p := by
  induction uses with
  | nil => rfl
  | cons use uses ih =>
      change after (use.next p) uses = p
      rw [next_of_frozen hp]
      exact ih

end Use

namespace Problem

/-- Calls are atomic and freezing is final. A call that is refused leaves the whole problem as it
was, one that is let through changes the part that it names, and a constraint is let through if and
only if its arguments fit. After any uses of a frozen problem, every call but freezing again is
refused. -/
theorem run_perform_eq_commit (p : Problem α) :
    (∀ call : Assembly α,
      call.perform.run p = Edit.commit p (call.reply p, ·) (call.apply p) ∧
      (∀ e q, call.perform.run p = .error e q → q = p) ∧
      ∀ reply q, call.perform.run p = .ok reply q → reply = call.reply p ∧ call.Changes p q) ∧
    (∀ f bounds scales,
      (∃ reply q, (Assembly.constraint f bounds scales).perform.run p = .ok reply q) ↔
        ∃ c, p.Accepts f bounds scales c) ∧
    (p.frozen = true → ∀ (uses : List (Use α)) (call : Assembly α), call ≠ .freeze →
      call.perform.run (Use.after p uses) = .error .problemFrozen (Use.after p uses) ∧
        Use.after p uses = p) := by
  refine ⟨fun call => ⟨call.run_perform p, fun e q h => ?_, fun reply q h => ?_⟩,
    fun f bounds scales => ?_, fun hp uses call hcall => ?_⟩
  · rw [Assembly.run_perform, Edit.commit_eq_error_iff] at h
    exact h.2
  · rw [Assembly.run_perform, Edit.commit_eq_ok_iff] at h
    obtain ⟨q, hq, rfl, rfl⟩ := h
    exact ⟨rfl, Assembly.changes_of_apply hq⟩
  · rw [← Assembly.exists_apply_constraint_iff, Assembly.run_perform]
    simp only [Edit.commit_eq_ok_iff]
    constructor
    · rintro ⟨reply, q, q', hq, -⟩
      exact ⟨q', hq⟩
    · rintro ⟨q, hq⟩
      exact ⟨_, q, q, hq, rfl, rfl⟩
  · have hafter := Use.after_of_frozen hp uses
    rw [hafter, Assembly.run_perform, Assembly.apply_of_frozen hp hcall]
    exact ⟨rfl, rfl⟩

/-- A constraint with one bound for two components is refused and leaves no trace, a starting point
is set, and after a dispatch and a run it can no longer be set. -/
theorem run_perform_eq_commit_boxed :
    (Assembly.constraint copies (.single .unbounded) none).perform.run boxed =
      .error (.dimensionMismatch "bounds of constraint 'copies'" 2 1) boxed ∧
    (Assembly.startingPoint (.vector [.finite 3])).perform.run boxed =
      .ok none { boxed with startingPoint := some [.finite 3] } ∧
    (Assembly.startingPoint (.vector [.finite 3])).perform.run (Use.after boxed.freeze
      [.dispatch {} (.text "scipy-slsqp") (.only ["scipy"]) [] none,
        .minimum Method.slsqp.backend [] none (Solver.endingAt (.vector [.finite 3]))]) =
      .error .problemFrozen boxed.freeze := by
  obtain ⟨hcalls, -, -⟩ := run_perform_eq_commit boxed
  obtain ⟨-, -, hfinal⟩ := run_perform_eq_commit boxed.freeze
  refine ⟨?_, ?_, ?_⟩
  · rw [(hcalls _).1]
    with_unfolding_all rfl
  · rw [(hcalls _).1]
    with_unfolding_all rfl
  · obtain ⟨hrefused, hafter⟩ := hfinal rfl _ (.startingPoint (.vector [.finite 3])) nofun
    rw [hrefused, hafter]

end Problem

end NonlinearProgram
