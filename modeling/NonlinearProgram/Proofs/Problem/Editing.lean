import NonlinearProgram.Proofs.Problem.Reachable

/-!
# Problems changed in place

A problem object is one piece of memory that its calls write to, and a call that raises halfway
leaves behind what it wrote before. Here every call is such a program, step by step: it reads and
writes the problem, and a refusal ends it where it stands. That a refused call changes nothing is
then a fact about the order of the steps, and it is why a call can be computed as a new problem or
an error: what a call does in place is to commit the problem that `Assembly.apply` computes, and
to leave the old one where there is none.
-/

namespace NonlinearProgram

open Scalar

variable {α : Type} [Scalar α] {β γ : Type}

abbrev Edit (α : Type) [Scalar α] := EStateM (Error α) (Problem α)

theorem Assembly.apply_constraint (p : Problem α) (f : Function α) (bounds : BoundsArgument α)
    (scales : Option (Datum α)) :
    (Assembly.constraint f bounds scales).apply p =
      p.append <$> p.newConstraint f bounds scales := by
  simp only [Assembly.apply, Problem.addConstraint, Attempt.outcome_bind, bind_assoc,
    map_eq_pure_bind]
  rfl

namespace Edit

instance : MonadLift (Except (Error α)) (EStateM (Error α) (Problem α)) where
  monadLift
    | .ok b => pure b
    | .error e => throw e

/-- What becomes of a problem in memory where the reply and the new problem of a computation are
put in place, and nothing where it fails. -/
def commit (p : Problem α) (f : γ → β × Problem α) :
    Except (Error α) γ → EStateM.Result (Error α) (Problem α) β
  | .ok c => .ok (f c).1 (f c).2
  | .error e => .error e p

theorem commit_eq_ok_iff {p q : Problem α} {f : γ → β × Problem α} {x : Except (Error α) γ}
    {b : β} : commit p f x = .ok b q ↔ ∃ c, x = .ok c ∧ (f c).1 = b ∧ (f c).2 = q := by
  cases x with
  | error e => simp [commit]
  | ok c => simp [commit]

theorem commit_eq_error_iff {p q : Problem α} {f : γ → β × Problem α} {x : Except (Error α) γ}
    {e : Error α} : commit p f x = .error e q ↔ x = .error e ∧ q = p := by
  cases x with
  | error e' => simp [commit, eq_comm]
  | ok c => simp [commit]

def refuseFrozen : Edit α Unit := do
  if (← get).frozen then throw .problemFrozen

def argumentBound (index : Datum α) (bound : BoundArgument α) : Edit α Unit := do
  refuseFrozen
  let p ← get
  if !(← index.isWithin p.inputSize) then
    throw (.indexOutOfRange "variable" index p.inputSize)
  let i ← bound.require "Argument"
  let position ← Datum.itemAt (List.range p.argumentBounds.length) index
  modify fun p => { p with argumentBounds := p.argumentBounds.set position i }

def argumentBounds (bounds : BoundsArgument α) : Edit α Unit := do
  refuseFrozen
  let items ← bounds.items
  let p ← get
  if items.length ≠ p.inputSize then
    throw (.dimensionMismatch "argument bounds" p.inputSize items.length)
  let intervals ← (items.mapM (·.require "Argument") : Except (Error α) (List (Interval α)))
  modify fun p => { p with argumentBounds := intervals }

def allArgumentBounds (bound : BoundArgument α) : Edit α Unit := do
  argumentBounds (.several (List.replicate (← get).inputSize bound))

def startingPoint (x : Datum α) : Edit α Unit := do
  refuseFrozen
  let t ← Tensor.ofDatum x
  let p ← get
  if t.shape ≠ [p.inputSize] then
    throw (.dimensionMismatch "starting point" p.inputSize t.size)
  modify fun p => { p with startingPoint := some t.entries }

def constraint (f : Function α) (bounds : BoundsArgument α) (scales : Option (Datum α)) :
    Edit α Nat := do
  refuseFrozen
  let p ← get
  if f.inputSize ≠ p.inputSize then
    throw (.dimensionMismatch s!"input of constraint '{f.label}'" p.inputSize f.inputSize)
  let items ← bounds.itemsOrSingle
  let scales ← (scales.getD (.vector (List.replicate items.length 1.0))).items
  let scales ← (scales.mapM (·.toScalar) : Except (Error α) (List α))
  let c ← Constraint.make f items (scales.map .number)
  modify fun p => p.append c
  return (← get).constraints.length - 1

theorem run_get_bind (f : Problem α → Edit α β) (p : Problem α) :
    (get >>= f).run p = (f p).run p := rfl

section Commit

variable {δ : Type} {p : Problem α} {f : δ → β × Problem α}

theorem run_liftM_bind {x : Except (Error α) γ} {k : γ → Edit α β} {g : γ → Except (Error α) δ}
    (h : ∀ c, (k c).run p = commit p f (g c)) :
    ((liftM x : Edit α γ) >>= k).run p = commit p f (x >>= g) := by
  cases x with
  | error e => rfl
  | ok c => exact h c

theorem run_check {c : Prop} [Decidable c] {e : Error α} {k : PUnit → Edit α β}
    {g : PUnit → Except (Error α) δ} {m : Edit α β} {x : Except (Error α) δ}
    (h : m.run p = commit p f x) :
    (if c then throw e >>= k else m).run p = commit p f (if c then throw e >>= g else x) := by
  by_cases hc : c
  · rw [if_pos hc, if_pos hc]
    rfl
  · rw [if_neg hc, if_neg hc]
    exact h

theorem run_refuseFrozen_bind {k : Unit → Edit α β} {g : Unit → Except (Error α) δ}
    (h : (k ()).run p = commit p f (g ())) :
    (refuseFrozen >>= k).run p = commit p f (p.checkMutable >>= g) := by
  cases hp : p.frozen with
  | true =>
      simp only [refuseFrozen, Problem.checkMutable, bind_assoc, run_get_bind, hp, if_true]
      rfl
  | false =>
      simp only [refuseFrozen, Problem.checkMutable, bind_assoc, run_get_bind, hp]
      exact h

theorem run_map {m : Edit α γ} {g : δ → γ × Problem α} {x : Except (Error α) δ} (r : γ → β)
    (h : m.run p = commit p g x) :
    (r <$> m).run p = commit p (fun c => (r (g c).1, (g c).2)) x := by
  change EStateM.map r m p = _
  change m p = _ at h
  rw [EStateM.map, h]
  cases x with
  | error e => rfl
  | ok c => rfl

theorem run_liftM_bind_write {x : Except (Error α) δ} {k : δ → Edit α β}
    (h : ∀ c, (k c).run p = .ok (f c).1 (f c).2) :
    ((liftM x : Edit α δ) >>= k).run p = commit p f x := by
  cases x with
  | error e => rfl
  | ok c => exact h c

theorem commit_map {x : Except (Error α) γ} (g : γ → δ) :
    commit p f (g <$> x) = commit p (f ∘ g) x := by
  cases x with
  | error e => rfl
  | ok c => rfl

end Commit

variable {p : Problem α}

theorem run_argumentBound {index : Datum α} {bound : BoundArgument α} :
    (argumentBound index bound).run p = commit p ((), ·) (p.setArgumentBound index bound) := by
  refine run_refuseFrozen_bind ?_
  refine run_liftM_bind fun within => run_check ?_
  refine run_liftM_bind fun i => run_liftM_bind fun position => ?_
  rfl

theorem run_argumentBounds {bounds : BoundsArgument α} :
    (argumentBounds bounds).run p = commit p ((), ·) (p.setArgumentBounds bounds) := by
  refine run_refuseFrozen_bind ?_
  refine run_liftM_bind fun items => run_check ?_
  refine run_liftM_bind fun intervals => ?_
  rfl

theorem run_allArgumentBounds {bound : BoundArgument α} :
    (allArgumentBounds bound).run p = commit p ((), ·) (p.setAllArgumentBounds bound) :=
  run_argumentBounds

theorem run_startingPoint {x : Datum α} :
    (startingPoint x).run p = commit p ((), ·) (p.setStartingPoint x) := by
  refine run_refuseFrozen_bind ?_
  refine run_liftM_bind fun t => run_check ?_
  rfl

theorem run_constraint {f : Function α} {bounds : BoundsArgument α} {scales : Option (Datum α)} :
    (constraint f bounds scales).run p =
      commit p (fun c => (p.constraints.length, p.append c)) (p.newConstraint f bounds scales) := by
  refine run_refuseFrozen_bind (run_check ?_)
  refine run_liftM_bind fun items => run_liftM_bind fun given => run_liftM_bind fun factors => ?_
  refine run_liftM_bind_write fun c => ?_
  -- The length is read after the writing, so it counts the new constraint.
  change EStateM.Result.ok ((p.constraints ++ [c]).length - 1) (p.append c) =
    .ok p.constraints.length (p.append c)
  rw [List.length_append, List.length_singleton, Nat.add_sub_cancel]

end Edit

namespace Assembly

def perform : Assembly α → Edit α (Option Nat)
  | argumentBound index bound => (fun _ => none) <$> Edit.argumentBound index bound
  | argumentBounds bounds => (fun _ => none) <$> Edit.argumentBounds bounds
  | allArgumentBounds bound => (fun _ => none) <$> Edit.allArgumentBounds bound
  | startingPoint x => (fun _ => none) <$> Edit.startingPoint x
  | constraint f bounds scales => some <$> Edit.constraint f bounds scales
  | freeze => (fun _ => none) <$> modify Problem.freeze

def reply (p : Problem α) : Assembly α → Option Nat
  | constraint .. => some p.constraints.length
  | _ => none

theorem run_perform (p : Problem α) (call : Assembly α) :
    call.perform.run p = Edit.commit p (call.reply p, ·) (call.apply p) := by
  cases call with
  | argumentBound index bound => exact Edit.run_map _ Edit.run_argumentBound
  | argumentBounds bounds => exact Edit.run_map _ Edit.run_argumentBounds
  | allArgumentBounds bound => exact Edit.run_map _ Edit.run_allArgumentBounds
  | startingPoint x => exact Edit.run_map _ Edit.run_startingPoint
  | constraint f bounds scales =>
      rw [apply_constraint, Edit.commit_map]
      exact Edit.run_map _ Edit.run_constraint
  | freeze => rfl

end Assembly

end NonlinearProgram
