import NonlinearProgram.Function.Supplied
import NonlinearProgram.Proofs.Attempt

/-!
# What callables are asked

A function that is made of callables has a hook for each of them. The hook passes on the point, and
the index where the function has more than one output, so that the tier is the highest for
which there are callables.
-/

namespace NonlinearProgram

variable {α : Type}

namespace Datum

variable [Scalar α] {d : Datum α} {least : Nat} {refused : Error α}

theorem whole?_of_natFrom {m : { m : Nat // least ≤ m }} (h : d.natFrom least refused = .ok m) :
    d.whole? = some (m.val : Int) := by
  obtain ⟨_, -, h⟩ := bind_eq_ok_iff.1 h
  cases hd : d.whole? with
  | none =>
      rw [hd] at h
      cases h
  | some n =>
      simp only [hd] at h
      split at h
      · next hn =>
          cases h
          rw [Int.toNat_of_nonneg hn.2]
      · cases h

theorem natFrom_whole {n : Nat} (h : least ≤ n) :
    (whole n : Datum α).natFrom least refused = .ok ⟨n, h⟩ := by
  simp [natFrom, toWhole, whole?, h]

end Datum

namespace Function

def hookOf (outputSize : Nat) (callable : Callable α) : DerivativeHook α := fun xs index =>
  return .datum (← callable xs (if outputSize = 1 then none else some index))

/-- A function has hooks for some callables, and no others. -/
structure Wraps (f : Function α) (compute : Callable α) (gradient hessian : Option (Callable α)) :
    Prop where
  compute : f.hooks.compute = fun xs => return .datum (← compute xs none)
  gradient : f.hooks.gradient? = gradient.map (hookOf f.outputSize)
  hessian : f.hooks.hessian? = hessian.map (hookOf f.outputSize)

variable {f : Function α} {compute : Callable α} {gradient hessian : Option (Callable α)}

theorem Wraps.tier_iff (h : f.Wraps compute gradient hessian) :
    (Tier.differentiable ≤ f.tier ↔ gradient.isSome = true) ∧
      (Tier.twiceDifferentiable ≤ f.tier ↔ hessian.isSome = true) := by
  constructor
  · refine f.hooks.gradient?_isSome.symm.trans ?_
    rw [h.gradient, Option.isSome_map]
  · refine f.hooks.hessian?_isSome.symm.trans ?_
    rw [h.hessian, Option.isSome_map]

variable [Scalar α] {callableName : Option String} {inputSize outputSize name : Datum α}

theorem declare_eq_ok {family : String} {hooks : Hooks α}
    (h : declare family name inputSize outputSize hooks = .ok f) :
    outputSize.whole? = some (f.outputSize : Int) ∧ f.hooks = hooks := by
  obtain ⟨n, -, h⟩ := bind_eq_ok_iff.1 h
  obtain ⟨m, hm, h⟩ := bind_eq_ok_iff.1 h
  cases h
  exact ⟨Datum.whole?_of_natFrom hm, rfl⟩

theorem exists_declare_eq_ok (family : String) (name : Datum α) (n : Nat) {m : Nat} (hm : 1 ≤ m)
    (hooks : Hooks α) : ∃ f : Function α, declare family name (.whole n) (.whole m) hooks = .ok f ∧
      f.inputSize = n ∧ f.outputSize = m := by
  unfold declare
  rw [Datum.natFrom_whole n.zero_le, Datum.natFrom_whole hm]
  exact ⟨_, rfl, rfl, rfl⟩

theorem wraps_of_ofCallables
    (h : ofCallables callableName compute gradient hessian inputSize outputSize name = .ok f) :
    f.Wraps compute gradient hessian := by
  have hsingle (hwhole : outputSize.whole? = some (f.outputSize : Int)) :
      (outputSize.whole? == some 1) = true ↔ f.outputSize = 1 := by
    rw [hwhole, beq_iff_eq, Option.some_inj]
    exact Int.ofNat_inj
  unfold ofCallables at h
  cases gradient with
  | none =>
      cases hessian with
      | none =>
          obtain ⟨-, hhooks⟩ := declare_eq_ok h
          constructor <;> rw [hhooks] <;> rfl
      | some hessian => cases h
  | some gradient =>
      cases hessian with
      | none =>
          obtain ⟨hwhole, hhooks⟩ := declare_eq_ok h
          simp only [hsingle hwhole] at hhooks
          constructor <;> rw [hhooks] <;> rfl
      | some hessian =>
          obtain ⟨hwhole, hhooks⟩ := declare_eq_ok h
          simp only [hsingle hwhole] at hhooks
          constructor <;> rw [hhooks] <;> rfl

/-- A callable for second derivatives is refused without one for first derivatives, whatever else
was given. -/
theorem ofCallables_of_hessian_only (hg : gradient.isSome = false) (hh : hessian.isSome = true) :
    ofCallables callableName compute gradient hessian inputSize outputSize name =
      .error .hessianWithoutGradient := by
  cases gradient with
  | some gradient => cases hg
  | none =>
      cases hessian with
      | none => cases hh
      | some hessian => rfl

theorem exists_ofCallables_eq_ok (hh : hessian.isSome = true → gradient.isSome = true) (n : Nat)
    {m : Nat} (hm : 1 ≤ m) :
    ∃ f, ofCallables callableName compute gradient hessian (.whole n) (.whole m) name = .ok f ∧
      f.inputSize = n ∧ f.outputSize = m := by
  unfold ofCallables
  cases gradient with
  | none =>
      cases hessian with
      | none => exact exists_declare_eq_ok _ _ n hm _
      | some hessian => cases hh rfl
  | some gradient =>
      cases hessian with
      | none => exact exists_declare_eq_ok _ _ n hm _
      | some hessian => exact exists_declare_eq_ok _ _ n hm _

end Function

end NonlinearProgram
