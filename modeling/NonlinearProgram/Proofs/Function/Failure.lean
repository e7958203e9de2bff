import NonlinearProgram.Proofs.Function

/-!
# How evaluations fail

A function that is asked for what its tier provides, at a vector of its input size and at an index
of an output, fails only through its hooks: a hook fails itself, or what it returns stands for no
tensor, or the tensor does not fit. No check of the tier, of the argument or of the index refuses
such an evaluation.
-/

namespace NonlinearProgram

variable {α : Type} [Scalar α]

/-- The errors of a hook and of what it returned, where `misfit` tells how a tensor does not
fit. -/
inductive HookError (result : Except (Error α) (ArrayLike α)) (misfit : Tensor α → Option (Error α))
    (e : Error α) : Prop
  | raised (h : result = .error e)
  | conversion {a : ArrayLike α} (h : result = .ok a) (ht : a.toTensor = .error e)
  | shape {a : ArrayLike α} {t : Tensor α} (h : result = .ok a) (ht : a.toTensor = .ok t)
      (hmisfit : misfit t = some e)

theorem failsOnly_hook {β : Type} {result : Except (Error α) (ArrayLike α)}
    {misfit : Tensor α → Option (Error α)} {fit : Tensor α → Except (Error α) β}
    (hfit : ∀ t, FailsOnly (misfit t = some ·) (fit t)) :
    FailsOnly (HookError result misfit) (result >>= fun a => a.toTensor >>= fit) := by
  intro e he
  rcases bind_eq_error_iff.1 he with he | ⟨a, ha, he⟩
  · exact .raised he
  rcases bind_eq_error_iff.1 he with he | ⟨t, ht, he⟩
  · exact .conversion ha he
  · exact .shape ha ht (hfit t e he)

omit [Scalar α] in
theorem failsOnly_misfit {β : Type} {fits : Prop} [Decidable fits] {b : β} {e : Error α} :
    FailsOnly ((if fits then none else some e) = some ·)
      (if fits then pure b else throw e : Except (Error α) β) := by
  by_cases h : fits
  · rw [if_pos h, if_pos h]
    exact .pure _
  · rw [if_neg h, if_neg h]
    rintro _ ⟨⟩
    rfl

namespace Function

def wrongSize (f : Function α) (what : String) (size : Nat) (t : Tensor α) : Option (Error α) :=
  if t.size = size then none else some (.dimensionMismatch s!"{what} of '{f.label}'" size t.size)

def wrongShape (f : Function α) (t : Tensor α) : Option (Error α) :=
  if t.shape = [f.inputSize, f.inputSize] then none
  else some (.dimensionMismatch s!"hessian of '{f.label}'" (f.inputSize * f.inputSize : Nat) t.size)

/-- The errors that a function's own hooks bring about at a point. -/
inductive FailsAt (f : Function α) (xs : List α) (e : Error α) : Prop
  | value (h : HookError (f.hooks.compute xs) (f.wrongSize "result" f.outputSize) e)
  | gradient {hook : DerivativeHook α} {i : Nat} (hhook : f.hooks.gradient? = some hook)
      (hi : i < f.outputSize)
      (h : HookError (hook xs (.whole i)) (f.wrongSize "gradient" f.inputSize) e)
  | hessian {hook : DerivativeHook α} {i : Nat} (hhook : f.hooks.hessian? = some hook)
      (hi : i < f.outputSize) (h : HookError (hook xs (.whole i)) f.wrongShape e)

variable {f : Function α} {xs : List α}

theorem checkArgument_vector (hxs : xs.length = f.inputSize) :
    f.checkArgument (.vector xs) = .ok xs :=
  checkArgument_eq_ok_iff.2 ⟨Tensor.ofDatum_vector xs, hxs⟩

theorem checkIndex_whole {i : Nat} (hi : i < f.outputSize) : f.checkIndex (.whole i) = .ok () := by
  have hwithin : (Datum.whole i : Datum α).isWithin f.outputSize = .ok true := by
    simp [Datum.isWithin, Datum.whole?, hi]
  unfold checkIndex
  rw [hwithin]
  rfl

theorem failsOnly_checkResult {what : String} {size : Nat}
    (result : Except (Error α) (ArrayLike α)) :
    FailsOnly (HookError result (f.wrongSize what size)) (result >>= f.checkResult what size) :=
  failsOnly_hook fun _ => failsOnly_misfit

theorem failsOnly_checkSquare (result : Except (Error α) (ArrayLike α)) :
    FailsOnly (HookError result f.wrongShape) (result >>= f.checkSquare) :=
  failsOnly_hook fun _ => failsOnly_misfit

theorem failsOnly_compute (hxs : xs.length = f.inputSize) :
    FailsOnly (f.FailsAt xs) (f.compute (.vector xs)) := by
  unfold compute
  rw [checkArgument_vector hxs]
  exact (failsOnly_checkResult _).mono fun e => .value

theorem failsOnly_gradient (hxs : xs.length = f.inputSize) (hf : f.hooks.gradient?.isSome = true)
    {i : Nat} (hi : i < f.outputSize) :
    FailsOnly (f.FailsAt xs) (f.gradient (.vector xs) (.whole i)) := by
  obtain ⟨hook, hhook⟩ := Option.isSome_iff_exists.1 hf
  unfold gradient
  rw [hhook, checkArgument_vector hxs, checkIndex_whole hi]
  exact (failsOnly_checkResult _).mono fun e => .gradient hhook hi

theorem failsOnly_jacobian (hxs : xs.length = f.inputSize) (hf : f.hooks.gradient?.isSome = true) :
    FailsOnly (f.FailsAt xs) (f.jacobian (.vector xs)) := by
  obtain ⟨hook, hhook⟩ := Option.isSome_iff_exists.1 hf
  unfold jacobian
  rw [hhook, checkArgument_vector hxs]
  change FailsOnly _ (List.mapM _ _ >>= _)
  refine FailsOnly.bind (.mapM fun i hi => ?_) fun rows _ => .pure _
  exact failsOnly_gradient hxs hf (List.mem_range.1 hi)

theorem failsOnly_hessian (hxs : xs.length = f.inputSize) (hf : f.hooks.hessian?.isSome = true)
    {i : Nat} (hi : i < f.outputSize) :
    FailsOnly (f.FailsAt xs) (f.hessian (.vector xs) (.whole i)) := by
  obtain ⟨hook, hhook⟩ := Option.isSome_iff_exists.1 hf
  unfold hessian
  rw [hhook, checkArgument_vector hxs, checkIndex_whole hi]
  exact (failsOnly_checkSquare _).mono fun e => .hessian hhook hi

end Function

/-- The errors with which a function refuses what it is asked, before a hook is called: a
derivative beyond its tier, an index beyond its outputs, or an argument of another shape. -/
def Error.RefusesRequest : Error α → Prop
  | .capabilityMismatch .. => True
  | .indexOutOfRange .. => True
  | .dimensionMismatch what .. => ∃ name : String, what = s!"argument of '{name}'"
  | _ => False

theorem Datum.failsOnly_toEntry (d : Datum α) :
    FailsOnly (fun e : Error α => ∃ fault, e = .fault fault) d.toEntry := by
  intro e he
  cases d with
  | nothing | flag b | number x => cases he
  | whole n =>
      change (if _ then _ else _) = _ at he
      split at he
      · cases he
      · cases he
        exact ⟨_, rfl⟩
  | text s =>
      simp only [Datum.toEntry, Datum.toScalar] at he
      split at he
      · cases he
      · cases he
        exact ⟨_, rfl⟩
  | list items =>
      cases he
      exact ⟨_, rfl⟩
  | record fields =>
      cases he
      exact ⟨_, rfl⟩

theorem ArrayLike.failsOnly_toTensor (a : ArrayLike α) :
    FailsOnly (fun e : Error α => ∃ fault, e = .fault fault) a.toTensor := by
  cases a with
  | tensor t => exact .ok t
  | datum d =>
      change FailsOnly _ (Tensor.ofDatum d)
      unfold Tensor.ofDatum
      split
      · next shape agree _ =>
          cases Tensor.misfit shape agree with
          | some fault =>
              intro e he
              cases he
              exact ⟨fault, rfl⟩
          | none =>
              refine FailsOnly.bind (.mapM fun leaf _ => ?_) fun _ _ => .pure _
              exact leaf.failsOnly_toEntry

theorem HookError.raised_of_refusesRequest {result : Except (Error α) (ArrayLike α)}
    {misfit : Tensor α → Option (Error α)} {e : Error α} (h : HookError result misfit e)
    (hmisfit : ∀ t, misfit t = some e → ¬e.RefusesRequest) (he : e.RefusesRequest) :
    result = .error e := by
  cases h with
  | raised h => exact h
  | conversion h ht =>
      obtain ⟨fault, rfl⟩ := ArrayLike.failsOnly_toTensor _ _ ht
      exact he.elim
  | shape h ht hm => exact absurd he (hmisfit _ hm)

namespace Function

/-- The errors that a function's own hooks fail with at a point. -/
inductive RaisesAt (f : Function α) (xs : List α) (e : Error α) : Prop
  | value (h : f.hooks.compute xs = .error e)
  | gradient {hook : DerivativeHook α} {i : Nat} (hhook : f.hooks.gradient? = some hook)
      (hi : i < f.outputSize) (h : hook xs (.whole i) = .error e)
  | hessian {hook : DerivativeHook α} {i : Nat} (hhook : f.hooks.hessian? = some hook)
      (hi : i < f.outputSize) (h : hook xs (.whole i) = .error e)

omit [Scalar α] in
theorem not_refusesRequest_of_what (what : String) {label : String} {size count : Int}
    (hwhat : what = "result" ∨ what = "gradient" ∨ what = "hessian") :
    ¬(Error.dimensionMismatch s!"{what} of '{label}'" size count : Error α).RefusesRequest := by
  rintro ⟨name, hname⟩
  -- The first letter tells these texts from one that begins with "argument".
  have hfirst := congrArg (fun s : String => s.toList.head?) hname
  rcases hwhat with rfl | rfl | rfl
  · simp [toString] at hfirst
  · simp [toString] at hfirst
  · simp [toString] at hfirst

variable {f : Function α} {e : Error α}

theorem not_refusesRequest_of_wrongSize {what : String} {size : Nat}
    (hwhat : what = "result" ∨ what = "gradient") (t : Tensor α)
    (h : f.wrongSize what size t = some e) : ¬e.RefusesRequest := by
  cases (Option.ite_none_left_eq_some.1 h).2
  exact not_refusesRequest_of_what what (hwhat.imp_right .inl)

theorem not_refusesRequest_of_wrongShape (t : Tensor α) (h : f.wrongShape t = some e) :
    ¬e.RefusesRequest := by
  cases (Option.ite_none_left_eq_some.1 h).2
  exact not_refusesRequest_of_what "hessian" (.inr (.inr rfl))

theorem FailsAt.raisesAt {xs : List α} (h : f.FailsAt xs e) (he : e.RefusesRequest) :
    f.RaisesAt xs e := by
  cases h with
  | value h =>
      exact .value (h.raised_of_refusesRequest (not_refusesRequest_of_wrongSize (.inl rfl)) he)
  | gradient hhook hi h =>
      refine .gradient hhook hi ?_
      exact h.raised_of_refusesRequest (not_refusesRequest_of_wrongSize (.inr rfl)) he
  | hessian hhook hi h =>
      refine .hessian hhook hi ?_
      exact h.raised_of_refusesRequest not_refusesRequest_of_wrongShape he

end Function

end NonlinearProgram
