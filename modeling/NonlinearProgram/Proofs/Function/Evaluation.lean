import NonlinearProgram.Proofs.Function.Failure

/-!
# Evaluations check by check

The public operations of a function stand between callers, who may hand over anything, and hooks,
which may return anything. Each of them ends with the first of its checks that does not pass (tier,
argument, index, hook, result) or with a result that fits. The operations differ in their hook, in
the tier it needs, and in the look at what it returned; what they have in common is one pipeline,
and its ends are told once for all of them.
-/

namespace NonlinearProgram

variable {α : Type}

namespace Datum

def IsNumeric : Datum α → Prop
  | flag _ => True
  | whole _ => True
  | number _ => True
  | _ => False

variable [Scalar α]

/-- A number from zero up to a size: a whole one, or one that lies between two of these. -/
inductive Indexes (size : Nat) (d : Datum α) : Prop
  | whole {n : Int} (h : d.whole? = some n) (hleast : 0 ≤ n) (hbelow : n < size)
  | between {x : α} (h : d = number x) (hwhole : Scalar.toInt? x = none)
      (hleast : Scalar.atMost 0.0 x = true) (hbelow : Scalar.less x (Scalar.ofInt size) = true)

variable {d : Datum α} {size : Nat}

theorem isNumeric_of_whole?_eq_some {n : Int} (h : d.whole? = some n) : d.IsNumeric := by
  cases d with
  | flag b => trivial
  | whole n => trivial
  | number x => trivial
  | nothing => cases h
  | text s => cases h
  | list items => cases h
  | record fields => cases h

theorem Indexes.isNumeric (h : d.Indexes size) : d.IsNumeric := by
  cases h with
  | whole h => exact isNumeric_of_whole?_eq_some h
  | between h =>
      rw [h]
      trivial

theorem isWithin_of_not_isNumeric (h : ¬d.IsNumeric) :
    d.isWithin size = .error (.fault (.notOrdered "<=" "int" d.typeName)) := by
  cases d with
  | flag b => exact absurd trivial h
  | whole n => exact absurd trivial h
  | number x => exact absurd trivial h
  | nothing => rfl
  | text s => rfl
  | list items => rfl
  | record fields => rfl

theorem isWithin_of_isNumeric (h : d.IsNumeric) (size : Nat) :
    ∃ b, d.isWithin size = .ok b ∧ (b = true ↔ d.Indexes size) := by
  unfold isWithin
  cases hd : d.whole? with
  | some n =>
      refine ⟨_, rfl, ?_⟩
      rw [decide_eq_true_iff]
      constructor
      · rintro ⟨hleast, hbelow⟩
        exact .whole hd hleast hbelow
      · intro hindex
        cases hindex with
        | whole h' hleast hbelow =>
            rw [hd, Option.some_inj] at h'
            rw [h']
            exact ⟨hleast, hbelow⟩
        | between h' hwhole =>
            rw [h', whole?, hwhole] at hd
            cases hd
  | none =>
      cases d with
      | number x =>
          refine ⟨_, rfl, ?_⟩
          rw [Bool.and_eq_true]
          constructor
          · rintro ⟨hleast, hbelow⟩
            exact .between rfl hd hleast hbelow
          · intro hindex
            cases hindex with
            | whole h' =>
                rw [hd] at h'
                cases h'
            | between h' _ hleast hbelow =>
                cases h'
                exact ⟨hleast, hbelow⟩
      | flag b => cases hd
      | whole n => cases hd
      | nothing => exact h.elim
      | text s => exact h.elim
      | list items => exact h.elim
      | record fields => exact h.elim

end Datum

namespace Function

variable [Scalar α] {f : Function α} {x index : Datum α} {xs : List α} {e : Error α}

/-- The errors of an argument that is not a vector of the input size. -/
inductive RefusesArgument (f : Function α) (x : Datum α) : Error α → Prop
  | conversion {fault : Fault} (h : Tensor.ofDatum x = .error (.fault fault)) :
      RefusesArgument f x (.fault fault)
  | length {t : Tensor α} (h : Tensor.ofDatum x = .ok t) (hshape : t.shape ≠ [f.inputSize]) :
      RefusesArgument f x
        (.dimensionMismatch s!"argument of '{f.label}'" f.inputSize t.size)

/-- The errors of an index that is not one of an output component. -/
inductive RefusesIndex (f : Function α) (index : Datum α) : Error α → Prop
  | conversion (h : ¬index.IsNumeric) :
      RefusesIndex f index (.fault (.notOrdered "<=" "int" index.typeName))
  | range (hnumeric : index.IsNumeric) (h : ¬index.Indexes f.outputSize) :
      RefusesIndex f index (.indexOutOfRange s!"output of '{f.label}'" index f.outputSize)

theorem checkArgument_eq_error_iff : f.checkArgument x = .error e ↔ f.RefusesArgument x e := by
  unfold checkArgument
  rw [bind_eq_error_iff]
  constructor
  · rintro (h | ⟨t, ht, h⟩)
    · obtain ⟨fault, rfl⟩ := ArrayLike.failsOnly_toTensor (.datum x) e h
      exact .conversion h
    · split at h
      · cases h
      · next hshape =>
          cases h
          exact .length ht hshape
  · intro h
    cases h with
    | conversion h => exact .inl h
    | length h hshape =>
        refine .inr ⟨_, h, ?_⟩
        rw [if_neg hshape]
        rfl

theorem checkIndex_eq_ok_iff : f.checkIndex index = .ok () ↔ index.Indexes f.outputSize := by
  unfold checkIndex
  by_cases hnumeric : index.IsNumeric
  · obtain ⟨b, hwithin, hb⟩ := Datum.isWithin_of_isNumeric hnumeric f.outputSize
    rw [hwithin, ← hb]
    cases b with
    | true => simp [ok_bind]
    | false => simp [ok_bind]
  · rw [Datum.isWithin_of_not_isNumeric hnumeric]
    constructor
    · intro h
      cases h
    · intro h
      exact absurd h.isNumeric hnumeric

theorem checkIndex_eq_error_iff : f.checkIndex index = .error e ↔ f.RefusesIndex index e := by
  by_cases hnumeric : index.IsNumeric
  · obtain ⟨b, hwithin, hb⟩ := Datum.isWithin_of_isNumeric hnumeric f.outputSize
    unfold checkIndex
    rw [hwithin]
    constructor
    · intro h
      cases b with
      | true => cases h
      | false =>
          cases h
          exact .range hnumeric fun hindex => Bool.false_ne_true (hb.2 hindex)
    · intro h
      cases h with
      | conversion h => exact absurd hnumeric h
      | range _ h =>
          rw [← hb, Bool.not_eq_true] at h
          rw [h]
          rfl
  · unfold checkIndex
    rw [Datum.isWithin_of_not_isNumeric hnumeric]
    constructor
    · intro h
      cases h
      exact .conversion hnumeric
    · intro h
      cases h with
      | conversion => rfl
      | range h => exact absurd h hnumeric

/-- What sets one public operation of a function apart from the others: the hook and the tier it
needs, whether it takes an index, and how a tensor that the hook returned is looked at. -/
structure Evaluation (f : Function α) (β : Type) where
  operation : String
  needs : Tier
  hook? : Option (DerivativeHook α)
  provided : hook?.isSome = true ↔ needs ≤ f.tier
  indexed : Bool
  misfit : Tensor α → Option (Error α)
  read : Tensor α → β

def values (f : Function α) : f.Evaluation (List α) where
  operation := "compute"
  needs := .valueOnly
  hook? := some fun xs _ => f.hooks.compute xs
  provided := by simp [Tier.le_def, Tier.order]
  indexed := false
  misfit := f.wrongSize "result" f.outputSize
  read := Tensor.entries

def gradients (f : Function α) : f.Evaluation (List α) where
  operation := "gradient"
  needs := .differentiable
  hook? := f.hooks.gradient?
  provided := f.hooks.gradient?_isSome
  indexed := true
  misfit := f.wrongSize "gradient" f.inputSize
  read := Tensor.entries

def hessians (f : Function α) : f.Evaluation (Matrix α) where
  operation := "hessian"
  needs := .twiceDifferentiable
  hook? := f.hooks.hessian?
  provided := f.hooks.hessian?_isSome
  indexed := true
  misfit := f.wrongShape
  read t := ⟨f.inputSize, Tensor.rowsOf f.inputSize f.inputSize t.entries⟩

namespace Evaluation

variable {β : Type} {q : f.Evaluation β} {hook : DerivativeHook α}

def fit (q : f.Evaluation β) (t : Tensor α) : Except (Error α) β :=
  match q.misfit t with
  | none => .ok (q.read t)
  | some e => .error e

def checkIndex (q : f.Evaluation β) (index : Datum α) : Except (Error α) Unit :=
  if q.indexed then f.checkIndex index else .ok ()

def run (q : f.Evaluation β) (x index : Datum α) : Except (Error α) β :=
  match q.hook? with
  | none => .error (f.missing q.operation q.needs)
  | some hook => do
    let point ← f.checkArgument x
    q.checkIndex index
    let a ← hook point index
    let t ← a.toTensor
    q.fit t

/-- A hook is called once tier, argument and index have passed. -/
structure Calls (q : f.Evaluation β) (x index : Datum α) (hook : DerivativeHook α)
    (xs : List α) : Prop where
  hook : q.hook? = some hook
  argument : Tensor.ofDatum x = .ok (.vector xs)
  length : xs.length = f.inputSize
  index : q.indexed = true → index.Indexes f.outputSize

/-- How an evaluation ends. Every end but the last is a check that is the first not to pass; what a
hook returns is converted before its size is looked at (`HookError`). -/
inductive Ends (q : f.Evaluation β) (x index : Datum α) : Except (Error α) β → Prop
  | tier (h : ¬q.needs ≤ f.tier) : Ends q x index (.error (f.missing q.operation q.needs))
  | argument {e : Error α} (htier : q.needs ≤ f.tier) (h : f.RefusesArgument x e) :
      Ends q x index (.error e)
  | index {e : Error α} {xs : List α} (htier : q.needs ≤ f.tier)
      (hx : Tensor.ofDatum x = .ok (.vector xs)) (hlength : xs.length = f.inputSize)
      (hindexed : q.indexed = true) (h : f.RefusesIndex index e) : Ends q x index (.error e)
  | hook {e : Error α} {hook : DerivativeHook α} {xs : List α} (h : q.Calls x index hook xs)
      (he : HookError (hook xs index) q.misfit e) : Ends q x index (.error e)
  | value {hook : DerivativeHook α} {xs : List α} {a : ArrayLike α} {t : Tensor α}
      (h : q.Calls x index hook xs) (ha : hook xs index = .ok a) (ht : a.toTensor = .ok t)
      (hfits : q.misfit t = none) : Ends q x index (.ok (q.read t))

omit [Scalar α] in
theorem fit_eq_ok_iff {t : Tensor α} {b : β} :
    q.fit t = .ok b ↔ q.misfit t = none ∧ q.read t = b := by
  unfold fit
  cases q.misfit t with
  | none => simp
  | some e => simp

omit [Scalar α] in
theorem fit_eq_error_iff {t : Tensor α} : q.fit t = .error e ↔ q.misfit t = some e := by
  unfold fit
  cases q.misfit t with
  | none => simp
  | some e => simp

omit [Scalar α] in
theorem exists_hook (h : q.needs ≤ f.tier) : ∃ hook, q.hook? = some hook :=
  Option.isSome_iff_exists.1 (q.provided.2 h)

theorem checkIndex_eq_ok_iff :
    q.checkIndex index = .ok () ↔ (q.indexed = true → index.Indexes f.outputSize) := by
  unfold checkIndex
  cases q.indexed with
  | false => simp
  | true => simp [Function.checkIndex_eq_ok_iff]

theorem checkIndex_eq_error_iff :
    q.checkIndex index = .error e ↔ q.indexed = true ∧ f.RefusesIndex index e := by
  unfold checkIndex
  cases q.indexed with
  | false => simp
  | true => simp [Function.checkIndex_eq_error_iff]

theorem run_of_hook (hhook : q.hook? = some hook) : q.run x index = (do
    let point ← f.checkArgument x
    q.checkIndex index
    let a ← hook point index
    let t ← a.toTensor
    q.fit t) := by
  unfold run
  rw [hhook]

theorem Calls.run_eq (h : q.Calls x index hook xs) :
    q.run x index = (hook xs index >>= fun a => a.toTensor >>= q.fit) := by
  have hpoint : f.checkArgument x = .ok xs := checkArgument_eq_ok_iff.2 ⟨h.argument, h.length⟩
  rw [run_of_hook h.hook, hpoint, ok_bind, checkIndex_eq_ok_iff.2 h.index]
  rfl

theorem Calls.ends_run (h : q.Calls x index hook xs) : q.Ends x index (q.run x index) := by
  rw [h.run_eq]
  cases ha : hook xs index with
  | error e => exact .hook h (.raised ha)
  | ok a =>
      rw [ok_bind]
      cases ht : a.toTensor with
      | error e => exact .hook h (.conversion ha ht)
      | ok t =>
          rw [ok_bind]
          cases hfit : q.misfit t with
          | some e =>
              rw [fit_eq_error_iff.2 hfit]
              exact .hook h (.shape ha ht hfit)
          | none =>
              rw [fit_eq_ok_iff.2 ⟨hfit, rfl⟩]
              exact .value h ha ht hfit

theorem ends_run (q : f.Evaluation β) (x index : Datum α) : q.Ends x index (q.run x index) := by
  by_cases htier : q.needs ≤ f.tier
  · obtain ⟨hook, hhook⟩ := exists_hook htier
    cases hpoint : f.checkArgument x with
    | error e =>
        rw [run_of_hook hhook, hpoint]
        exact .argument htier (checkArgument_eq_error_iff.1 hpoint)
    | ok xs =>
        obtain ⟨hx, hlength⟩ := checkArgument_eq_ok_iff.1 hpoint
        cases hindex : q.checkIndex index with
        | ok _ => exact Calls.ends_run ⟨hhook, hx, hlength, checkIndex_eq_ok_iff.1 hindex⟩
        | error e =>
            rw [run_of_hook hhook, hpoint, ok_bind, hindex]
            obtain ⟨hindexed, hrefused⟩ := checkIndex_eq_error_iff.1 hindex
            exact .index htier hx hlength hindexed hrefused
  · have hhook : q.hook? = none := by
      rw [← Option.not_isSome_iff_eq_none, q.provided]
      exact htier
    unfold run
    rw [hhook]
    exact .tier htier

theorem run_eq_iff {r : Except (Error α) β} : q.run x index = r ↔ q.Ends x index r := by
  constructor
  · rintro rfl
    exact q.ends_run x index
  intro h
  cases h with
  | tier h =>
      unfold run
      rw [← q.provided, Option.not_isSome_iff_eq_none] at h
      rw [h]
  | argument htier h =>
      obtain ⟨hook, hhook⟩ := exists_hook htier
      rw [run_of_hook hhook, checkArgument_eq_error_iff.2 h]
      rfl
  | index htier hx hlength hindexed h =>
      obtain ⟨hook, hhook⟩ := exists_hook htier
      rw [run_of_hook hhook, checkArgument_eq_ok_iff.2 ⟨hx, hlength⟩, ok_bind,
        checkIndex_eq_error_iff.2 ⟨hindexed, h⟩]
      rfl
  | hook h he =>
      rw [h.run_eq]
      cases he with
      | raised h => rw [h]; rfl
      | conversion h ht => rw [h, ok_bind, ht]; rfl
      | shape h ht hmisfit => rw [h, ok_bind, ht, ok_bind, fit_eq_error_iff.2 hmisfit]
  | value h ha ht hfits => rw [h.run_eq, ha, ok_bind, ht, ok_bind, fit_eq_ok_iff.2 ⟨hfits, rfl⟩]

end Evaluation

theorem checkResult_eq_fit {q : f.Evaluation (List α)} {what : String} {size : Nat}
    (hmisfit : q.misfit = f.wrongSize what size) (hread : q.read = Tensor.entries)
    (a : ArrayLike α) : f.checkResult what size a = a.toTensor >>= q.fit := by
  unfold checkResult
  congr 1
  funext t
  rw [Evaluation.fit, hmisfit, hread, wrongSize]
  split <;> rfl

theorem checkSquare_eq_fit (a : ArrayLike α) :
    f.checkSquare a = a.toTensor >>= f.hessians.fit := by
  unfold checkSquare
  congr 1
  funext t
  simp only [Evaluation.fit, hessians, wrongShape]
  split <;> rfl

theorem compute_eq_run (index : Datum α) : f.compute x = f.values.run x index := by
  have hhook : f.values.hook? = some fun xs _ => f.hooks.compute xs := rfl
  rw [Evaluation.run_of_hook hhook]
  unfold compute
  simp only [checkResult_eq_fit (q := f.values) rfl rfl]
  rfl

theorem gradient_eq_run : f.gradient x index = f.gradients.run x index := by
  unfold gradient
  cases hhook : f.hooks.gradient? with
  | none => simp only [Evaluation.run, gradients, hhook]
  | some hook =>
      rw [Evaluation.run_of_hook (q := f.gradients) hhook]
      simp only [checkResult_eq_fit (q := f.gradients) rfl rfl]
      rfl

theorem hessian_eq_run : f.hessian x index = f.hessians.run x index := by
  unfold hessian
  cases hhook : f.hooks.hessian? with
  | none => simp only [Evaluation.run, hessians, hhook]
  | some hook =>
      rw [Evaluation.run_of_hook (q := f.hessians) hhook]
      simp only [checkSquare_eq_fit]
      rfl

theorem Evaluation.exists_of_run_eq_ok {β : Type} {q : f.Evaluation β} {b : β}
    (h : q.run x index = .ok b) : ∃ hook xs a t, q.Calls x index hook xs ∧
      hook xs index = .ok a ∧ a.toTensor = .ok t ∧ q.misfit t = none ∧ q.read t = b := by
  cases Evaluation.run_eq_iff.1 h with
  | value hcalls ha ht hfits => exact ⟨_, _, _, _, hcalls, ha, ht, hfits, rfl⟩

end Function

end NonlinearProgram
