import Mathlib.Data.List.Forall2
import NonlinearProgram.Error

/-!
# What attempts come to

Operations of this library are sequences of steps of which each may fail. A successful sequence had
only successful steps, and a list gone through step by step succeeds where every item does. For an
attempt, which also reports what it does, `Attempt.outcome` is what it comes to without the
records, and a step of an attempt is taken apart like one without.
-/

namespace NonlinearProgram

section Steps

variable {ε β γ δ : Type}

@[simp] theorem pure_eq_ok_iff (b c : β) : (pure b : Except ε β) = .ok c ↔ b = c :=
  Except.ok.injEq b c ▸ Iff.rfl

theorem ok_bind (b : β) (f : β → Except ε γ) : (Except.ok b >>= f) = f b := rfl

theorem bind_eq_ok_iff {x : Except ε β} {f : β → Except ε γ} {r : γ} :
    (x >>= f) = .ok r ↔ ∃ b, x = .ok b ∧ f b = .ok r := by
  cases x with
  | error e =>
      constructor
      · intro h
        cases h
      · rintro ⟨b, hb, -⟩
        cases hb
  | ok b =>
      constructor
      · intro h
        exact ⟨b, rfl, h⟩
      · rintro ⟨b', hb, h⟩
        cases hb
        exact h

theorem bind_eq_error_iff {x : Except ε β} {f : β → Except ε γ} {e : ε} :
    (x >>= f) = .error e ↔ x = .error e ∨ ∃ b, x = .ok b ∧ f b = .error e := by
  cases x with
  | error e' =>
      change Except.error e' = Except.error e ↔ _
      simp
  | ok b =>
      change f b = .error e ↔ _
      simp

theorem map_eq_ok_iff {x : Except ε β} {f : β → γ} {r : γ} :
    f <$> x = .ok r ↔ ∃ b, x = .ok b ∧ f b = r := by
  cases x with
  | error e =>
      constructor
      · intro h
        cases h
      · rintro ⟨b, hb, -⟩
        cases hb
  | ok b =>
      constructor
      · intro h
        cases h
        exact ⟨b, rfl, rfl⟩
      · rintro ⟨b', hb, rfl⟩
        cases hb
        rfl

theorem map_eq_error_iff {x : Except ε β} {f : β → γ} {e : ε} :
    f <$> x = .error e ↔ x = .error e := by
  cases x with
  | error e' =>
      change Except.error e' = Except.error e ↔ _
      simp
  | ok b =>
      constructor
      · intro h
        cases h
      · intro h
        cases h

theorem check_eq_ok_iff {c : Prop} [Decidable c] {e : ε} {f : β → Except ε γ} {rest : Except ε γ}
    {r : γ} : (if c then throw e >>= f else rest) = .ok r ↔ ¬c ∧ rest = .ok r := by
  by_cases hc : c
  · rw [if_pos hc]
    constructor
    · intro h
      cases h
    · rintro ⟨hn, -⟩
      exact absurd hc hn
  · rw [if_neg hc]
    constructor
    · intro h
      exact ⟨hc, h⟩
    · exact And.right

@[simp] theorem ofExcept_eq (x : Except ε β) :
    (MonadExcept.ofExcept x : Except ε β) = x := by
  cases x <;> rfl

/-- Going through a list step by step succeeds with the results of the items in order. -/
theorem mapM_eq_ok_iff {f : β → Except ε γ} {xs : List β} {ys : List γ} :
    xs.mapM f = .ok ys ↔ List.Forall₂ (fun x y => f x = .ok y) xs ys := by
  induction xs generalizing ys with
  | nil =>
      rw [List.mapM_nil, pure_eq_ok_iff, List.forall₂_nil_left_iff]
      exact eq_comm
  | cons x xs ih =>
      rw [List.mapM_cons, bind_eq_ok_iff, List.forall₂_cons_left_iff]
      constructor
      · rintro ⟨y, hy, h⟩
        obtain ⟨zs, hzs, h⟩ := bind_eq_ok_iff.1 h
        exact ⟨y, zs, hy, ih.1 hzs, (pure_eq_ok_iff _ _ |>.1 h).symm⟩
      · rintro ⟨y, zs, hy, hzs, rfl⟩
        exact ⟨y, hy, bind_eq_ok_iff.2 ⟨zs, ih.2 hzs, rfl⟩⟩

/-- Going through a list step by step fails as the first item that has no result. -/
theorem mapM_eq_error_iff {f : β → Except ε γ} {xs : List β} {e : ε} :
    xs.mapM f = .error e ↔ ∃ i, ∃ hi : i < xs.length,
      (∀ j, ∀ hj : j < i, ∃ y, f xs[j] = .ok y) ∧ f xs[i] = .error e := by
  induction xs with
  | nil =>
      constructor
      · intro h
        cases h
      · rintro ⟨i, hi, -⟩
        cases hi
  | cons x xs ih =>
      rw [List.mapM_cons, bind_eq_error_iff]
      constructor
      · rintro (h | ⟨y, hy, h⟩)
        · exact ⟨0, Nat.succ_pos _, nofun, h⟩
        · rcases bind_eq_error_iff.1 h with h | ⟨ys, -, h⟩
          · obtain ⟨i, hi, hbefore, h⟩ := ih.1 h
            refine ⟨i + 1, Nat.succ_lt_succ hi, ?_, h⟩
            rintro (_ | j) hj
            · exact ⟨y, hy⟩
            · exact hbefore j (Nat.lt_of_succ_lt_succ hj)
          · cases h
      · rintro ⟨i, hi, hbefore, h⟩
        cases i with
        | zero => exact .inl h
        | succ i =>
            obtain ⟨y, hy⟩ := hbefore 0 (Nat.succ_pos i)
            refine .inr ⟨y, hy, bind_eq_error_iff.2 (.inl (ih.2 ?_))⟩
            exact ⟨i, Nat.lt_of_succ_lt_succ hi,
              fun j hj => hbefore (j + 1) (Nat.succ_lt_succ hj), h⟩

theorem mapM_eq_ok_map {f : β → Except ε γ} {g : β → γ} {xs : List β}
    (h : ∀ x ∈ xs, f x = .ok (g x)) : xs.mapM f = .ok (xs.map g) := by
  rw [mapM_eq_ok_iff, List.forall₂_map_right_iff, List.forall₂_same]
  exact h

theorem exists_mapM_eq_ok {f : β → Except ε γ} {xs : List β} (h : ∀ x ∈ xs, ∃ y, f x = .ok y) :
    ∃ ys, xs.mapM f = .ok ys := by
  induction xs with
  | nil => exact ⟨[], rfl⟩
  | cons x xs ih =>
      obtain ⟨y, hy⟩ := h x List.mem_cons_self
      obtain ⟨ys, hys⟩ := ih fun z hz => h z (List.mem_cons_of_mem x hz)
      exact ⟨y :: ys, mapM_eq_ok_iff.2 (.cons hy (mapM_eq_ok_iff.1 hys))⟩

theorem mapM_flatMap {f : γ → Except ε δ} {g : β → List γ} {xs : List β} :
    (xs.flatMap g).mapM f = List.flatten <$> xs.mapM fun x => (g x).mapM f := by
  induction xs with
  | nil => rfl
  | cons x xs ih =>
      rw [List.flatMap_cons, List.mapM_append, ih, List.mapM_cons]
      cases (g x).mapM f with
      | error e => rfl
      | ok ys =>
          cases xs.mapM fun x => (g x).mapM f with
          | error e => rfl
          | ok yss => rfl

theorem forM_eq_ok_iff {f : β → Except ε Unit} {xs : List β} {u : Unit} :
    xs.forM f = .ok u ↔ ∀ x ∈ xs, f x = .ok () := by
  induction xs with
  | nil => simp [List.forM]
  | cons x xs ih =>
      change (f x >>= fun _ => xs.forM f) = _ ↔ _
      rw [bind_eq_ok_iff, List.forall_mem_cons]
      constructor
      · rintro ⟨⟨⟩, hx, h⟩
        exact ⟨hx, ih.1 h⟩
      · rintro ⟨hx, h⟩
        exact ⟨(), hx, ih.2 h⟩

/-- Checking a list item by item is refused by the first item that does not pass. -/
theorem forM_eq_error_iff {f : β → Except ε Unit} {xs : List β} {e : ε} :
    xs.forM f = .error e ↔ ∃ before x after, xs = before ++ x :: after ∧
      (∀ y ∈ before, f y = .ok ()) ∧ f x = .error e := by
  induction xs with
  | nil =>
      constructor
      · intro h
        cases h
      · rintro ⟨before, x, after, h, -⟩
        simp at h
  | cons x xs ih =>
      change (f x >>= fun _ => xs.forM f) = _ ↔ _
      rw [bind_eq_error_iff]
      constructor
      · rintro (h | ⟨⟨⟩, hx, h⟩)
        · exact ⟨[], x, xs, rfl, nofun, h⟩
        · obtain ⟨before, y, after, rfl, hbefore, hy⟩ := ih.1 h
          exact ⟨x :: before, y, after, rfl, List.forall_mem_cons.2 ⟨hx, hbefore⟩, hy⟩
      · rintro ⟨before, y, after, hsplit, hbefore, hy⟩
        cases before with
        | nil =>
            obtain ⟨rfl, rfl⟩ := List.cons.inj hsplit
            exact .inl hy
        | cons z before =>
            obtain ⟨rfl, rfl⟩ := List.cons.inj hsplit
            rw [List.forall_mem_cons] at hbefore
            exact .inr ⟨(), hbefore.1, ih.2 ⟨before, y, after, rfl, hbefore.2, hy⟩⟩

theorem exists_of_mem_right {R : β → γ → Prop} {xs : List β} {ys : List γ}
    (h : List.Forall₂ R xs ys) {y : γ} (hy : y ∈ ys) : ∃ x ∈ xs, R x y := by
  induction h with
  | nil => cases hy
  | @cons x z xs zs hxz _ ih =>
      rcases List.mem_cons.1 hy with rfl | hy
      · exact ⟨x, List.mem_cons_self, hxz⟩
      · obtain ⟨w, hw, hwy⟩ := ih hy
        exact ⟨w, List.mem_cons_of_mem x hw, hwy⟩

theorem exists_of_mem_left {R : β → γ → Prop} {xs : List β} {ys : List γ}
    (h : List.Forall₂ R xs ys) {x : β} (hx : x ∈ xs) : ∃ y ∈ ys, R x y := by
  exact exists_of_mem_right h.flip hx

/-- A computation succeeds, or fails with an error that has a property. -/
def FailsOnly (P : ε → Prop) (x : Except ε β) : Prop := ∀ e, x = .error e → P e

namespace FailsOnly

variable {P Q : ε → Prop} {x : Except ε β}

theorem ok (b : β) : FailsOnly P (.ok b : Except ε β) := nofun

theorem pure (b : β) : FailsOnly P (pure b : Except ε β) := nofun

theorem of_eq_ok {b : β} (h : x = .ok b) : FailsOnly P x := h ▸ ok b

theorem mono (hx : FailsOnly P x) (h : ∀ e, P e → Q e) : FailsOnly Q x :=
  fun e he => h e (hx e he)

/-- A sequence fails as its first step does, or as what follows a success of it. -/
theorem bind {f : β → Except ε γ} (hx : FailsOnly P x)
    (hf : ∀ b, x = .ok b → FailsOnly P (f b)) : FailsOnly P (x >>= f) := by
  intro e he
  rcases bind_eq_error_iff.1 he with he | ⟨b, hb, he⟩
  · exact hx e he
  · exact hf b hb e he

theorem map (hx : FailsOnly P x) (f : β → γ) : FailsOnly P (f <$> x) :=
  fun e he => hx e (map_eq_error_iff.1 he)

theorem mapM {f : β → Except ε γ} {xs : List β} (h : ∀ x ∈ xs, FailsOnly P (f x)) :
    FailsOnly P (xs.mapM f) := by
  induction xs with
  | nil => exact pure _
  | cons x xs ih =>
      rw [List.mapM_cons]
      rw [List.forall_mem_cons] at h
      exact h.1.bind fun y _ => (ih h.2).bind fun ys _ => pure _

theorem foldlM {f : γ → β → Except ε γ} {xs : List β} (h : ∀ x ∈ xs, ∀ c, FailsOnly P (f c x))
    (c : γ) : FailsOnly P (xs.foldlM f c) := by
  induction xs generalizing c with
  | nil => exact pure _
  | cons x xs ih =>
      rw [List.foldlM_cons]
      rw [List.forall_mem_cons] at h
      exact (h.1 c).bind fun c' _ => ih h.2 c'

end FailsOnly

/-- Two computations go in step: they fail with the same error, or succeed with related results. -/
inductive InStep (R : β → γ → Prop) : Except ε β → Except ε γ → Prop
  | ok {b : β} {c : γ} (h : R b c) : InStep R (.ok b) (.ok c)
  | error (e : ε) : InStep R (.error e) (.error e)

/-- A computation fails where another does and with the same error, whatever their results are. -/
def FailsLike (x : Except ε β) (y : Except ε γ) : Prop := InStep (fun _ _ => True) x y

namespace InStep

variable {ζ : Type} {R : β → γ → Prop} {S : δ → ζ → Prop} {x : Except ε β} {y : Except ε γ}

theorem of_eq {x y : Except ε β} (h : x = y) : InStep Eq x y := by
  rw [h]
  cases y with
  | ok b => exact .ok rfl
  | error e => exact .error e

theorem mono {R' : β → γ → Prop} (h : InStep R x y) (hR : ∀ b c, R b c → R' b c) :
    InStep R' x y := by
  cases h with
  | ok h => exact .ok (hR _ _ h)
  | error e => exact .error e

theorem failsLike (h : InStep R x y) : FailsLike x y := h.mono fun _ _ _ => trivial

theorem exists_left {c : γ} (h : InStep R x y) (hy : y = .ok c) : ∃ b, x = .ok b ∧ R b c := by
  cases h with
  | ok h =>
      cases hy
      exact ⟨_, rfl, h⟩
  | error e => cases hy

theorem bind {f : β → Except ε δ} {g : γ → Except ε ζ} (h : InStep R x y)
    (hfg : ∀ b c, R b c → InStep S (f b) (g c)) : InStep S (x >>= f) (y >>= g) := by
  cases h with
  | ok h => exact hfg _ _ h
  | error e => exact .error e

theorem map_right (h : InStep R x y) {g : γ → ζ} {S : β → ζ → Prop}
    (hg : ∀ b c, R b c → S b (g c)) : InStep S x (y >>= fun c => pure (g c)) := by
  cases h with
  | ok h => exact .ok (hg _ _ h)
  | error e => exact .error e

/-- Sequences that begin with the same step go in step where they do so after it. -/
theorem after (x : Except ε β) {f : β → Except ε δ} {g : β → Except ε ζ}
    (hfg : ∀ b, InStep S (f b) (g b)) : InStep S (x >>= f) (x >>= g) := by
  refine (of_eq rfl).bind ?_
  rintro b _ rfl
  exact hfg b

/-- Two loops over a list go in step where their bodies keep the states related. -/
theorem foldlM {f : β → δ → Except ε β} {g : γ → δ → Except ε γ}
    (hfg : ∀ b c d, R b c → InStep R (f b d) (g c d)) (ds : List δ) {b : β} {c : γ}
    (h : R b c) : InStep R (ds.foldlM f b) (ds.foldlM g c) := by
  induction ds generalizing b c with
  | nil => exact .ok h
  | cons d ds ih =>
      rw [List.foldlM_cons, List.foldlM_cons]
      exact (hfg b c d h).bind fun _ _ h => ih h

end InStep

/-- Items that are related in pairs are gone through alike where they have the same result. -/
theorem mapM_eq_of_forall₂ {R : β → γ → Prop} {f : β → Except ε δ} {g : γ → Except ε δ}
    {xs : List β} {ys : List γ} (h : List.Forall₂ R xs ys) (hfg : ∀ x y, R x y → f x = g y) :
    xs.mapM f = ys.mapM g := by
  induction h with
  | nil => rfl
  | cons hxy _ ih => rw [List.mapM_cons, List.mapM_cons, hfg _ _ hxy, ih]

theorem forM_eq_of_forall₂ {R : β → γ → Prop} {f : β → Except ε Unit} {g : γ → Except ε Unit}
    {xs : List β} {ys : List γ} (h : List.Forall₂ R xs ys) (hfg : ∀ x y, R x y → f x = g y) :
    xs.forM f = ys.forM g := by
  induction h with
  | nil => rfl
  | @cons x y xs ys hxy _ ih =>
      change (f x >>= fun _ => xs.forM f) = g y >>= fun _ => ys.forM g
      rw [hfg _ _ hxy, ih]

theorem flatMap_eq_of_forall₂ {R : β → γ → Prop} {f : β → List δ} {g : γ → List δ}
    {xs : List β} {ys : List γ} (h : List.Forall₂ R xs ys) (hfg : ∀ x y, R x y → f x = g y) :
    xs.flatMap f = ys.flatMap g := by
  induction h with
  | nil => rfl
  | cons hxy _ ih => rw [List.flatMap_cons, List.flatMap_cons, hfg _ _ hxy, ih]

end Steps

theorem Logged.lawfulMonad : LawfulMonad Logged := LawfulMonad.mk' Logged
  (fun x => congrArg (Logged.mk x.value) (List.append_nil x.records))
  (fun _ _ => rfl)
  (fun x f g => congrArg (Logged.mk (g (f x.value).value).value)
    (List.append_assoc x.records (f x.value).records (g (f x.value).value).records))

namespace Attempt

variable {α β γ : Type}

def outcome (a : Attempt α β) : Except (Error α) β := a.run.value

@[simp] theorem outcome_pure (b : β) : outcome (pure b : Attempt α β) = .ok b := rfl

@[simp] theorem outcome_liftM (x : Except (Error α) β) :
    outcome (liftM x : Attempt α β) = x := rfl

@[simp] theorem outcome_liftM_logged (m : Logged β) :
    outcome (liftM m : Attempt α β) = .ok m.value := rfl

theorem outcome_bind (a : Attempt α β) (f : β → Attempt α γ) :
    outcome (a >>= f) = outcome a >>= fun b => outcome (f b) := by
  change (ExceptT.run (a >>= f)).value =
    (ExceptT.run a).value >>= fun b => (ExceptT.run (f b)).value
  rw [ExceptT.run_bind, Logged.value_bind]
  cases (ExceptT.run a).value with
  | error e => rfl
  | ok b => rfl

theorem outcome_bind_eq_ok_iff {a : Attempt α β} {f : β → Attempt α γ} {r : γ} :
    outcome (a >>= f) = .ok r ↔ ∃ b, outcome a = .ok b ∧ outcome (f b) = .ok r := by
  rw [outcome_bind, bind_eq_ok_iff]

theorem outcome_liftM_bind {x : Except (Error α) β} {b : β} {f : β → Attempt α γ}
    (h : x = .ok b) : outcome ((liftM x : Attempt α β) >>= f) = outcome (f b) := by
  rw [outcome_bind, outcome_liftM, h, ok_bind]

theorem outcome_mapM (f : β → Attempt α γ) (xs : List β) :
    outcome (xs.mapM f) = xs.mapM fun x => outcome (f x) := by
  have := Logged.lawfulMonad
  induction xs with
  | nil => rfl
  | cons x xs ih =>
      rw [List.mapM_cons, List.mapM_cons, outcome_bind]
      refine congrArg (outcome (f x) >>= ·) (funext fun y => ?_)
      rw [outcome_bind, ih]
      rfl

end Attempt

end NonlinearProgram
