import NonlinearProgram.Proofs.Attempt
import NonlinearProgram.Solver.Stacked

/-!
# Tensors that match

Two tensors match where they have the same shape and their entries are related place by place. What
is combined with either of them is combined alike: it fits both or none, and entries that come of
related entries are related again.
-/

namespace NonlinearProgram

variable {α : Type}

/-- Lists that are related in pairs are so at every position, and end at the same one. -/
theorem rel_getElem? {β γ : Type} {R : β → γ → Prop} {xs : List β} {ys : List γ}
    (h : List.Forall₂ R xs ys) (k : Nat) : Option.Rel R xs[k]? ys[k]? := by
  induction h generalizing k with
  | nil => exact .none
  | cons hxy _ ih =>
      cases k with
      | zero => exact .some hxy
      | succ k => exact ih k

theorem exists_getElem? {β γ : Type} {R : β → γ → Prop} {xs : List β} {ys : List γ}
    (h : List.Forall₂ R xs ys) {k : Nat} {x : β} (hx : xs[k]? = some x) :
    ∃ y, ys[k]? = some y ∧ R x y := by
  have hrel := rel_getElem? h k
  rw [hx] at hrel
  generalize ys[k]? = y at hrel ⊢
  cases hrel with
  | some hxy => exact ⟨_, rfl, hxy⟩

theorem rel_of_getElem? {β γ : Type} {R : β → γ → Prop} {xs : List β} {ys : List γ}
    (h : List.Forall₂ R xs ys) {k : Nat} {x : β} {y : γ} (hx : xs[k]? = some x)
    (hy : ys[k]? = some y) : R x y := by
  obtain ⟨y', hy', hxy⟩ := exists_getElem? h hx
  rw [hy, Option.some.injEq] at hy'
  exact hy' ▸ hxy

theorem rel_toList {β γ : Type} {R : β → γ → Prop} {o : Option β} {o' : Option γ}
    (h : Option.Rel R o o') : List.Forall₂ R o.toList o'.toList := by
  cases h with
  | some h => exact .cons h .nil
  | none => exact .nil

namespace Tensor

/-- Two tensors have the same shape, and entries that are related place by place. -/
structure Matches (Q : α → α → Prop) (a b : Tensor α) : Prop where
  shape : a.shape = b.shape
  entries : List.Forall₂ Q a.entries b.entries

section Spread

variable {β γ δ : Type} {Q : γ → γ → Prop} {R : δ → δ → Prop} {f : β → γ → δ}

theorem forall₂_zipWith (hf : ∀ x y z, Q y z → R (f x y) (f x z)) (xs : List β) {ys zs : List γ}
    (h : List.Forall₂ Q ys zs) : List.Forall₂ R (List.zipWith f xs ys) (List.zipWith f xs zs) := by
  induction h generalizing xs with
  | nil =>
      rw [List.zipWith_nil_right]
      exact .nil
  | cons hyz _ ih =>
      cases xs with
      | nil => exact .nil
      | cons x xs => exact .cons (hf x _ _ hyz) (ih xs)

theorem forall₂_rowsOf {ys zs : List γ} (h : List.Forall₂ Q ys zs) (width count : Nat) :
    List.Forall₂ (List.Forall₂ Q) (rowsOf width count ys) (rowsOf width count zs) := by
  induction count generalizing ys zs with
  | zero => exact .nil
  | succ count ih => exact .cons (List.forall₂_take width h) (ih (List.forall₂_drop width h))

theorem forall₂_spread (hf : ∀ x y z, Q y z → R (f x y) (f x z)) (xs : List β) {ys zs : List γ}
    (h : List.Forall₂ Q ys zs) : List.Forall₂ R (spread f xs ys) (spread f xs zs) := by
  have hmap : ∀ {y z}, Q y z → List.Forall₂ R (xs.map fun x => f x y) (xs.map fun x => f x z) := by
    intro y z hyz
    rw [List.forall₂_map_left_iff, List.forall₂_map_right_iff, List.forall₂_same]
    exact fun x _ => hf x y z hyz
  have hzip := forall₂_zipWith hf xs h
  match xs, h with
  | [x], h =>
      change List.Forall₂ R (ys.map (f x)) (zs.map (f x))
      rw [List.forall₂_map_left_iff, List.forall₂_map_right_iff]
      exact h.imp fun y z => hf x y z
  | [], .nil | [], .cons _ (.cons _ _) => exact hzip
  | _ :: _ :: _, .nil | _ :: _ :: _, .cons _ (.cons _ _) => exact hzip
  | [], .cons hyz .nil | _ :: _ :: _, .cons hyz .nil => exact hmap hyz

end Spread

variable {Q R : α → α → Prop} {f : α → α → α}

theorem forall₂_spreadEntries (hf : ∀ x y z, Q y z → R (f x y) (f x z)) (s t : List Nat)
    (xs : List α) {ys zs : List α} (h : List.Forall₂ Q ys zs) :
    List.Forall₂ R (spreadEntries f s t xs ys) (spreadEntries f s t xs zs) := by
  induction s generalizing t xs ys zs with
  | nil => exact forall₂_zipWith hf xs h
  | cons m s ih =>
      cases t with
      | nil => exact forall₂_zipWith hf xs h
      | cons n t =>
          have hrow : ∀ xs ys zs, List.Forall₂ Q ys zs →
              List.Forall₂ R (spreadEntries f s t xs ys) (spreadEntries f s t xs zs) :=
            fun xs _ _ h => ih t xs h
          exact List.rel_flatten (forall₂_spread hrow _ (forall₂_rowsOf h _ _))

theorem broadcast_inStep (hf : ∀ x y z, Q y z → R (f x y) (f x z)) (t : Tensor α) {a b : Tensor α}
    (h : a.Matches Q b) :
    InStep (Matches R) (broadcast f t a : Except (Error α) _) (broadcast f t b) := by
  unfold broadcast
  rw [h.shape]
  by_cases hshape : t.shape = b.shape
  · rw [if_pos hshape, if_pos hshape]
    exact .ok ⟨rfl, forall₂_zipWith hf _ h.entries⟩
  · rw [if_neg hshape, if_neg hshape]
    dsimp only
    split
    · exact .ok ⟨rfl, forall₂_spreadEntries hf _ _ _ h.entries⟩
    · exact .error _

theorem entryAt_inStep {xs ys : List α} (h : List.Forall₂ Q xs ys) (k : Nat) :
    InStep Q (entryAt xs k) (entryAt ys k) := by
  have hentry := rel_getElem? h k
  unfold entryAt
  rw [h.length_eq]
  generalize xs[k]? = x at hentry ⊢
  generalize ys[k]? = y at hentry ⊢
  cases hentry with
  | some h => exact .ok h
  | none => exact .error _

theorem partAt_vector_inStep {xs ys : List α} (h : List.Forall₂ Q xs ys) (k : Nat) :
    InStep (Matches Q) ((vector xs).partAt k) ((vector ys).partAt k) :=
  (entryAt_inStep h k).bind fun _ _ h => .ok ⟨rfl, .cons h .nil⟩

theorem single_inStep {a b : Tensor α} (h : a.Matches Q b) : InStep Q a.single b.single := by
  unfold single
  match a.entries, b.entries, h.entries with
  | _, _, .nil => exact .error _
  | _, _, .cons h .nil => exact .ok h
  | _, _, .cons _ (.cons _ h) =>
      simp only [List.length_cons, h.length_eq]
      exact .error _

end Tensor

end NonlinearProgram
