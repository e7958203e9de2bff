import NonlinearProgram.Proofs.Attempt
import NonlinearProgram.Tensor

/-!
# Tensors of data

A nested list whose rows agree has as many leaves as its shape has places, so a tensor read off a
datum has an entry for every place. A datum that stands for a vector is one with a single
dimension, and a vector written as a list of numbers is read back as it was.
-/

namespace NonlinearProgram

namespace Datum

variable {α : Type}

theorem commonShape_self (shape : List Nat) : commonShape shape shape = shape := by
  induction shape with
  | nil => rfl
  | cons n shape ih => simp [commonShape, ih]

mutual

/-- A nested list whose rows agree has a leaf for every place of its shape. -/
theorem length_leaves : ∀ d : Datum α, d.outline.2 = true →
    d.leaves.length = Tensor.capacity d.outline.1
  | nothing, _ | flag _, _ | whole _, _ | number _, _ | text _, _ | record _, _ => rfl
  | list items, h => by
      change (leavesOf items).length = items.length * Tensor.capacity (outlineItems items).1
      exact length_leavesOf items h
termination_by structural d => d

theorem length_leavesOf : ∀ items : List (Datum α), (outlineItems items).2 = true →
    (leavesOf items).length = items.length * Tensor.capacity (outlineItems items).1
  | [], _ => by simp [leavesOf]
  | [item], h => by
      have hitem : item.leaves.length = Tensor.capacity item.outline.1 := length_leaves item h
      simp [leavesOf, outlineItems, hitem]
  | item :: other :: rest, h => by
      have hparts : (item.outline.2 = true ∧ (outlineItems (other :: rest)).2 = true) ∧
          item.outline.1 = (outlineItems (other :: rest)).1 := by
        simpa [outlineItems] using h
      obtain ⟨⟨hitem, hrest⟩, hshape⟩ := hparts
      have hfirst := length_leaves item hitem
      have hothers := length_leavesOf (other :: rest) hrest
      have hcommon : (outlineItems (item :: other :: rest)).1 =
          (outlineItems (other :: rest)).1 := by
        change commonShape item.outline.1 (outlineItems (other :: rest)).1 = _
        rw [hshape, commonShape_self]
      change (item.leaves ++ leavesOf (other :: rest)).length = _
      rw [List.length_append, hfirst, hothers, hcommon, hshape, List.length_cons (a := item),
        Nat.succ_mul, Nat.add_comm]
termination_by structural items => items

end

theorem outlineItems_number (xs : List α) : outlineItems (xs.map number) = ([], true) := by
  induction xs with
  | nil => rfl
  | cons x xs ih =>
      cases xs with
      | nil => rfl
      | cons y ys =>
          change (commonShape [] (outlineItems ((y :: ys).map number)).1,
            true && (outlineItems ((y :: ys).map number)).2 &&
              [] == (outlineItems ((y :: ys).map number)).1) = _
          rw [ih]
          rfl

theorem leavesOf_number (xs : List α) : leavesOf (xs.map number) = xs.map number := by
  induction xs with
  | nil => rfl
  | cons x xs ih =>
      change number x :: leavesOf (xs.map number) = _
      rw [ih, List.map_cons]

theorem outline_vector (xs : List α) : (vector xs).outline = ([xs.length], true) := by
  change ((xs.map number).length :: (outlineItems (xs.map number)).1,
    (outlineItems (xs.map number)).2) = _
  rw [outlineItems_number, List.length_map]

end Datum

namespace Tensor

variable {α : Type} [Scalar α]

@[simp] theorem ofDatum_vector (xs : List α) : ofDatum (.vector xs) = .ok (vector xs) := by
  have hentries : (Datum.vector xs).leaves.mapM Datum.toEntry = (.ok xs : Except (Error α) _) := by
    change (Datum.leavesOf (xs.map Datum.number)).mapM Datum.toEntry = _
    rw [Datum.leavesOf_number, mapM_eq_ok_iff, List.forall₂_map_left_iff, List.forall₂_same]
    intro x _
    rfl
  have hfit : misfit [xs.length] true = none := rfl
  unfold ofDatum
  rw [Datum.outline_vector]
  simp only [hfit, hentries]
  rfl

theorem length_rowsOf {β : Type} (width count : Nat) (entries : List β) :
    (rowsOf width count entries).length = count := by
  induction count generalizing entries with
  | zero => rfl
  | succ count ih => simp [rowsOf, ih]

theorem length_of_mem_rowsOf {β : Type} {width count : Nat} {entries : List β}
    (h : count * width ≤ entries.length) :
    ∀ row ∈ rowsOf width count entries, row.length = width := by
  induction count generalizing entries with
  | zero => simp [rowsOf]
  | succ count ih =>
      rw [Nat.succ_mul] at h
      simp only [rowsOf, List.mem_cons, forall_eq_or_imp]
      refine ⟨?_, ih ?_⟩
      · rw [List.length_take]
        omega
      · rw [List.length_drop]
        omega

theorem rowsOf_flatten {β : Type} {width : Nat} {rows : List (List β)}
    (h : ∀ row ∈ rows, row.length = width) : rowsOf width rows.length rows.flatten = rows := by
  induction rows with
  | nil => rfl
  | cons row rows ih =>
      rw [List.forall_mem_cons] at h
      rw [List.length_cons, rowsOf, List.flatten_cons, List.take_left' h.1, List.drop_left' h.1,
        ih h.2]

theorem ofDatum_eq_ok {d : Datum α} {t : Tensor α} (h : ofDatum d = .ok t) :
    d.outline.2 = true ∧ t.shape = d.outline.1 ∧
      d.leaves.mapM Datum.toEntry = .ok t.entries := by
  unfold ofDatum at h
  cases hd : d.outline with
  | mk shape agree =>
      rw [hd] at h
      cases hm : misfit shape agree with
      | some fault => simp [hm, bind_eq_ok_iff] at h
      | none =>
          simp only [hm] at h
          obtain ⟨entries, hentries, h⟩ := bind_eq_ok_iff.1 h
          cases h
          refine ⟨?_, rfl, hentries⟩
          cases agree with
          | true => rfl
          | false =>
              simp only [misfit] at hm
              split at hm <;> cases hm

theorem length_entries_of_ofDatum {d : Datum α} {t : Tensor α} (h : ofDatum d = .ok t) :
    t.entries.length = capacity t.shape := by
  obtain ⟨hagree, hshape, hentries⟩ := ofDatum_eq_ok h
  rw [hshape, ← Datum.length_leaves d hagree]
  exact (mapM_eq_ok_iff.1 hentries).length_eq.symm

/-- What was read and counts as a vector of some length has that many entries. -/
theorem length_entries_atLeastVector {d : Datum α} {t : Tensor α} {n : Nat}
    (h : ofDatum d = .ok t) (hshape : t.atLeastVector.shape = [n]) :
    t.atLeastVector.entries.length = n := by
  have hfilled := length_entries_of_ofDatum h
  obtain ⟨shape, entries⟩ := t
  cases shape with
  | nil =>
      cases hshape
      exact hfilled
  | cons m shape =>
      cases hshape
      exact hfilled.trans (Nat.mul_one _)

theorem length_row_atLeastMatrix {d : Datum α} {t : Tensor α} {m n : Nat}
    (h : ofDatum d = .ok t) (hshape : t.atLeastMatrix.shape = [m, n]) :
    ∀ row ∈ rowsOf n m t.atLeastMatrix.entries, row.length = n := by
  have hfilled := length_entries_of_ofDatum h
  obtain ⟨shape, entries⟩ := t
  refine length_of_mem_rowsOf (Nat.le_of_eq ?_)
  match shape with
  | [] | [_] | [_, _] =>
      cases hshape
      simpa [capacity, atLeastMatrix] using hfilled.symm
  | _ :: _ :: _ :: _ => cases hshape

/-- A tensor that was read and has one dimension is the vector of its entries. -/
theorem eq_vector_of_ofDatum {d : Datum α} {t : Tensor α} {n : Nat} (h : ofDatum d = .ok t)
    (hshape : t.shape = [n]) : t = vector t.entries ∧ t.entries.length = n := by
  have hlength : t.entries.length = n := by
    rw [length_entries_of_ofDatum h, hshape]
    simp [capacity]
  refine ⟨?_, hlength⟩
  cases t with
  | mk shape entries =>
      subst hlength
      rw [vector, ← hshape]

end Tensor

end NonlinearProgram
