import Mathlib.Data.List.FinRange
import Mathlib.Data.List.Nodup
import NonlinearProgram.Proofs.Tensor
import NonlinearProgram.Solver.InteriorPoint

/-!
# Matrices as positions and entries

A matrix is handed over as some positions and the entries there, in the same order. The positions
go through the rows one after another, each row up to a width of its own, so none comes twice. Where
the matrix has an entry at every position, writing the entries at the positions gives it back.
-/

namespace NonlinearProgram

structure Enumerates (positions : List (Nat × Nat)) (inside : Nat → Nat → Prop) : Prop where
  nodup : positions.Nodup
  mem_iff : ∀ i j, (i, j) ∈ positions ↔ inside i j

def rowPositions (height : Nat) (width : Nat → Nat) : List (Nat × Nat) :=
  (List.range height).flatMap fun i => (List.range (width i)).map fun j => (i, j)

theorem densePositions_eq (height width : Nat) :
    densePositions height width = rowPositions height fun _ => width := rfl

theorem lowerPositions_eq (size : Nat) : lowerPositions size = rowPositions size (· + 1) := rfl

theorem mem_rowPositions {height i j : Nat} {width : Nat → Nat} :
    (i, j) ∈ rowPositions height width ↔ i < height ∧ j < width i := by
  unfold rowPositions
  rw [List.mem_flatMap]
  constructor
  · rintro ⟨i', hi, hj⟩
    obtain ⟨j', hj, heq⟩ := List.mem_map.1 hj
    cases heq
    exact ⟨List.mem_range.1 hi, List.mem_range.1 hj⟩
  · rintro ⟨hi, hj⟩
    exact ⟨i, List.mem_range.2 hi, List.mem_map.2 ⟨j, List.mem_range.2 hj, rfl⟩⟩

theorem enumerates_rowPositions (height : Nat) (width : Nat → Nat) :
    Enumerates (rowPositions height width) fun i j => i < height ∧ j < width i where
  nodup := by
    unfold rowPositions
    rw [List.nodup_flatMap]
    refine ⟨fun i _ => ?_, ?_⟩
    · exact List.nodup_range.map fun j j' h => congrArg Prod.snd h
    -- Two rows have no position in common, as their positions begin differently.
    · refine List.nodup_range.imp fun {i i'} hne => ?_
      intro p hp hp'
      obtain ⟨j, -, rfl⟩ := List.mem_map.1 hp
      obtain ⟨j', -, h⟩ := List.mem_map.1 hp'
      exact hne (congrArg Prod.fst h).symm
  mem_iff i j := mem_rowPositions

theorem enumerates_densePositions (height width : Nat) :
    Enumerates (densePositions height width) fun i j => i < height ∧ j < width := by
  rw [densePositions_eq]
  exact enumerates_rowPositions height fun _ => width

theorem enumerates_lowerPositions (size : Nat) :
    Enumerates (lowerPositions size) fun i j => j ≤ i ∧ i < size where
  nodup := (enumerates_rowPositions size (· + 1)).nodup
  mem_iff i j := by
    rw [lowerPositions_eq, mem_rowPositions, Nat.lt_succ_iff, and_comm]

namespace Matrix

variable {α : Type}

def written? (positions : List (Nat × Nat)) (entries : List α) (i j : Nat) : Option α :=
  (positions.zip entries).lookup (i, j)

theorem entriesAt_cons {a : Matrix α} {i j : Nat} {v : α} (h : a.entry? i j = some v)
    (positions : List (Nat × Nat)) :
    a.entriesAt ((i, j) :: positions) = v :: a.entriesAt positions :=
  List.filterMap_cons_some h

section Entries

variable {a : Matrix α} {positions : List (Nat × Nat)}
  (h : ∀ p ∈ positions, ∃ v, a.entry? p.1 p.2 = some v)

include h

theorem length_entriesAt : (a.entriesAt positions).length = positions.length := by
  induction positions with
  | nil => rfl
  | cons p positions ih =>
      rw [List.forall_mem_cons] at h
      obtain ⟨⟨v, hv⟩, h⟩ := h
      rw [entriesAt_cons hv, List.length_cons, List.length_cons, ih h]

theorem written?_entriesAt (i j : Nat) :
    written? positions (a.entriesAt positions) i j =
      if (i, j) ∈ positions then a.entry? i j else none := by
  induction positions with
  | nil => rfl
  | cons p positions ih =>
      rw [List.forall_mem_cons] at h
      obtain ⟨⟨v, hv⟩, h⟩ := h
      rw [entriesAt_cons hv, written?, List.zip_cons_cons, List.lookup_cons]
      by_cases hp : (i, j) = p
      · subst hp
        rw [beq_self_eq_true, if_pos List.mem_cons_self]
        exact hv.symm
      · have hmem : (i, j) ∈ p :: positions ↔ (i, j) ∈ positions := by
          rw [List.mem_cons, or_iff_right hp]
        rw [beq_eq_false_iff_ne.2 hp]
        simp only [hmem]
        exact ih h

end Entries

/-- Where the positions are those at which there are entries, the whole matrix is given back. -/
theorem written?_eq_entry? {a : Matrix α} {positions : List (Nat × Nat)}
    (h : ∀ i j, (i, j) ∈ positions ↔ ∃ v, a.entry? i j = some v) (i j : Nat) :
    written? positions (a.entriesAt positions) i j = a.entry? i j := by
  rw [written?_entriesAt fun p hp => (h p.1 p.2).1 hp]
  by_cases hmem : (i, j) ∈ positions
  · rw [if_pos hmem]
  · rw [if_neg hmem, eq_comm, Option.eq_none_iff_forall_ne_some]
    exact fun v hv => hmem ((h i j).2 ⟨v, hv⟩)

theorem filterMap_range_getElem? (row : List α) :
    (List.range row.length).filterMap (fun j => row[j]?) = row := by
  induction row with
  | nil => rfl
  | cons v row ih =>
      rw [List.length_cons, List.range_succ_eq_map, List.filterMap_cons, List.filterMap_map]
      exact congrArg (v :: ·) ih

theorem entriesAt_densePositions {a : Matrix α} {width : Nat}
    (h : ∀ row ∈ a.rows, row.length = width) :
    a.entriesAt (densePositions a.height width) = a.rows.flatten := by
  obtain ⟨w, rows⟩ := a
  unfold entriesAt densePositions height
  rw [List.filterMap_flatMap]
  simp only [List.filterMap_map]
  change (List.range rows.length).flatMap (fun i =>
    (List.range width).filterMap fun j => rows[i]?.bind (·[j]?)) = rows.flatten
  induction rows with
  | nil => rfl
  | cons row rows ih =>
      rw [List.forall_mem_cons] at h
      rw [List.length_cons, List.range_succ_eq_map, List.flatMap_cons, List.flatMap_map,
        List.flatten_cons, ← ih h.2]
      refine congrArg (· ++ _) ?_
      rw [← h.1]
      exact filterMap_range_getElem? row

/-- A matrix with rows of one width has an entry within its height and its width. -/
theorem exists_entry?_iff {a : Matrix α} {width i j : Nat}
    (h : ∀ row ∈ a.rows, row.length = width) :
    (∃ v, a.entry? i j = some v) ↔ i < a.height ∧ j < width := by
  constructor
  · rintro ⟨v, hv⟩
    obtain ⟨row, hrow, hv⟩ := Option.bind_eq_some_iff.1 hv
    obtain ⟨hi, -⟩ := List.getElem?_eq_some_iff.1 hrow
    obtain ⟨hj, -⟩ := List.getElem?_eq_some_iff.1 hv
    rw [h row (List.mem_of_getElem? hrow)] at hj
    exact ⟨hi, hj⟩
  · rintro ⟨hi, hj⟩
    rw [← h _ (List.getElem_mem hi)] at hj
    refine ⟨a.rows[i][j], ?_⟩
    unfold entry?
    rw [List.getElem?_eq_getElem hi, Option.bind_some, List.getElem?_eq_getElem hj]

section Generate

variable {m n : Nat} {f g : Nat → Nat → α}

theorem entry?_generate (i j : Nat) :
    entry? (generate m n f) i j = if i < m ∧ j < n then some (f i j) else none := by
  unfold entry? generate
  rw [List.getElem?_map]
  by_cases hi : i < m
  · rw [List.getElem?_range hi, Option.map_some, Option.bind_some, List.getElem?_map]
    by_cases hj : j < n
    · rw [List.getElem?_range hj, if_pos ⟨hi, hj⟩, Option.map_some]
    · rw [List.getElem?_eq_none (by simpa using hj), if_neg fun h => hj h.2, Option.map_none]
  · rw [List.getElem?_eq_none (by simpa using hi), if_neg fun h => hi h.1]
    rfl

variable [Scalar α]

theorem zero_eq_generate (m n : Nat) : zero m n = (generate m n fun _ _ => 0.0 : Matrix α) := by
  unfold zero generate
  rw [List.map_const', List.length_range, List.map_const', List.length_range]

theorem scale_generate (c : α) : (generate m n f).scale c = generate m n fun i j => c * f i j := by
  unfold scale map generate
  simp only [List.map_map, Function.comp_def]

theorem add_generate :
    (generate m n f).add (generate m n g) = generate m n fun i j => f i j + g i j := by
  unfold add zip generate
  simp only [List.zipWith_map, List.zipWith_self]

end Generate

def ofFn {m n : Nat} (A : Fin m → Fin n → α) : Matrix α :=
  ⟨n, List.ofFn fun i => List.ofFn (A i)⟩

theorem map_range_eq_ofFn {β : Type} (n : Nat) (f : Nat → β) :
    (List.range n).map f = List.ofFn fun i : Fin n => f i :=
  List.ext_getElem (by simp) fun i _ _ => by simp

section OfFn

variable {m n : Nat} {A B : Fin m → Fin n → α}

theorem height_ofFn (A : Fin m → Fin n → α) : (ofFn A).height = m := List.length_ofFn

theorem length_of_mem_ofFn {row : List α} (h : row ∈ (ofFn A).rows) : row.length = n := by
  obtain ⟨i, rfl⟩ := List.mem_ofFn.1 h
  exact List.length_ofFn

theorem entry?_ofFn (A : Fin m → Fin n → α) (i : Fin m) (j : Fin n) :
    entry? (ofFn A) i j = some (A i j) := by
  unfold entry? ofFn
  simp

theorem ofFn_inj : ofFn A = ofFn B ↔ A = B := by
  constructor
  · intro h
    funext i j
    have hentry := entry?_ofFn A i j
    rw [h, entry?_ofFn, Option.some.injEq] at hentry
    exact hentry.symm
  · rintro rfl
    rfl

theorem generate_eq_ofFn (f : Nat → Nat → α) :
    generate m n f = ofFn fun (i : Fin m) (j : Fin n) => f i j := by
  rw [generate, map_range_eq_ofFn]
  simp only [map_range_eq_ofFn]
  rfl

theorem transpose_ofFn (A : Fin m → Fin n → α) : (ofFn A).transpose = ofFn fun j i => A i j := by
  have hcolumn (j : Fin n) : (ofFn A).rows.filterMap (·[j.val]?) = List.ofFn fun i => A i j := by
    rw [ofFn, List.ofFn_eq_map, List.filterMap_map, List.ofFn_eq_map, ← List.filterMap_eq_map]
    exact List.filterMap_congr fun i _ => by simp
  rw [transpose, height_ofFn, map_range_eq_ofFn]
  exact congrArg (Matrix.mk m) (congrArg List.ofFn (funext hcolumn))

theorem exists_eq_ofFn {xs : List α} (h : xs.length = n) : ∃ v : Fin n → α, xs = List.ofFn v := by
  subst h
  exact ⟨xs.get, (List.ofFn_get xs).symm⟩

theorem exists_ofFn {a : Matrix α} (hheight : a.height = m) (hwidth : a.width = n)
    (hrows : ∀ row ∈ a.rows, row.length = n) : ∃ A : Fin m → Fin n → α, a = ofFn A := by
  obtain ⟨width, rows⟩ := a
  subst hwidth
  obtain ⟨row, rfl⟩ := exists_eq_ofFn hheight
  choose A hA using fun i => exists_eq_ofFn (hrows (row i) (List.mem_ofFn.2 ⟨i, rfl⟩))
  exact ⟨A, congrArg (Matrix.mk width) (congrArg List.ofFn (funext hA))⟩

theorem toTensor_ofFn (A : Fin m → Fin n → α) : (ofFn A).toTensor =
    ⟨[m, n], (List.finRange m ×ˢ List.finRange n).map fun p => A p.1 p.2⟩ := by
  have hentries : (ofFn A).rows.flatten =
      (List.finRange m ×ˢ List.finRange n).map fun p => A p.1 p.2 := by
    have hproduct : List.finRange m ×ˢ List.finRange n =
        (List.finRange m).flatMap fun i => (List.finRange n).map (Prod.mk i) := rfl
    rw [hproduct, List.map_flatMap, List.flatMap_def, ofFn, List.ofFn_eq_map]
    simp only [List.ofFn_eq_map, List.map_map, Function.comp_def]
  rw [toTensor, height_ofFn, hentries]
  rfl

theorem rowsOf_ofFn (A : Fin m → Fin n → α) :
    Tensor.rowsOf n m (ofFn A).toTensor.entries = (ofFn A).rows := by
  have hrows := Tensor.rowsOf_flatten fun _ => length_of_mem_ofFn (A := A)
  rw [← height, height_ofFn] at hrows
  exact hrows

end OfFn

theorem entry?_map {β : Type} (f : α → β) (a : Matrix α) (i j : Nat) :
    entry? (a.map f) i j = do return f (← a.entry? i j) := by
  unfold entry? map
  rw [List.getElem?_map]
  cases a.rows[i]? with
  | none => rfl
  | some row =>
      rw [Option.map_some, Option.bind_some, Option.bind_some, List.getElem?_map]
      cases row[j]? <;> rfl

theorem entry?_zip (f : α → α → α) (a b : Matrix α) (i j : Nat) :
    entry? (a.zip f b) i j = do return f (← a.entry? i j) (← b.entry? i j) := by
  unfold entry? zip
  rw [List.getElem?_zipWith]
  cases a.rows[i]? with
  | none => rfl
  | some row =>
      cases b.rows[i]? with
      | none => cases h : row[j]? <;> simp [h]
      | some row' =>
          rw [Option.bind_some, Option.bind_some, Option.bind_some, List.getElem?_zipWith]
          cases row[j]? <;> cases row'[j]? <;> rfl

def IsSymmetric (a : Matrix α) : Prop := ∀ i j, a.entry? i j = a.entry? j i

variable [Scalar α] {a b : Matrix α}

theorem isSymmetric_zero (n : Nat) : (zero n n : Matrix α).IsSymmetric := by
  intro i j
  simp only [zero_eq_generate, entry?_generate, and_comm]

theorem IsSymmetric.scale (ha : a.IsSymmetric) (c : α) : (a.scale c).IsSymmetric := by
  intro i j
  rw [Matrix.scale, entry?_map, entry?_map, ha i j]

theorem IsSymmetric.add (ha : a.IsSymmetric) (hb : b.IsSymmetric) : (a.add b).IsSymmetric := by
  intro i j
  rw [Matrix.add, entry?_zip, entry?_zip, ha i j, hb i j]

end Matrix

end NonlinearProgram
