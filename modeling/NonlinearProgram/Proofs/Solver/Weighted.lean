import NonlinearProgram.Proofs.Matrix
import NonlinearProgram.Proofs.Scalar.Fractions
import NonlinearProgram.Proofs.Solver.Stacked

/-!
# Weighted sums of Hessians

The Hessian of stacked constraints is a sum over their components, each times its weight and its
scale. The loop skips the components for which the two come to zero: their Hessians are not asked
for, so they cannot fail. Every other Hessian is asked for once, in the order of the components.
With exact numbers the skipped terms are zero anyway, so the sum is the plain one.
-/

namespace NonlinearProgram

open Scalar

section Loop

variable {m : Type → Type} [Monad m] {α : Type} [Scalar α] [MonadExcept (Error α) m]

/-- A numbered component with the product of its weight and its scale. -/
structure Summand (α : Type) [Scalar α] where
  component : (Function α × Nat) × Nat
  factor : α

namespace Summand

def counts (t : Summand α) : Bool := !equal t.factor 0.0

def number (t : Summand α) : Nat := t.component.2

def addTo (ask : (Function α × Nat) × Nat → m (Matrix α)) (total : Matrix α) (t : Summand α) :
    m (Matrix α) := do
  return total.add ((← ask t.component).scale t.factor)

end Summand

namespace StackedConstraints

def summands (s : StackedConstraints α) (ws : List α) : List (Summand α) :=
  ((Constraint.components s.constraints).zipIdx.zip (List.zipWith (· * ·) ws s.scales)).map
    fun (component, factor) => ⟨component, factor⟩

def asked (s : StackedConstraints α) (ws : List α) : List (Summand α) :=
  (s.summands ws).filter Summand.counts

end StackedConstraints

namespace Constraint

variable [LawfulMonad m] {ask : (Function α × Nat) × Nat → m (Matrix α)}
  {weightOf : Nat → Except (Error α) (Tensor α)}

theorem addHessian_eq {t : Summand α} (hweight : weightOf t.number = .ok ⟨[], [t.factor]⟩)
    (total : Matrix α) :
    addHessian ask weightOf total t.component =
      if t.counts then Summand.addTo ask total t else pure total := by
  unfold addHessian Summand.counts Summand.addTo
  rw [show t.component.2 = t.number from rfl, hweight]
  simp only [MonadExcept.ofExcept, Tensor.single, pure_bind]
  cases equal t.factor 0.0 with
  | true => rfl
  | false =>
      refine bind_congr fun a => ?_
      simp [weighted]

theorem foldlM_addHessian {terms : List (Summand α)}
    (hweight : ∀ t ∈ terms, weightOf t.number = .ok ⟨[], [t.factor]⟩) (total : Matrix α) :
    (terms.map Summand.component).foldlM (addHessian ask weightOf) total =
      (terms.filter Summand.counts).foldlM (Summand.addTo ask) total := by
  induction terms generalizing total with
  | nil => rfl
  | cons t terms ih =>
      rw [List.forall_mem_cons] at hweight
      rw [List.map_cons, List.foldlM_cons, addHessian_eq hweight.1, List.filter_cons]
      simp only [ih hweight.2]
      cases t.counts with
      | true => rw [if_pos rfl, if_pos rfl, List.foldlM_cons]
      | false => rw [if_neg nofun, if_neg nofun, pure_bind]

end Constraint

end Loop

section Asked

variable {α : Type} [Scalar α] {s : StackedConstraints α} {x : Datum α} {xs ws : List α}

namespace StackedConstraints

theorem mem_summands {t : Summand α} : t ∈ s.summands ws ↔
    (Constraint.components s.constraints)[t.number]? = some t.component.1 ∧
      ∃ w scale, ws[t.number]? = some w ∧ s.scales[t.number]? = some scale ∧
        t.factor = w * scale := by
  rw [summands, List.mem_map]
  constructor
  · rintro ⟨⟨component, factor⟩, hmem, rfl⟩
    obtain ⟨k, hk⟩ := List.mem_iff_getElem?.1 hmem
    obtain ⟨hcomponent, hfactor⟩ := List.getElem?_zip_eq_some.1 hk
    rw [List.getElem?_zipIdx, Option.map_eq_some_iff] at hcomponent
    obtain ⟨c, hc, rfl⟩ := hcomponent
    obtain ⟨w, scale, hw, hscale, hproduct⟩ := List.getElem?_zipWith_eq_some.1 hfactor
    rw [← Nat.zero_add k] at hc hw hscale
    exact ⟨hc, w, scale, hw, hscale, hproduct.symm⟩
  · rintro ⟨hc, w, scale, hw, hscale, hfactor⟩
    refine ⟨(t.component, t.factor), List.mem_iff_getElem?.2 ⟨t.number, ?_⟩, rfl⟩
    rw [List.getElem?_zip_eq_some, List.getElem?_zipIdx, hc, List.getElem?_zipWith, hw, hscale,
      hfactor, Nat.zero_add]
    exact ⟨rfl, rfl⟩

/-- What is asked for are the components for which weight and scale do not come to zero. -/
theorem exists_mem_asked_iff (hws : ws.length = Problem.totalSize s.constraints) {k : Nat} :
    (∃ t ∈ s.asked ws, t.number = k) ↔
      ∃ w scale, ws[k]? = some w ∧ s.scales[k]? = some scale ∧ equal (w * scale) 0.0 = false := by
  unfold asked
  simp only [List.mem_filter, mem_summands]
  constructor
  · rintro ⟨t, ⟨⟨-, w, scale, hw, hscale, hfactor⟩, hcounts⟩, rfl⟩
    rw [Summand.counts, hfactor, Bool.not_eq_true'] at hcounts
    exact ⟨w, scale, hw, hscale, hcounts⟩
  · rintro ⟨w, scale, hw, hscale, hnonzero⟩
    have hk : k < (Constraint.components s.constraints).length := by
      rw [Constraint.length_components, ← hws]
      exact (List.getElem?_eq_some_iff.1 hw).1
    refine ⟨⟨((Constraint.components s.constraints)[k], k), w * scale⟩,
      ⟨⟨List.getElem?_eq_getElem hk, w, scale, hw, hscale, rfl⟩, ?_⟩, rfl⟩
    rw [Summand.counts, hnonzero]
    rfl

section Lengths

variable (hscales : s.scales.length = Problem.totalSize s.constraints)
  (hws : ws.length = Problem.totalSize s.constraints)

include hscales hws

theorem length_factors : (Constraint.components s.constraints).zipIdx.length =
    (List.zipWith (· * ·) ws s.scales).length := by
  rw [List.length_zipIdx, Constraint.length_components, List.length_zipWith, hws, hscales,
    Nat.min_self]

theorem map_component_summands :
    (s.summands ws).map Summand.component = (Constraint.components s.constraints).zipIdx := by
  rw [summands, List.map_map]
  exact List.map_fst_zip (length_factors hscales hws).le

theorem map_factor_summands :
    (s.summands ws).map Summand.factor = List.zipWith (· * ·) ws s.scales := by
  rw [summands, List.map_map]
  exact List.map_snd_zip (length_factors hscales hws).ge

theorem map_number_summands :
    (s.summands ws).map Summand.number = List.range (Problem.totalSize s.constraints) := by
  rw [← Constraint.length_components, List.range_eq_range', ← List.zipIdx_map_snd,
    ← map_component_summands hscales hws, List.map_map]
  rfl

/-- The numbers of the components that are asked for are in order, and none of them comes twice. -/
theorem pairwise_number_asked : ((s.asked ws).map Summand.number).Pairwise (· < ·) := by
  refine List.Pairwise.sublist (List.filter_sublist.map Summand.number) ?_
  rw [map_number_summands hscales hws]
  exact List.pairwise_lt_range

theorem stackedHessian_eq {m : Type → Type} [Monad m] [LawfulMonad m] [MonadExcept (Error α) m]
    (ask : (Function α × Nat) × Nat → m (Matrix α)) (hx : Tensor.ofDatum x = .ok (.vector xs)) :
    Constraint.stackedHessian ask (Constraint.scaledWeight (.vector s.scales) (.vector ws))
        s.constraints x =
      (s.asked ws).foldlM (Summand.addTo ask) (Matrix.zero xs.length xs.length) := by
  rw [Constraint.stackedHessian_eq_foldlM, hx, ← map_component_summands hscales hws, ok_bind]
  simp only [MonadExcept.ofExcept, pure_bind, Tensor.length, Tensor.vector]
  refine Constraint.foldlM_addHessian (m := m) (fun t ht => ?_) _
  obtain ⟨-, w, scale, hw, hscale, hfactor⟩ := mem_summands.1 ht
  rw [hfactor]
  exact Constraint.weight_eq_ok hw hscale

end Lengths

end StackedConstraints

abbrev Recorded (α β : Type) [Scalar α] := ExceptT (Error α) (StateM (List Nat)) β

def Constraint.recordedHessianOf (x : Datum α) (component : (Function α × Nat) × Nat) :
    Recorded α (Matrix α) := do
  modify (· ++ [component.2])
  MonadExcept.ofExcept (hessianOf x component)

namespace StackedConstraints

def recordedHessian (s : StackedConstraints α) (x : Datum α) (weights : Tensor α) :
    Except (Error α) (Matrix α) × List Nat :=
  (Constraint.stackedHessian (Constraint.recordedHessianOf x)
    (Constraint.scaledWeight (.vector s.scales) weights) s.constraints x).run.run []

end StackedConstraints

namespace Summand

def recordedSum (x : Datum α) (terms : List (Summand α)) (total : Matrix α) (numbers : List Nat) :
    Except (Error α) (Matrix α) × List Nat :=
  (terms.foldlM (addTo (Constraint.recordedHessianOf x)) total).run.run numbers

variable {t : Summand α} {terms : List (Summand α)} {total a : Matrix α} {numbers : List Nat}
  {e : Error α}

theorem recordedSum_cons_of_ok (h : Constraint.hessianOf x t.component = .ok a) :
    recordedSum x (t :: terms) total numbers =
      recordedSum x terms (total.add (a.scale t.factor)) (numbers ++ [t.number]) := by
  unfold recordedSum
  rw [List.foldlM_cons, addTo, Constraint.recordedHessianOf, h]
  rfl

theorem recordedSum_cons_of_error (h : Constraint.hessianOf x t.component = .error e) :
    recordedSum x (t :: terms) total numbers = (.error e, numbers ++ [t.number]) := by
  unfold recordedSum
  rw [List.foldlM_cons, addTo, Constraint.recordedHessianOf, h]
  rfl

theorem fst_recordedSum (terms : List (Summand α)) (total : Matrix α) (numbers : List Nat) :
    (recordedSum x terms total numbers).1 =
      terms.foldlM (addTo (Constraint.hessianOf x)) total := by
  induction terms generalizing total numbers with
  | nil => rfl
  | cons t terms ih =>
      rw [List.foldlM_cons, addTo]
      cases h : Constraint.hessianOf x t.component with
      | error e =>
          rw [recordedSum_cons_of_error h]
          rfl
      | ok a =>
          rw [recordedSum_cons_of_ok h, ih]
          rfl

theorem snd_recordedSum_of_ok (numbers : List Nat)
    (h : terms.foldlM (addTo (Constraint.hessianOf x)) total = .ok a) :
    (recordedSum x terms total numbers).2 = numbers ++ terms.map number ∧
      ∀ t ∈ terms, ∃ b, Constraint.hessianOf x t.component = .ok b := by
  induction terms generalizing total numbers with
  | nil => exact ⟨(List.append_nil _).symm, nofun⟩
  | cons t terms ih =>
      rw [List.foldlM_cons, addTo] at h
      obtain ⟨_, hfirst, h⟩ := bind_eq_ok_iff.1 h
      obtain ⟨b, hb, hfirst⟩ := bind_eq_ok_iff.1 hfirst
      cases hfirst
      obtain ⟨hrecord, hall⟩ := ih (numbers ++ [t.number]) h
      rw [recordedSum_cons_of_ok hb, hrecord, List.forall_mem_cons]
      exact ⟨by simp, ⟨b, hb⟩, hall⟩

/-- A sum that fails has asked for the components up to the first that has no Hessian. -/
theorem snd_recordedSum_of_error (numbers : List Nat)
    (h : terms.foldlM (addTo (Constraint.hessianOf x)) total = .error e) :
    ∃ before t after, terms = before ++ t :: after ∧
      (∀ u ∈ before, ∃ b, Constraint.hessianOf x u.component = .ok b) ∧
      Constraint.hessianOf x t.component = .error e ∧
      (recordedSum x terms total numbers).2 = numbers ++ before.map number ++ [t.number] := by
  induction terms generalizing total numbers with
  | nil => cases h
  | cons t terms ih =>
      rw [List.foldlM_cons, addTo] at h
      cases hfirst : Constraint.hessianOf x t.component with
      | error e' =>
          rw [hfirst] at h
          cases h
          exact ⟨[], t, terms, rfl, nofun, hfirst, by
            rw [recordedSum_cons_of_error hfirst, List.map_nil, List.append_nil]⟩
      | ok b =>
          rw [hfirst] at h
          obtain ⟨before, u, after, rfl, hbefore, hu, hrecord⟩ :=
            ih (numbers ++ [t.number]) h
          refine ⟨t :: before, u, after, rfl, List.forall_mem_cons.2 ⟨⟨b, hfirst⟩, hbefore⟩, hu, ?_⟩
          rw [recordedSum_cons_of_ok hfirst, hrecord]
          simp

theorem isSymmetric_of_sum (h : terms.foldlM (addTo (Constraint.hessianOf x)) total = .ok a)
    (htotal : total.IsSymmetric)
    (hterms : ∀ t ∈ terms, ∀ b, Constraint.hessianOf x t.component = .ok b → b.IsSymmetric) :
    a.IsSymmetric := by
  induction terms generalizing total with
  | nil =>
      cases h
      exact htotal
  | cons t terms ih =>
      rw [List.foldlM_cons, addTo] at h
      obtain ⟨_, hfirst, h⟩ := bind_eq_ok_iff.1 h
      obtain ⟨b, hb, hfirst⟩ := bind_eq_ok_iff.1 hfirst
      cases hfirst
      rw [List.forall_mem_cons] at hterms
      exact ih h (htotal.add ((hterms.1 b hb).scale t.factor)) hterms.2

end Summand

end Asked

namespace Exact

theorem sum_zipWith_linear (c d : Rat) {us vs : List Rat} (hlength : us.length = vs.length)
    (scales hs : List Rat) :
    (List.zipWith (· * ·) (List.zipWith (· * ·)
      (List.zipWith (fun u v => c * u + d * v) us vs) scales) hs).sum =
        c * (List.zipWith (· * ·) (List.zipWith (· * ·) us scales) hs).sum +
          d * (List.zipWith (· * ·) (List.zipWith (· * ·) vs scales) hs).sum := by
  induction us generalizing vs scales hs with
  | nil =>
      rw [List.length_nil, eq_comm, List.length_eq_zero_iff] at hlength
      simp [hlength]
  | cons u us ih =>
      obtain ⟨v, vs, rfl⟩ := List.exists_cons_of_length_eq_add_one hlength.symm
      cases scales with
      | nil => simp
      | cons scale scales =>
          cases hs with
          | nil => simp
          | cons h hs =>
              simp only [List.zipWith_cons_cons, List.sum_cons, ih (Nat.succ.inj hlength)]
              ring

end Exact

namespace Constraint

def fractions (n : Nat) (h : Nat → Nat → Rat) : Matrix Exact :=
  .generate n n fun i j => .finite (h i j)

end Constraint

namespace Summand

open Exact

variable {n : Nat} {h : Nat → Nat → Nat → Rat} {x : Datum Exact}

def addAlways (n : Nat) (h : Nat → Nat → Nat → Rat) (total : Matrix Exact) (t : Summand Exact) :
    Matrix Exact :=
  total.add ((Constraint.fractions n (h t.number)).scale t.factor)

def plainSum (n : Nat) (h : Nat → Nat → Nat → Rat) (terms : List (Summand Exact)) : Matrix Exact :=
  terms.foldl (addAlways n h) (.zero n n)

theorem addAlways_generate (f : Nat → Nat → Exact) (t : Summand Exact) :
    addAlways n h (.generate n n f) t =
      .generate n n fun i j => f i j + t.factor * finite (h t.number i j) := by
  rw [addAlways, Constraint.fractions, Matrix.scale_generate, Matrix.add_generate]

theorem plainSum_eq_generate (terms : List (Summand Exact)) :
    plainSum n h terms = .generate n n fun i j =>
      Scalar.sum (terms.map fun t => t.factor * finite (h t.number i j)) := by
  have hfoldl : ∀ f : Nat → Nat → Exact, terms.foldl (addAlways n h) (.generate n n f) =
      .generate n n fun i j =>
        (terms.map fun t => t.factor * finite (h t.number i j)).foldl (· + ·) (f i j) := by
    induction terms with
    | nil => exact fun _ => rfl
    | cons t terms ih =>
        intro f
        rw [List.foldl_cons, addAlways_generate, ih]
        rfl
  rw [plainSum, Matrix.zero_eq_generate, hfoldl]
  rfl

theorem foldlM_filter_counts {terms : List (Summand Exact)}
    (hterms : ∀ t ∈ terms.filter counts,
      Constraint.hessianOf x t.component = .ok (Constraint.fractions n (h t.number))) :
    (terms.filter counts).foldlM (addTo (Constraint.hessianOf x)) (Matrix.zero n n) =
      .ok (plainSum n h terms) := by
  have hfoldl : ∀ f : Nat → Nat → Exact,
      (terms.filter counts).foldlM (addTo (Constraint.hessianOf x)) (.generate n n f) =
        .ok (terms.foldl (addAlways n h) (.generate n n f)) := by
    induction terms with
    | nil => exact fun _ => rfl
    | cons t terms ih =>
        intro f
        cases hcounts : t.counts with
        | true =>
            rw [List.filter_cons_of_pos hcounts, List.forall_mem_cons] at hterms
            have hstep : addTo (Constraint.hessianOf x) (.generate n n f) t =
                .ok (addAlways n h (.generate n n f) t) := by
              rw [addTo, hterms.1]
              rfl
            rw [List.filter_cons_of_pos hcounts, List.foldlM_cons, hstep, ok_bind, List.foldl_cons,
              addAlways_generate, ih hterms.2]
        | false =>
            have hzero : t.factor = 0.0 := eq_zero_of_equal (by simpa [counts] using hcounts)
            have hskip : ¬t.counts = true := by simp [hcounts]
            rw [List.filter_cons_of_neg hskip] at hterms
            rw [List.filter_cons_of_neg hskip, List.foldl_cons, addAlways_generate, hzero]
            simp only [add_zero_mul]
            exact ih hterms f
  rw [Matrix.zero_eq_generate, hfoldl, plainSum, Matrix.zero_eq_generate]

end Summand

namespace StackedConstraints

variable {α : Type} [Scalar α] {s : StackedConstraints α} {x : Datum α} {xs ws : List α}

/-- The Hessians that a weighted sum asks for: those of the components for which weight and scale do
not come to zero, each once and in order, up to the first that there is not. -/
structure AsksOnce (s : StackedConstraints α) (x : Datum α) (ws : List α) : Prop where
  pairwise : ((s.asked ws).map Summand.number).Pairwise (· < ·)
  mem_iff : ∀ k, (∃ t ∈ s.asked ws, t.number = k) ↔
    ∃ w scale, ws[k]? = some w ∧ s.scales[k]? = some scale ∧ equal (w * scale) 0.0 = false
  component : ∀ t ∈ s.asked ws,
    (Constraint.components s.constraints)[t.number]? = some t.component.1
  sum : (s.recordedHessian x (.vector ws)).1 = s.hessian x (.vector ws)
  exists_iff : (∃ a, s.hessian x (.vector ws) = .ok a) ↔
    ∀ t ∈ s.asked ws, ∃ b, Constraint.hessianOf x t.component = .ok b
  of_ok : ∀ a, s.hessian x (.vector ws) = .ok a →
    (s.recordedHessian x (.vector ws)).2 = (s.asked ws).map Summand.number
  of_error : ∀ e, s.hessian x (.vector ws) = .error e →
    ∃ before t after, s.asked ws = before ++ t :: after ∧
      (∀ u ∈ before, ∃ b, Constraint.hessianOf x u.component = .ok b) ∧
      Constraint.hessianOf x t.component = .error e ∧
      (s.recordedHessian x (.vector ws)).2 = before.map Summand.number ++ [t.number]
  isSymmetric : (∀ t ∈ s.asked ws, ∀ b, Constraint.hessianOf x t.component = .ok b →
    b.IsSymmetric) → ∀ a, s.hessian x (.vector ws) = .ok a → a.IsSymmetric

/-- What weighted sums come to where the components have the Hessians `h`: the plain sum, of which
every entry is a sum of products, and which is linear in the weights. -/
structure IsPlainSum (s : StackedConstraints Exact) (x : Datum Exact) (n : Nat)
    (h : Nat → Nat → Nat → Rat) : Prop where
  hessian_eq : ∀ ws : List Exact, ws.length = Problem.totalSize s.constraints →
    (∀ t ∈ s.asked ws,
      Constraint.hessianOf x t.component = .ok (Constraint.fractions n (h t.number))) →
    s.hessian x (.vector ws) = .ok (Summand.plainSum n h (s.summands ws))
  entries : ∀ ws : List Exact, ws.length = Problem.totalSize s.constraints →
    Summand.plainSum n h (s.summands ws) = .generate n n fun i j =>
      Scalar.dot (List.zipWith (· * ·) ws s.scales)
        ((List.range (Problem.totalSize s.constraints)).map fun k => .finite (h k i j))
  linear : (∀ v ∈ s.scales, isFinite v = true) →
    (∀ k f, (Constraint.components s.constraints)[k]? = some f →
      Constraint.hessianOf x (f, k) = .ok (Constraint.fractions n (h k))) →
    ∀ us vs : List Rat, us.length = Problem.totalSize s.constraints →
      vs.length = Problem.totalSize s.constraints → ∀ c d : Rat,
      ∃ a b, s.hessian x (.vector (us.map .finite)) = .ok a ∧
        s.hessian x (.vector (vs.map .finite)) = .ok b ∧
        s.hessian x (.vector (List.zipWith (fun u v => .finite (c * u + d * v)) us vs)) =
          .ok ((a.scale (.finite c)).add (b.scale (.finite d)))

section Lengths

variable (hx : Tensor.ofDatum x = .ok (.vector xs))
  (hscales : s.scales.length = Problem.totalSize s.constraints)
  (hws : ws.length = Problem.totalSize s.constraints)

include hx hscales hws

theorem hessian_eq_foldlM : s.hessian x (.vector ws) =
    (s.asked ws).foldlM (Summand.addTo (Constraint.hessianOf x))
      (Matrix.zero xs.length xs.length) := by
  exact stackedHessian_eq hscales hws _ hx

theorem recordedHessian_eq : s.recordedHessian x (.vector ws) =
    Summand.recordedSum x (s.asked ws) (Matrix.zero xs.length xs.length) [] := by
  unfold recordedHessian
  rw [stackedHessian_eq hscales hws _ hx]
  rfl

theorem asksOnce : s.AsksOnce x ws where
  pairwise := pairwise_number_asked hscales hws
  mem_iff _ := exists_mem_asked_iff hws
  component t ht := (mem_summands.1 (List.mem_of_mem_filter ht)).1
  sum := by
    rw [recordedHessian_eq hx hscales hws, hessian_eq_foldlM hx hscales hws,
      Summand.fst_recordedSum]
  exists_iff := by
    rw [hessian_eq_foldlM hx hscales hws]
    constructor
    · rintro ⟨a, ha⟩
      exact (Summand.snd_recordedSum_of_ok [] ha).2
    · intro hall
      cases hsum : (s.asked ws).foldlM (Summand.addTo (Constraint.hessianOf x))
          (Matrix.zero xs.length xs.length) with
      | ok a => exact ⟨a, rfl⟩
      | error e =>
          obtain ⟨before, t, after, hsplit, -, ht, -⟩ :=
            Summand.snd_recordedSum_of_error [] hsum
          obtain ⟨b, hb⟩ := hall t (by simp [hsplit])
          rw [hb] at ht
          cases ht
  of_ok a ha := by
    rw [hessian_eq_foldlM hx hscales hws] at ha
    rw [recordedHessian_eq hx hscales hws, (Summand.snd_recordedSum_of_ok [] ha).1, List.nil_append]
  of_error e he := by
    rw [hessian_eq_foldlM hx hscales hws] at he
    rw [recordedHessian_eq hx hscales hws]
    exact Summand.snd_recordedSum_of_error [] he
  isSymmetric hasked a ha := by
    rw [hessian_eq_foldlM hx hscales hws] at ha
    exact Summand.isSymmetric_of_sum ha (Matrix.isSymmetric_zero _) hasked

end Lengths

section Exact

open Exact

variable {s : StackedConstraints Exact} {x : Datum Exact} {xs ws : List Exact}
  {h : Nat → Nat → Nat → Rat} (hx : Tensor.ofDatum x = .ok (.vector xs))
  (hscales : s.scales.length = Problem.totalSize s.constraints)

include hscales

/-- An entry of the plain sum: the entries of all Hessians, each times its weight and its scale. -/
theorem plainSum_summands (hws : ws.length = Problem.totalSize s.constraints) (n : Nat) :
    Summand.plainSum n h (s.summands ws) = .generate n n fun i j =>
      Scalar.dot (List.zipWith (· * ·) ws s.scales)
        ((List.range (Problem.totalSize s.constraints)).map fun k => finite (h k i j)) := by
  rw [Summand.plainSum_eq_generate]
  simp only [Scalar.dot, ← map_factor_summands hscales hws, ← map_number_summands hscales hws,
    List.map_map, List.zipWith_map, List.zipWith_self]
  rfl

include hx

theorem hessian_eq_ok (hws : ws.length = Problem.totalSize s.constraints)
    (hasked : ∀ t ∈ s.asked ws,
      Constraint.hessianOf x t.component = .ok (Constraint.fractions xs.length (h t.number))) :
    s.hessian x (.vector ws) = .ok (Summand.plainSum xs.length h (s.summands ws)) := by
  rw [hessian_eq_foldlM hx hscales hws]
  exact Summand.foldlM_filter_counts hasked

theorem hessian_linear (hfinite : ∀ v ∈ s.scales, isFinite v = true)
    (hall : ∀ k f, (Constraint.components s.constraints)[k]? = some f →
      Constraint.hessianOf x (f, k) = .ok (Constraint.fractions xs.length (h k)))
    {us vs : List Rat} (hus : us.length = Problem.totalSize s.constraints)
    (hvs : vs.length = Problem.totalSize s.constraints) (c d : Rat) :
    ∃ a b, s.hessian x (.vector (us.map finite)) = .ok a ∧
      s.hessian x (.vector (vs.map finite)) = .ok b ∧
      s.hessian x (.vector (List.zipWith (fun u v => finite (c * u + d * v)) us vs)) =
        .ok ((a.scale (finite c)).add (b.scale (finite d))) := by
  obtain ⟨scales, hrational⟩ := exists_map_finite hfinite
  have hsum : ∀ {ws : List Rat}, ws.length = Problem.totalSize s.constraints →
      s.hessian x (.vector (ws.map finite)) = .ok (.generate xs.length xs.length fun i j =>
        finite (List.zipWith (· * ·) (List.zipWith (· * ·) ws scales)
          ((List.range (Problem.totalSize s.constraints)).map fun k => h k i j)).sum) := by
    intro ws hws
    have hlength : (ws.map finite).length = Problem.totalSize s.constraints := by
      rw [List.length_map, hws]
    have hasked : ∀ t ∈ s.asked (ws.map finite), Constraint.hessianOf x t.component =
        .ok (Constraint.fractions xs.length (h t.number)) :=
      fun t ht => hall t.number _ (mem_summands.1 (List.mem_of_mem_filter ht)).1
    rw [hessian_eq_ok hx hscales hlength hasked, plainSum_summands hscales hlength, hrational]
    simp [← dot_map_finite, List.zipWith_map, List.map_zipWith, Function.comp_def]
  have hcombined : List.zipWith (fun u v => finite (c * u + d * v)) us vs =
      (List.zipWith (fun u v => c * u + d * v) us vs).map finite := by
    rw [List.map_zipWith]
  refine ⟨_, _, hsum hus, hsum hvs, ?_⟩
  rw [hcombined, hsum (by simp [hus, hvs]), Matrix.scale_generate, Matrix.scale_generate,
    Matrix.add_generate]
  simp only [finite_mul_finite, finite_add_finite, sum_zipWith_linear c d (hus.trans hvs.symm)]

end Exact

/-- The weighted sum asks for the Hessians of the components whose weight and scale do not come to
zero, each once and in order, so a component without weight cannot make it fail, and it is symmetric
where these are. With finite Hessians it is the plain sum over all components, and with finite
scales it is linear in the weights. -/
theorem hessian_eq_plainSum :
    (∀ {α : Type} [Scalar α] (s : StackedConstraints α) (x : Datum α) (xs ws : List α),
      Tensor.ofDatum x = .ok (.vector xs) →
      s.scales.length = Problem.totalSize s.constraints →
      ws.length = Problem.totalSize s.constraints → s.AsksOnce x ws) ∧
    ∀ (s : StackedConstraints Exact) (x : Datum Exact) (xs : List Exact)
      (h : Nat → Nat → Nat → Rat), Tensor.ofDatum x = .ok (.vector xs) →
      s.scales.length = Problem.totalSize s.constraints → s.IsPlainSum x xs.length h := by
  refine ⟨fun s x xs ws hx hscales hws => asksOnce hx hscales hws,
    fun s x xs h hx hscales => ⟨?_, ?_, ?_⟩⟩
  · intro ws hws hasked
    exact hessian_eq_ok hx hscales hws hasked
  · intro ws hws
    exact plainSum_summands hscales hws _
  · intro hfinite hall us vs hus hvs c d
    exact hessian_linear hx hscales hfinite hall hus hvs c d

end StackedConstraints

open Exact

def product : Function Exact where
  family := "CallableTwiceDifferentiableFunction"
  name := .text "product"
  inputSize := 2
  outputSize := 1
  outputSize_pos := Nat.one_pos
  hooks := .twiceDifferentiable (fun x => .ok (.datum (.vector [x.foldl (· * ·) (finite 1)])))
    (fun x _ => .ok (.datum (.vector x.reverse)))
    fun _ _ => .ok (.datum (.list [.vector [finite 0, finite 1], .vector [finite 1, finite 0]]))

def leading : Function Exact where
  family := "CallableDifferentiableFunction"
  name := .text "leading"
  inputSize := 2
  outputSize := 1
  outputSize_pos := Nat.one_pos
  hooks := .differentiable (fun x => .ok (.datum (.vector (x.take 1))))
    fun _ _ => .ok (.datum (.vector [finite 1, finite 0]))

namespace StackedConstraints

def productAndLeading : StackedConstraints Exact where
  constraints := [⟨product, [.unbounded], [finite 2]⟩, ⟨leading, [.unbounded], [finite 1]⟩]
  scales := [finite 2, finite 1]

/-- The second component has no Hessian. Without weight it is not asked for one, and the sum is that
of the first alone. -/
theorem hessian_eq_plainSum_leading :
    (∃ e, Constraint.hessianOf (.vector [finite 2, finite 3]) ((leading, 0), 1) = .error e) ∧
    productAndLeading.hessian (.vector [finite 2, finite 3]) (.vector [finite 3, finite 0]) =
      .ok (.generate 2 2 fun i j => finite (if i = j then 0 else 6)) ∧
    (productAndLeading.recordedHessian (.vector [finite 2, finite 3])
      (.vector [finite 3, finite 0])).2 = [0] := by
  have hx := Tensor.ofDatum_vector [finite 2, finite 3]
  have hproduct : Constraint.hessianOf (.vector [finite 2, finite 3]) ((product, 0), 0) =
      .ok (Constraint.fractions 2 fun i j => if i = j then 0 else 1) := by
    with_unfolding_all rfl
  have hasked : productAndLeading.asked [finite 3, finite 0] = [⟨((product, 0), 0), finite 6⟩] := by
    with_unfolding_all rfl
  have hasks := hessian_eq_plainSum.1 productAndLeading _ _ [finite 3, finite 0] hx rfl rfl
  have hplain := hessian_eq_plainSum.2 productAndLeading _ _
    (fun _ i j => if i = j then 0 else 1) hx rfl
  have hsum := hplain.hessian_eq [finite 3, finite 0] rfl (by
    rw [hasked, List.forall_mem_singleton]
    exact hproduct)
  refine ⟨⟨_, rfl⟩, ?_, ?_⟩
  · rw [hsum, hplain.entries _ rfl]
    refine congrArg (fun rows => Except.ok (Matrix.mk 2 rows)) ?_
    decide +kernel
  · rw [hasks.of_ok _ hsum, hasked]
    rfl

end StackedConstraints

end NonlinearProgram
