import NonlinearProgram.Proofs.Function.Discrepancy
import NonlinearProgram.Proofs.Function.Evaluation
import NonlinearProgram.Proofs.Function.FiniteDifference

/-!
# Functions lifted by differences

A lifted function hands its points on to the function it wraps, so their values are the same and so
are the differences that a check makes of either. The derivative of a lifted function is such a
difference, hence a check compares it with itself: the two agree entry by entry, and the check
passes where the entries are finite.
-/

namespace NonlinearProgram

open Scalar

variable {α : Type} [Scalar α]

theorem centralDifferences_congr {β γ : Type} {f g : List α → Except (Error α) β} {x : List α}
    (h : ∀ y : List α, y.length = x.length → f y = g y) (quotient : α → β → β → γ)
    (step : Datum α) :
    centralDifferences f quotient x step = centralDifferences g quotient x step := by
  have hshift (j : Nat) (ε : α) : (stepIn x.length j ε).length = x.length := by simp [stepIn]
  unfold centralDifferences
  congr 1
  funext j
  congr 1
  funext ε
  dsimp only
  rw [h _ (by simp [hshift]), h _ (by simp [hshift])]

/-- What central differences come to: for every variable what is made of the results ahead and
behind. -/
theorem forall₂_of_centralDifferences {β γ : Type} {f : List α → Except (Error α) β}
    {quotient : α → β → β → γ} {x : List α} {step : Datum α} {parts : List γ}
    (h : centralDifferences f quotient x step = .ok parts) :
    List.Forall₂ (fun j part => ∃ ε width ahead behind,
      stepSize step = .ok ε ∧ stepWidth step = .ok width ∧
      f (List.zipWith (· + ·) x (stepIn x.length j ε)) = .ok ahead ∧
      f (List.zipWith (· - ·) x (stepIn x.length j ε)) = .ok behind ∧
      part = quotient width ahead behind) (List.range x.length) parts := by
  refine (mapM_eq_ok_iff.1 h).imp fun j part hpart => ?_
  obtain ⟨ε, hsize, hpart⟩ := bind_eq_ok_iff.1 hpart
  obtain ⟨ahead, hahead, hpart⟩ := bind_eq_ok_iff.1 hpart
  obtain ⟨behind, hbehind, hpart⟩ := bind_eq_ok_iff.1 hpart
  obtain ⟨width, hwidth, hquotient⟩ := bind_eq_ok_iff.1 hpart
  exact ⟨ε, width, ahead, behind, hsize, hwidth, hahead, hbehind, (Except.ok.inj hquotient).symm⟩

omit [Scalar α] in
/-- A part of a vector is an entry, or for a flag the whole as a row, or no row. -/
theorem Tensor.part_vector_cases {xs : List α} {index : Datum α} {t : Tensor α}
    (h : (vector xs).part index = .ok t) :
    (∃ (k : Nat) (v : α), index = .whole k ∧ xs[k]? = some v ∧ t = .number v) ∨
      index = .flag true ∧ t.entries = xs ∨ index = .flag false ∧ t.entries = [] := by
  cases index with
  | flag b =>
      cases b with
      | true =>
          cases h
          exact .inr (.inl ⟨rfl, rfl⟩)
      | false =>
          cases h
          exact .inr (.inr ⟨rfl, rfl⟩)
  | whole k =>
      by_cases hk : 0 ≤ k
      · obtain ⟨k, rfl⟩ := Int.eq_ofNat_of_zero_le hk
        cases hv : xs[k]? with
        | some v =>
            rw [part_vector hv] at h
            exact .inl ⟨k, v, rfl, hv, (Except.ok.inj h).symm⟩
        | none =>
            have hrow : (rowsOf (capacity []) xs.length xs)[k]? = none := by
              change (rowsOf 1 xs.length xs)[k]? = none
              rw [rowsOf_one, List.getElem?_map, hv]
              rfl
            simp only [part, vector, Int.natCast_nonneg, if_true, Int.toNat_natCast, hrow] at h
            cases h
      · simp only [part, vector, if_neg hk] at h
        cases h
  | nothing | number x | text s | list items | record fields => cases h

omit [Scalar α] in
theorem Tensor.size_stack {parts : List (Tensor α)} {count : Nat}
    (h : ∀ part ∈ parts, part.entries.length = count) :
    (stack parts).size = parts.length * count := by
  cases parts with
  | nil => exact (Nat.zero_mul _).symm
  | cons part parts =>
      change ((part :: parts).flatMap (·.entries)).length = _
      rw [List.length_flatMap, List.map_congr_left h, List.map_const', List.sum_replicate,
        smul_eq_mul]

theorem exists_map_of_forall₂ {β γ δ : Type} {R : β → δ → Prop} {g : δ → γ} {xs : List β}
    {ys : List γ} (h : List.Forall₂ (fun x y => ∃ d, y = g d ∧ R x d) xs ys) :
    ∃ ds, ys = ds.map g ∧ List.Forall₂ R xs ds := by
  induction h with
  | nil => exact ⟨[], rfl, .nil⟩
  | cons hxy _ ih =>
      obtain ⟨d, rfl, hd⟩ := hxy
      obtain ⟨ds, rfl, hds⟩ := ih
      exact ⟨d :: ds, rfl, .cons hd hds⟩

namespace Function

variable {f : Function α} {step x index : Datum α} {point : List α}

/-- The quotient of an output component at a variable: its value a step ahead of a point less the
one as far behind, over the distance between the two. -/
def IsQuotient (f : Function α) (index step : Datum α) (x : List α) (j : Nat) (q : α) : Prop :=
  ∃ (k : Nat) (ε width : α) (ahead behind : List α) (a b : α), index = .whole k ∧
    stepSize step = .ok ε ∧ stepWidth step = .ok width ∧
    f.compute (.vector (List.zipWith (· + ·) x (stepIn x.length j ε))) = .ok ahead ∧
    f.compute (.vector (List.zipWith (· - ·) x (stepIn x.length j ε))) = .ok behind ∧
    ahead[k]? = some a ∧ behind[k]? = some b ∧ q = (a - b) / width

/-- What a component of a value is, and the value it is a part of. -/
theorem component_eq_ok_iff {t : Tensor α} : f.component index point = .ok t ↔
    ∃ values, f.compute (.vector point) = .ok values ∧ (Tensor.vector values).part index = .ok t :=
  bind_eq_ok_iff

theorem isQuotient_of_component {k j : Nat} {ε width : α} {ahead behind : Tensor α}
    (hsize : stepSize step = .ok ε) (hwidth : stepWidth step = .ok width)
    (hahead : f.component (.whole k) (List.zipWith (· + ·) point (stepIn point.length j ε))
      = .ok ahead)
    (hbehind : f.component (.whole k) (List.zipWith (· - ·) point (stepIn point.length j ε))
      = .ok behind) :
    ∃ q, quotients width ahead behind = .number q ∧
      f.IsQuotient (.whole k) step point j q := by
  have hentry {values : List α} {t : Tensor α}
      (h : (Tensor.vector values).part (.whole (k : Nat)) = .ok t) :
      ∃ v, values[k]? = some v ∧ t = .number v := by
    rcases Tensor.part_vector_cases h with ⟨k', v, hk, hv, ht⟩ | ⟨h, -⟩ | ⟨h, -⟩
    · obtain rfl : k = k' := by simpa using hk
      exact ⟨v, hv, ht⟩
    · cases h
    · cases h
  obtain ⟨valuesAhead, hvaluesAhead, hpartAhead⟩ := component_eq_ok_iff.1 hahead
  obtain ⟨valuesBehind, hvaluesBehind, hpartBehind⟩ := component_eq_ok_iff.1 hbehind
  obtain ⟨a, ha, rfl⟩ := hentry hpartAhead
  obtain ⟨b, hb, rfl⟩ := hentry hpartBehind
  exact ⟨(a - b) / width, rfl, k, ε, width, valuesAhead, valuesBehind, a, b, rfl, hsize, hwidth,
    hvaluesAhead, hvaluesBehind, ha, hb, rfl⟩

/-- A flag makes rows of values, so that it has an entry for each variable nowhere. -/
theorem length_component_of_flag {b : Bool} {t : Tensor α}
    (h : f.component (.flag b) point = .ok t) :
    t.entries.length = if b then f.outputSize else 0 := by
  obtain ⟨values, hvalues, hpart⟩ := component_eq_ok_iff.1 h
  cases b with
  | true =>
      cases hpart
      exact length_of_compute hvalues
  | false =>
      cases hpart
      rfl

/-- A flag does not make a vector with an entry for each variable: it is told from a whole index by
the number of entries. -/
theorem ne_flag_of_differenceGradient {T : Tensor α}
    (h : differenceGradient f point index step = .ok T) (hindex : index.Indexes f.outputSize)
    (hsize : T.size = point.length) (hpoint : point.length ≠ 0) (b : Bool) : index ≠ .flag b := by
  rintro rfl
  obtain ⟨parts, hparts, hT⟩ := bind_eq_ok_iff.1 h
  obtain rfl : Tensor.stack parts = T := Except.ok.inj hT
  have hall := forall₂_of_centralDifferences hparts
  have hlength : ∀ part ∈ parts, part.entries.length = if b then f.outputSize else 0 := by
    intro part hpart
    obtain ⟨j, -, ε, width, ahead, behind, -, -, hahead, hbehind, rfl⟩ :=
      exists_of_mem_right hall hpart
    rw [quotients, List.length_zipWith, length_component_of_flag hahead,
      length_component_of_flag hbehind, Nat.min_self]
  have htotal := Tensor.size_stack hlength
  rw [hsize, ← hall.length_eq, List.length_range] at htotal
  have hone : (if b then f.outputSize else 0) = 1 :=
    Nat.eq_of_mul_eq_mul_left (Nat.pos_of_ne_zero hpoint) (htotal.symm.trans (Nat.mul_one _).symm)
  cases b with
  | false => cases hone
  | true =>
      cases hindex with
      | whole hwhole _ hbelow =>
          cases hwhole
          simp only [if_true] at hone hbelow
          omega
      | between hnumber => cases hnumber

/-- The differences of an output component with an entry for each variable are a vector of
quotients. -/
theorem exists_of_differenceGradient {T : Tensor α}
    (h : differenceGradient f point index step = .ok T) (hindex : index.Indexes f.outputSize)
    (hsize : T.size = point.length) :
    ∃ slopes, T = .vector slopes ∧
      List.Forall₂ (f.IsQuotient index step point) (List.range point.length) slopes := by
  have hflag := ne_flag_of_differenceGradient h hindex hsize
  obtain ⟨parts, hparts, hT⟩ := bind_eq_ok_iff.1 h
  obtain rfl : Tensor.stack parts = T := Except.ok.inj hT
  have hall := forall₂_of_centralDifferences hparts
  by_cases hpoint : point.length = 0
  · rw [hpoint] at hall ⊢
    obtain rfl : parts = [] := List.forall₂_nil_left_iff.1 hall
    exact ⟨[], rfl, .nil⟩
  obtain ⟨part, -, ε, width, ahead, behind, -, -, hahead, -⟩ :=
    exists_of_mem_left hall (List.mem_range.2 (Nat.pos_of_ne_zero hpoint))
  obtain ⟨values, -, hpart⟩ := component_eq_ok_iff.1 hahead
  rcases Tensor.part_vector_cases hpart with ⟨k, v, rfl, -⟩ | ⟨hb, -⟩ | ⟨hb, -⟩
  · have hquotients : List.Forall₂ (fun j part => ∃ q, part = Tensor.number q ∧
        f.IsQuotient (.whole k) step point j q) (List.range point.length) parts := by
      refine hall.imp fun j part hj => ?_
      obtain ⟨ε, width, ahead, behind, hstep, hwidth, hahead, hbehind, rfl⟩ := hj
      exact isQuotient_of_component hstep hwidth hahead hbehind
    obtain ⟨slopes, rfl, hslopes⟩ := exists_map_of_forall₂ hquotients
    exact ⟨slopes, Tensor.stack_number slopes, hslopes⟩
  · exact absurd hb (hflag hpoint true)
  · exact absurd hb (hflag hpoint false)

theorem checkArgument_finiteDifferences :
    (f.finiteDifferences step).checkArgument x = .ok point ↔ f.checkArgument x = .ok point := by
  rw [checkArgument_eq_ok_iff, checkArgument_eq_ok_iff]
  rfl

/-- At a vector of the input size a lifted function has the values of the function it wraps, and
its failures. -/
theorem compute_finiteDifferences (h : f.checkArgument x = .ok point) :
    (f.finiteDifferences step).compute x = f.compute x := by
  have hvector : Tensor.ofDatum x = Tensor.ofDatum (.vector point) := by
    rw [(checkArgument_eq_ok_iff.1 h).1, Tensor.ofDatum_vector]
  have hlift : (f.finiteDifferences step).compute x = (f.compute (.vector point) >>= fun values =>
      (f.finiteDifferences step).checkResult "result" f.outputSize (.tensor (.vector values))) := by
    rw [Function.compute, checkArgument_finiteDifferences.2 h, ok_bind]
    cases hvalues : f.compute (.vector point) with
    | error e => simp only [finiteDifferences, Hooks.compute, hvalues]; rfl
    | ok values => simp only [finiteDifferences, Hooks.compute, hvalues]; rfl
  rw [hlift, compute_congr hvector]
  cases hvalues : f.compute (.vector point) with
  | error e => rfl
  | ok values => exact if_pos (length_of_compute hvalues)

theorem compute_finiteDifferences_eq_ok_iff {values : List α} :
    (f.finiteDifferences step).compute x = .ok values ↔ f.compute x = .ok values := by
  constructor
  · intro h
    obtain ⟨point, hpoint⟩ := checkArgument_of_compute h
    rwa [compute_finiteDifferences (checkArgument_finiteDifferences.1 hpoint)] at h
  · intro h
    obtain ⟨point, hpoint⟩ := checkArgument_of_compute h
    rwa [compute_finiteDifferences hpoint]

theorem differenceGradient_finiteDifferences (h : point.length = f.inputSize) :
    differenceGradient (f.finiteDifferences step) point index step
      = differenceGradient f point index step := by
  unfold differenceGradient
  rw [centralDifferences_congr fun y hy => ?_]
  have hy : f.checkArgument (.vector y) = .ok y :=
    checkArgument_eq_ok_iff.2 ⟨Tensor.ofDatum_vector y, hy.trans h⟩
  unfold component
  rw [compute_finiteDifferences hy]

theorem exists_of_gradient_finiteDifferences {slopes : List α}
    (h : (f.finiteDifferences step).gradient x index = .ok slopes) :
    ∃ point T, f.checkArgument x = .ok point ∧ index.Indexes f.outputSize ∧
      differenceGradient f point index step = .ok T ∧ T.size = f.inputSize ∧
      T.entries = slopes := by
  obtain ⟨point, hpoint, h⟩ := bind_eq_ok_iff.1 h
  obtain ⟨⟨⟩, hchecked, h⟩ := bind_eq_ok_iff.1 h
  have hindex := checkIndex_eq_ok_iff.1 hchecked
  obtain ⟨result, hhook, h⟩ := bind_eq_ok_iff.1 h
  obtain ⟨T, hT, hresult⟩ := bind_eq_ok_iff.1 hhook
  cases hresult
  obtain ⟨hsize, hslopes⟩ : T.size = f.inputSize ∧ T.entries = slopes := by
    obtain ⟨t, ht, h⟩ := bind_eq_ok_iff.1 h
    cases ht
    split at h
    · next hsize => exact ⟨hsize, Except.ok.inj h⟩
    · cases h
  exact ⟨point, T, checkArgument_finiteDifferences.1 hpoint, hindex, hT, hsize, hslopes⟩

theorem exists_of_checkGradient_finiteDifferences {tolerance : Datum α} {check : DerivativeCheck α}
    (h : (checkGradient (f.finiteDifferences step) x index step tolerance).outcome = .ok check) :
    ∃ point slopes, f.checkArgument x = .ok point ∧
      List.Forall₂ (f.IsQuotient index step point) (List.range f.inputSize) slopes ∧
      check.analytic = .vector slopes ∧ check.approximate = .vector slopes ∧
      check.tolerance = tolerance ∧ check.maxError = discrepancy slopes slopes := by
  unfold checkGradient at h
  obtain ⟨slopes, hslopes, h⟩ := Attempt.outcome_bind_eq_ok_iff.1 h
  obtain ⟨point', hpoint', h⟩ := Attempt.outcome_bind_eq_ok_iff.1 h
  obtain ⟨T', hT', h⟩ := Attempt.outcome_bind_eq_ok_iff.1 h
  obtain ⟨point, T, hpoint, hindex, hT, hsize, hentries⟩ :=
    exists_of_gradient_finiteDifferences hslopes
  have hlength := (checkArgument_eq_ok_iff.1 hpoint).2
  cases hpoint.symm.trans (checkArgument_finiteDifferences.1 hpoint')
  rw [Attempt.outcome_liftM, differenceGradient_finiteDifferences hlength, hT] at hT'
  cases hT'
  obtain ⟨slopes', rfl, hquotients⟩ :=
    exists_of_differenceGradient hT hindex (hsize.trans hlength.symm)
  obtain rfl : slopes' = slopes := hentries
  have herror : relativeError (.vector slopes') (.vector slopes') =
      .ok (discrepancy slopes' slopes') := relativeError_eq_ok _ rfl
  rw [DerivativeCheck.outcome_conclude herror] at h
  cases h
  exact ⟨_, _, hpoint, hlength ▸ hquotients, rfl, rfl, rfl, rfl⟩

/-- Lifted by differences a function keeps its sizes and its values, and it fails where it failed.
A check of the lifted function with its own step compares the same vector twice: the quotients of
the function it wraps. So it passes, for a tolerance from zero on, exactly where they are finite. -/
theorem checkGradient_finiteDifferences [CancellingScalar α] (f : Function α) (step : Datum α) :
    (f.finiteDifferences step).inputSize = f.inputSize ∧
      (f.finiteDifferences step).outputSize = f.outputSize ∧
      (∀ x values, (f.finiteDifferences step).compute x = .ok values ↔ f.compute x = .ok values) ∧
      ∀ x index tolerance check,
        (checkGradient (f.finiteDifferences step) x index step tolerance).outcome = .ok check →
        ∃ point slopes, f.checkArgument x = .ok point ∧
          List.Forall₂ (f.IsQuotient index step point) (List.range f.inputSize) slopes ∧
          check.analytic = .vector slopes ∧ check.approximate = .vector slopes ∧
          ∀ t, tolerance.toReal = .ok t → atMost 0.0 t = true →
            ∃ passed, check.passed = .ok passed ∧
              (passed = true ↔ ∀ q ∈ slopes, isFinite q = true) := by
  refine ⟨rfl, rfl, fun x values => compute_finiteDifferences_eq_ok_iff, ?_⟩
  intro x index tolerance check hcheck
  obtain ⟨point, slopes, hpoint, hquotients, hanalytic, happroximate, htolerance, herror⟩ :=
    exists_of_checkGradient_finiteDifferences hcheck
  refine ⟨point, slopes, hpoint, hquotients, hanalytic, happroximate, fun t ht hzero => ?_⟩
  refine ⟨_, ?_, discrepancy_self_atMost_iff hzero slopes⟩
  rw [DerivativeCheck.passed, htolerance, ht, ok_bind, herror]
  rfl

end Function

def unbounded : Function Float where
  family := "CallableFunction"
  name := .text "unbounded"
  inputSize := 1
  outputSize := 1
  outputSize_pos := Nat.one_pos
  hooks := .valueOnly fun _ => .ok (.datum (.vector [infinity]))

theorem eq_of_compute_unbounded {x : Datum Float} {values : List Float}
    (h : unbounded.compute x = .ok values) : values = [infinity] := by
  obtain ⟨point, -, h⟩ := bind_eq_ok_iff.1 h
  obtain ⟨result, hresult, h⟩ := bind_eq_ok_iff.1 h
  cases hresult
  obtain ⟨t, ht, h⟩ := bind_eq_ok_iff.1 h
  cases (Tensor.ofDatum_vector [infinity]).symm.trans ht
  exact (Except.ok.inj h).symm

/-- The quotients of what has the same infinity everywhere are not numbers. -/
theorem isFinite_of_isQuotient_unbounded {index step : Datum Float} {x : List Float} {j : Nat}
    {q : Float} (h : unbounded.IsQuotient index step x j q) : isFinite q = false := by
  obtain ⟨k, ε, width, ahead, behind, a, b, -, -, -, hahead, hbehind, ha, hb, rfl⟩ := h
  rw [eq_of_compute_unbounded hahead] at ha
  rw [eq_of_compute_unbounded hbehind] at hb
  obtain rfl := List.mem_singleton.1 (List.mem_of_getElem? ha)
  obtain rfl := List.mem_singleton.1 (List.mem_of_getElem? hb)
  have hinfinity : isFinite (infinity : Float) = false := by decide +kernel
  rw [Bool.eq_false_iff]
  intro hfinite
  have hnumber := isNaN_of_isFinite hfinite
  rw [CancellingScalar.isNaN_div (CancellingScalar.isNaN_sub_self hinfinity)] at hnumber
  cases hnumber

/-- Lifted and checked by the step, a function of one variable passes for no tolerance, although
both vectors of the check are the same. -/
def Function.FailsItself (f : Function Float) (step : Datum Float) : Prop :=
  ∃ check slopes,
    (checkGradient (f.finiteDifferences step) (.vector [0.0]) (.whole 0) step
      (.number infinity)).outcome = .ok check ∧
    check.analytic = .vector slopes ∧ check.approximate = .vector slopes ∧
    slopes.length = 1 ∧ check.passed = .ok false

/-- However a step of one is given, what has the same infinity everywhere fails its own check. -/
theorem Function.checkGradient_finiteDifferences_unbounded :
    unbounded.FailsItself (.number 1.0) ∧ unbounded.FailsItself (.whole 1) ∧
      unbounded.FailsItself (.flag true) := by
  have hfails (step : Datum Float) (hreturns : ∃ check, (checkGradient
      (unbounded.finiteDifferences step) (.vector [0.0]) (.whole 0) step
      (.number infinity)).outcome = .ok check) : unbounded.FailsItself step := by
    obtain ⟨check, hcheck⟩ := hreturns
    obtain ⟨-, -, -, hchecks⟩ := Function.checkGradient_finiteDifferences unbounded step
    obtain ⟨point, slopes, -, hquotients, hanalytic, happroximate, hpassed⟩ :=
      hchecks _ _ _ check hcheck
    obtain ⟨passed, hpassed, hiff⟩ := hpassed infinity rfl (OrderedScalar.atMost_of_less
      OrderedScalar.zero_less_infinity)
    obtain ⟨q, hq, hquotient⟩ := exists_of_mem_left hquotients (List.mem_range.2 Nat.one_pos)
    have hfailed : passed = false := by
      rw [Bool.eq_false_iff]
      exact fun htrue => Bool.false_ne_true
        ((isFinite_of_isQuotient_unbounded hquotient).symm.trans (hiff.1 htrue q hq))
    exact ⟨check, slopes, hcheck, hanalytic, happroximate, hquotients.length_eq.symm,
      hfailed ▸ hpassed⟩
  exact ⟨hfails _ ⟨_, rfl⟩, hfails _ ⟨_, rfl⟩, hfails _ ⟨_, rfl⟩⟩

end NonlinearProgram
