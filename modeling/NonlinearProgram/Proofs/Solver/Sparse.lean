import NonlinearProgram.Proofs.Solver.Callbacks
import NonlinearProgram.Proofs.Solver.Weighted
import NonlinearProgram.Proofs.Tensor.Matching

/-!
# Sparse derivatives lose nothing

An interior-point library is told the positions of a Jacobian or a Hessian once and gets the entries
at each point. The two are made apart from each other, and they agree: the entries are those of the
dense derivatives at the positions. The scales of the constraints do not come in, as the library is
told them beside.
-/

namespace NonlinearProgram

open Scalar

section Jacobian

variable {α : Type} [Scalar α]

namespace Problem

variable {p : Problem α} {x : Datum α} {xs : List α} {d : Constraint α → Nat → List α}

theorem stackedUnscaled_jacobian_eq_ok [LawfulScalar α]
    (hx : Tensor.ofDatum x = .ok (.vector xs))
    (hd : ∀ c ∈ p.constraints, ∀ i < c.size, c.function.gradient x (.whole i) = .ok (d c i)) :
    p.stackedUnscaled.jacobian x =
      .ok ⟨xs.length, p.constraints.flatMap (Constraint.gradients d)⟩ := by
  have hscales : p.stackedUnscaled.scales =
      List.replicate (p.constraints.flatMap (Constraint.gradients d)).length 1.0 := by
    rw [numbered_gradients.length_eq]
    rfl
  rw [StackedConstraints.jacobian_eq_ok (s := p.stackedUnscaled)
    (Constraint.stackedJacobian_eq_ok hx hd) (by rw [hscales]; exact List.length_replicate)]
  rw [hscales]
  refine congrArg (fun rows => Except.ok (Matrix.mk xs.length rows)) ?_
  refine zipWith_replicate_eq_self (fun row => ?_) _
  simp only [LawfulScalar.one_mul, List.map_id']

theorem length_of_mem_gradients (hp : p.WellFormed)
    (hd : ∀ c ∈ p.constraints, ∀ i < c.size, c.function.gradient x (.whole i) = .ok (d c i)) :
    ∀ row ∈ p.constraints.flatMap (Constraint.gradients d), row.length = p.inputSize := by
  intro row hrow
  obtain ⟨c, hc, hrow⟩ := List.mem_flatMap.1 hrow
  obtain ⟨i, hi, rfl⟩ := List.mem_map.1 hrow
  rw [Function.length_of_gradient (hd c hc i (List.mem_range.1 hi)), hp.inputSizes c hc]

end Problem

end Jacobian

def Constraint.outputs {β : Type} (h : Constraint Exact → Nat → β) (c : Constraint Exact) :
    List β :=
  (List.range c.size).map (h c)

namespace Problem

open Exact

variable {p : Problem Exact} {x : Datum Exact} {xs ws : List Exact}
  {h : Constraint Exact → Nat → Nat → Nat → Rat} {objective : Nat → Nat → Rat}

def componentHessians (p : Problem Exact) (h : Constraint Exact → Nat → Nat → Nat → Rat) :
    List (Nat → Nat → Rat) :=
  p.constraints.flatMap (Constraint.outputs h)

theorem numbered_componentHessians :
    p.Numbered (Constraint.outputs h) (p.componentHessians h) := by
  apply numbered_flatMap
  intro c _
  rw [Constraint.outputs, List.length_map, List.length_range]

def componentHessian (p : Problem Exact) (h : Constraint Exact → Nat → Nat → Nat → Rat) (k : Nat) :
    Nat → Nat → Rat :=
  ((p.componentHessians h)[k]?).getD fun _ _ => 0

theorem map_componentHessian {β : Type} (f : (Nat → Nat → Rat) → β) :
    ((List.range p.componentCount).map fun k => f (p.componentHessian h k)) =
      (p.componentHessians h).map f := by
  have hlength : (p.componentHessians h).length = p.componentCount :=
    numbered_componentHessians.length_eq
  apply List.ext_getElem
  · simp [hlength]
  · intro k _ hk
    rw [List.length_map] at hk
    simp [componentHessian, List.getElem?_eq_getElem hk]

theorem hessianOf_component
    (hh : ∀ c ∈ p.constraints, ∀ i < c.size,
      c.function.hessian x (.whole i) = .ok (Constraint.fractions xs.length (h c i)))
    {f : Function Exact × Nat} {k : Nat} (hf : (Constraint.components p.constraints)[k]? = some f) :
    Constraint.hessianOf x (f, k) =
      .ok (Constraint.fractions xs.length (p.componentHessian h k)) := by
  have hitems : List.Forall₂ (fun item h =>
      item.1.hessian x (.whole item.2) = .ok (Constraint.fractions xs.length h))
      (Constraint.components p.constraints) (p.componentHessians h) := by
    unfold Constraint.components componentHessians Constraint.outputs
    rw [forall₂_flatMap_iff fun c _ => by rw [List.length_map, List.length_map]]
    intro c hc
    rw [List.forall₂_map_left_iff, List.forall₂_map_right_iff, List.forall₂_same]
    exact fun i hi => hh c hc i (List.mem_range.1 hi)
  obtain ⟨g, hg, hitem⟩ := exists_getElem? hitems hf
  rw [componentHessian, hg]
  exact hitem

theorem stackedUnscaled_hessian_eq_ok (hx : Tensor.ofDatum x = .ok (.vector xs))
    (hh : ∀ c ∈ p.constraints, ∀ i < c.size,
      c.function.hessian x (.whole i) = .ok (Constraint.fractions xs.length (h c i)))
    (hws : ws.length = p.componentCount) :
    p.stackedUnscaled.hessian x (.vector ws) = .ok (.generate xs.length xs.length fun a b =>
      Scalar.dot ws ((p.componentHessians h).map fun h => finite (h a b))) := by
  have hscales : p.stackedUnscaled.scales.length = totalSize p.constraints := List.length_replicate
  have hasked : ∀ t ∈ p.stackedUnscaled.asked ws, Constraint.hessianOf x t.component =
      .ok (Constraint.fractions xs.length (p.componentHessian h t.number)) :=
    fun t ht => hessianOf_component hh
      (StackedConstraints.mem_summands.1 (List.mem_of_mem_filter ht)).1
  have hfactors : List.zipWith (· * ·) ws p.stackedUnscaled.scales = ws := by
    change List.zipWith (· * ·) ws (List.replicate p.componentCount 1.0) = ws
    rw [← hws, List.zipWith_comm]
    exact zipWith_replicate_eq_self Exact.mul_one ws
  rw [StackedConstraints.hessian_eq_ok hx hscales hws hasked,
    StackedConstraints.plainSum_summands hscales hws, hfactors]
  simp only [← map_componentHessian]
  rfl

end Problem

namespace Solver

section Jacobian

variable {α : Type} [Scalar α] {s : Solver α} {xs : List α} {d : Constraint α → Nat → List α}

def stackedGradients (p : Problem α) (d : Constraint α → Nat → List α) : Matrix α :=
  ⟨p.inputSize, p.constraints.flatMap (Constraint.gradients d)⟩

theorem height_stackedGradients (p : Problem α) (d : Constraint α → Nat → List α) :
    (stackedGradients p d).height = p.componentCount :=
  Problem.numbered_gradients.length_eq

/-- The Jacobian is handed over as the entries of the stacked gradients at all positions. -/
theorem snd_serve_jacobian [LawfulScalar α] (hp : s.problem.WellFormed)
    (hd : ∀ c ∈ s.problem.constraints, ∀ i < c.size,
      c.function.gradient (.vector xs) (.whole i) = .ok (d c i)) (exact : Bool) :
    ((s.interiorModel exact).serve (.jacobian (.vector xs))).2 =
      .ok (.vector ((stackedGradients s.problem d).entriesAt
        (densePositions s.problem.componentCount s.problem.inputSize))) := by
  have hentries : s.problem.jacobianEntries (.vector xs) =
      .ok (stackedGradients s.problem d).rows.flatten :=
    bind_eq_ok_iff.2
      ⟨_, Problem.stackedUnscaled_jacobian_eq_ok (Tensor.ofDatum_vector xs) hd, rfl⟩
  rw [← height_stackedGradients s.problem d,
    Matrix.entriesAt_densePositions (Problem.length_of_mem_gradients hp hd)]
  exact bind_eq_ok_iff.2 ⟨_, hentries, rfl⟩

theorem written?_jacobian [LawfulScalar α] (hp : s.problem.WellFormed)
    (hd : ∀ c ∈ s.problem.constraints, ∀ i < c.size,
      c.function.gradient (.vector xs) (.whole i) = .ok (d c i)) (exact : Bool) :
    let positions := densePositions s.problem.componentCount s.problem.inputSize
    ∃ entries, ((s.interiorModel exact).serve (.jacobian (.vector xs))).2 = .ok (.vector entries) ∧
      entries.length = positions.length ∧
      ∀ k j, Matrix.written? positions entries k j =
        Matrix.entry? (stackedGradients s.problem d) k j := by
  intro positions
  have hentry : ∀ k j, (k, j) ∈ positions ↔
      ∃ v, Matrix.entry? (stackedGradients s.problem d) k j = some v := by
    intro k j
    rw [(enumerates_densePositions _ _).mem_iff, ← height_stackedGradients s.problem d]
    exact (Matrix.exists_entry?_iff (Problem.length_of_mem_gradients hp hd)).symm
  exact ⟨_, snd_serve_jacobian hp hd exact,
    Matrix.length_entriesAt fun p hmem => (hentry p.1 p.2).1 hmem,
    Matrix.written?_eq_entry? hentry⟩

end Jacobian

section Hessian

open Exact

variable {s : Solver Exact} {xs ws : List Exact} {σ : Exact} {objective : Nat → Nat → Rat}
  {h : Constraint Exact → Nat → Nat → Nat → Rat}

/-- An entry of the Hessian of the Lagrangian: a factor times that of the objective, plus those of
all components times their multipliers. -/
def lagrangianEntry (p : Problem Exact) (objective : Nat → Nat → Rat)
    (h : Constraint Exact → Nat → Nat → Nat → Rat) (ws : List Exact) (σ : Exact) (i j : Nat) :
    Exact :=
  σ * finite (objective i j) +
    Scalar.dot ws ((p.componentHessians h).map fun h => finite (h i j))

/-- The Hessian of the Lagrangian is handed over as its entries on and below the diagonal. -/
theorem snd_serve_lagrangian (hxs : xs.length = s.problem.inputSize)
    (hws : ws.length = s.problem.componentCount)
    (hobjective : s.problem.objective.hessian (.vector xs) (.whole 0) =
      .ok (Constraint.fractions s.problem.inputSize objective))
    (hh : ∀ c ∈ s.problem.constraints, ∀ i < c.size, c.function.hessian (.vector xs) (.whole i) =
      .ok (Constraint.fractions s.problem.inputSize (h c i))) :
    ((s.interiorModel true).serve (.lagrangian (.vector xs) (.vector ws) σ)).2 =
      .ok (.vector ((Matrix.generate s.problem.inputSize s.problem.inputSize
        (lagrangianEntry s.problem objective h ws σ)).entriesAt
          (lowerPositions s.problem.inputSize))) := by
  have hcomponents : s.problem.stackedUnscaled.hessian (.vector xs) (.vector ws) = _ :=
    Problem.stackedUnscaled_hessian_eq_ok (Tensor.ofDatum_vector xs) (by rw [hxs]; exact hh) hws
  rw [hxs] at hcomponents
  have hentries : s.problem.lagrangianEntries (.vector xs) (.vector ws) σ =
      .ok ((Matrix.generate s.problem.inputSize s.problem.inputSize
        (lagrangianEntry s.problem objective h ws σ)).entriesAt
          (lowerPositions s.problem.inputSize)) := by
    refine bind_eq_ok_iff.2 ⟨_, hobjective, ?_⟩
    refine bind_eq_ok_iff.2 ⟨_, hcomponents, ?_⟩
    rw [Constraint.fractions, Matrix.scale_generate, Matrix.add_generate]
    rfl
  exact bind_eq_ok_iff.2 ⟨_, rfl, bind_eq_ok_iff.2 ⟨_, hentries, rfl⟩⟩

theorem lagrangianEntry_comm {p : Problem Exact} {i j : Nat}
    (hobjective : objective i j = objective j i)
    (hh : ∀ c ∈ p.constraints, ∀ k < c.size, h c k i j = h c k j i) :
    lagrangianEntry p objective h ws σ i j = lagrangianEntry p objective h ws σ j i := by
  have hcomponents : ((p.componentHessians h).map fun h => finite (h i j)) =
      (p.componentHessians h).map fun h => finite (h j i) := by
    apply List.map_congr_left
    intro g hg
    obtain ⟨c, hc, hg⟩ := List.mem_flatMap.1 hg
    obtain ⟨k, hk, rfl⟩ := List.mem_map.1 hg
    exact congrArg finite (hh c hc k (List.mem_range.1 hk))
  rw [lagrangianEntry, lagrangianEntry, hobjective, hcomponents]

/-- What is handed over for the Hessian, mirrored across the diagonal, gives back the Hessian of
the Lagrangian where all Hessians are symmetric. -/
theorem written?_lagrangian (hxs : xs.length = s.problem.inputSize)
    (hws : ws.length = s.problem.componentCount)
    (hobjective : s.problem.objective.hessian (.vector xs) (.whole 0) =
      .ok (Constraint.fractions s.problem.inputSize objective))
    (hh : ∀ c ∈ s.problem.constraints, ∀ i < c.size, c.function.hessian (.vector xs) (.whole i) =
      .ok (Constraint.fractions s.problem.inputSize (h c i)))
    (hsymm : ∀ i < s.problem.inputSize, ∀ j < s.problem.inputSize,
      objective i j = objective j i ∧
        ∀ c ∈ s.problem.constraints, ∀ k < c.size, h c k i j = h c k j i) :
    let positions := lowerPositions s.problem.inputSize
    ∃ entries,
      ((s.interiorModel true).serve (.lagrangian (.vector xs) (.vector ws) σ)).2 =
        .ok (.vector entries) ∧
      entries.length = positions.length ∧
      ∀ i < s.problem.inputSize, ∀ j < s.problem.inputSize,
        Matrix.written? positions entries (max i j) (min i j) =
          some (lagrangianEntry s.problem objective h ws σ i j) := by
  intro positions
  have hinside := (enumerates_lowerPositions s.problem.inputSize).mem_iff
  have hentry : ∀ p ∈ positions,
      ∃ v, Matrix.entry? (.generate s.problem.inputSize s.problem.inputSize
        (lagrangianEntry s.problem objective h ws σ)) p.1 p.2 = some v := by
    intro p hmem
    obtain ⟨hj, hi⟩ := (hinside p.1 p.2).1 hmem
    exact ⟨_, (Matrix.entry?_generate p.1 p.2).trans (if_pos ⟨hi, hj.trans_lt hi⟩)⟩
  refine ⟨_, snd_serve_lagrangian hxs hws hobjective hh, Matrix.length_entriesAt hentry, ?_⟩
  intro i hi j hj
  have hmem : (max i j, min i j) ∈ positions :=
    (hinside _ _).2 ⟨min_le_max, max_lt hi hj⟩
  rw [Matrix.written?_entriesAt hentry, if_pos hmem, Matrix.entry?_generate,
    if_pos ⟨max_lt hi hj, min_lt_of_left_lt hi⟩]
  -- Below the diagonal the entry is found where it is, above it at the mirrored position.
  rcases le_total j i with hle | hle
  · rw [max_eq_left hle, min_eq_right hle]
  · rw [max_eq_right hle, min_eq_left hle]
    exact congrArg some (lagrangianEntry_comm (hsymm j hj i hi).1 (hsymm j hj i hi).2)

end Hessian

/-- The positions of the Jacobian are all those of a matrix with a row for each component and a
column for each variable, each once, and the entries that are handed over for them are the stacked
gradients. -/
structure SendsJacobian {α : Type} [Scalar α] (s : Solver α) (exact : Bool)
    (positions : List (Nat × Nat)) : Prop where
  serve_positions :
    ((s.interiorModel exact).serve .jacobianPositions).2 = .ok (splitPositions positions)
  enumerates :
    Enumerates positions fun k j => k < s.problem.componentCount ∧ j < s.problem.inputSize
  written : ∀ (xs : List α) (d : Constraint α → Nat → List α), xs.length = s.problem.inputSize →
    (∀ c ∈ s.problem.constraints, ∀ i < c.size,
      c.function.gradient (.vector xs) (.whole i) = .ok (d c i)) →
    ∃ a entries,
      Constraint.stackedJacobian s.problem.constraints (.vector xs) = .ok a ∧
      s.problem.Numbered (Constraint.gradients d) a.rows ∧
      ((s.interiorModel exact).serve (.jacobian (.vector xs))).2 = .ok (.vector entries) ∧
      entries.length = positions.length ∧
      ∀ k j, Matrix.written? positions entries k j = a.entry? k j

/-- The positions of the Hessian are those on and below the diagonal, each once, and where the
functions have symmetric Hessians of fractions the entries, mirrored across the diagonal, are the
Hessian of the Lagrangian without any scale. -/
structure SendsHessian (s : Solver Exact) (positions : List (Nat × Nat)) : Prop where
  serve_positions :
    ((s.interiorModel true).serve .hessianPositions).2 = .ok (splitPositions positions)
  enumerates : Enumerates positions fun i j => j ≤ i ∧ i < s.problem.inputSize
  written : ∀ (xs ws : List Exact) (σ : Exact) (objective : Nat → Nat → Rat)
    (h : Constraint Exact → Nat → Nat → Nat → Rat), xs.length = s.problem.inputSize →
    ws.length = s.problem.componentCount →
    s.problem.objective.hessian (.vector xs) (.whole 0) =
      .ok (Constraint.fractions s.problem.inputSize objective) →
    (∀ c ∈ s.problem.constraints, ∀ k < c.size, c.function.hessian (.vector xs) (.whole k) =
      .ok (Constraint.fractions s.problem.inputSize (h c k))) →
    (∀ i < s.problem.inputSize, ∀ j < s.problem.inputSize,
      objective i j = objective j i ∧
        ∀ c ∈ s.problem.constraints, ∀ k < c.size, h c k i j = h c k j i) →
    ∃ entries,
      s.problem.Numbered (Constraint.outputs h) (s.problem.componentHessians h) ∧
      ((s.interiorModel true).serve (.lagrangian (.vector xs) (.vector ws) σ)).2 =
        .ok (.vector entries) ∧
      entries.length = positions.length ∧
      ∀ i < s.problem.inputSize, ∀ j < s.problem.inputSize,
        Matrix.written? positions entries (max i j) (min i j) =
          some (lagrangianEntry s.problem objective h ws σ i j)

/-- An interior-point library is handed derivatives without loss. -/
theorem sendsJacobian_and_sendsHessian :
    (∀ {α : Type} [Scalar α] [LawfulScalar α] (s : Solver α) (exact : Bool),
      s.problem.Reachable → ∃ positions, s.SendsJacobian exact positions) ∧
    ∀ s : Solver Exact, ∃ positions, s.SendsHessian positions := by
  constructor
  · intro α _ _ s exact hp
    refine ⟨_, rfl, enumerates_densePositions _ _, fun xs d hxs hd => ?_⟩
    obtain ⟨entries, hserve, hlength, hwritten⟩ := written?_jacobian hp.wellFormed hd exact
    refine ⟨stackedGradients s.problem d, entries, ?_, Problem.numbered_gradients, hserve,
      hlength, hwritten⟩
    rw [Constraint.stackedJacobian_eq_ok (Tensor.ofDatum_vector xs) hd, hxs]
    rfl
  · intro s
    refine ⟨_, rfl, enumerates_lowerPositions _, ?_⟩
    intro xs ws σ objective h hxs hws hobjective hh hsymm
    obtain ⟨entries, hserve, hlength, hwritten⟩ :=
      written?_lagrangian hxs hws hobjective hh hsymm
    exact ⟨entries, Problem.numbered_componentHessians, hserve, hlength, hwritten⟩

end Solver

open Exact

/-- Minimise the product of two variables, which is to be at least one. -/
def coupled : Problem Exact where
  objective := product
  argumentNames := ["u", "v"]
  argumentBounds := [.unbounded, .unbounded]
  startingPoint := none
  constraints := [⟨product, [⟨finite 1, .infinity, rfl⟩], [finite 2]⟩]
  frozen := false

theorem coupled_reachable : coupled.Reachable := by
  have hcreate : Problem.create product (some (.texts ["u", "v"])) =
      .ok { coupled with constraints := [] } := rfl
  refine .step (.create hcreate)
    (.constraint product (.single ⟨finite 1, .infinity, rfl⟩) (some (.vector [finite 2]))) ?_
  with_unfolding_all rfl

def coupledSolver : Solver Exact where
  backend := Method.ipoptExact.backend
  problem := coupled.freeze
  parameters := Solver.mergeOptions Method.ipoptExact.backend [] []

namespace Solver

/-- At two and three, with a multiplier of three and a factor of two: the gradient of the only
component, and the mixed derivative of the Lagrangian, into which the scale of two does not come. -/
theorem sendsJacobian_and_sendsHessian_coupled :
    coupledSolver.problem.Reachable ∧
    (∃ positions entries,
      ((coupledSolver.interiorModel true).serve .jacobianPositions).2 =
        .ok (splitPositions positions) ∧
      ((coupledSolver.interiorModel true).serve (.jacobian (.vector [finite 2, finite 3]))).2 =
        .ok (.vector entries) ∧
      Matrix.written? positions entries 0 0 = some (finite 3) ∧
      Matrix.written? positions entries 0 1 = some (finite 2)) ∧
    ∃ positions entries,
      ((coupledSolver.interiorModel true).serve .hessianPositions).2 =
        .ok (splitPositions positions) ∧
      ((coupledSolver.interiorModel true).serve (.lagrangian (.vector [finite 2, finite 3])
        (.vector [finite 3]) (finite 2))).2 = .ok (.vector entries) ∧
      Matrix.written? positions entries 1 0 = some (finite 5) := by
  have hreachable : coupledSolver.problem.Reachable := .step coupled_reachable .freeze rfl
  have hgradient : product.gradient (.vector [finite 2, finite 3]) (.whole 0) =
      .ok [finite 3, finite 2] := by
    with_unfolding_all rfl
  have hhessian : product.hessian (.vector [finite 2, finite 3]) (.whole 0) =
      .ok (Constraint.fractions 2 fun i j => if i = j then 0 else 1) := by
    with_unfolding_all rfl
  have hstacked : Constraint.stackedJacobian coupledSolver.problem.constraints
      (.vector [finite 2, finite 3]) = .ok ⟨2, [[finite 3, finite 2]]⟩ := by
    with_unfolding_all rfl
  have hfirst : ∀ i < 1, i = 0 := by decide
  refine ⟨hreachable, ?_, ?_⟩
  · obtain ⟨positions, hsends⟩ := sendsJacobian_and_sendsHessian.1 coupledSolver true hreachable
    obtain ⟨a, entries, ha, -, hserve, -, hwritten⟩ :=
      hsends.written [finite 2, finite 3] (fun _ _ => [finite 3, finite 2]) rfl <| by
        intro c hc i hi
        obtain rfl := List.mem_singleton.1 hc
        rw [hfirst i hi]
        exact hgradient
    cases hstacked.symm.trans ha
    exact ⟨positions, entries, hsends.serve_positions, hserve, hwritten 0 0, hwritten 0 1⟩
  · obtain ⟨positions, hsends⟩ := sendsJacobian_and_sendsHessian.2 coupledSolver
    obtain ⟨entries, -, hserve, -, hwritten⟩ :=
      hsends.written [finite 2, finite 3] [finite 3] (finite 2) (fun i j => if i = j then 0 else 1)
        (fun _ _ i j => if i = j then 0 else 1) rfl rfl hhessian (by
          intro c hc k hk
          obtain rfl := List.mem_singleton.1 hc
          rw [hfirst k hk]
          exact hhessian) (by
          intro i _ j _
          simp only [eq_comm, implies_true, and_self])
    refine ⟨positions, entries, hsends.serve_positions, hserve, ?_⟩
    exact (hwritten 0 (by decide) 1 (by decide)).trans (by with_unfolding_all rfl)

end Solver

end NonlinearProgram
