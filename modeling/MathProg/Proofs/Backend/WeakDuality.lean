import MathProg.Backend.InMemory
import MathProg.Proofs.ConstraintSet.Membership
import MathProg.Proofs.Function.Value

/-!
# Weak duality

The dual objective that the in-memory backend computes is a bound: if the dual values have the signs
that the sets of their constraints ask for, and the constraints weighted with them add up to the
objective, no point that satisfies the constraints has a smaller objective than the dual one, or a
larger one for a maximum.
-/

namespace MathProg

open Fallible

variable {N K : Type}

/-! ## Functions at a point -/

/-- The values of the linear parts of a function without its constants; `none` if it is not affine. -/
def Function.linearAt? [CommRing K] (x : Int → K) : Function K → Option (List K)
  | var v => some [x v]
  | affine f => some [Terms.value x f.terms]
  | vars vs => some (vs.map x)
  | rows fs => some (fs.map (fun f => Terms.value x f.terms))
  | _ => none

namespace Function

/-- A variable or an affine function. -/
def isScalarAffine : Function K → Bool
  | var _ => true
  | affine _ => true
  | _ => false

/-- A vector of variables or of affine functions. -/
def isVectorAffine : Function K → Bool
  | vars _ => true
  | rows _ => true
  | _ => false

variable [CommRing K] {f : Function K}

/-- A scalar function is its constant and its linear part. -/
theorem evaluate_scalarAffine (h : f.isScalarAffine) : ∃ c, f.constants? = some [c] ∧
    f.constantPart = c ∧ ∀ x, ∃ y, f.linearAt? x = some [y] ∧
      f.evaluate (.point x) = some (.scalar (c + y)) := by
  cases f with
  | var v =>
    refine ⟨0, rfl, rfl, fun x => ⟨x v, rfl, ?_⟩⟩
    rw [zero_add]
    rfl
  | affine f =>
    refine ⟨f.constant, rfl, rfl, fun x => ⟨_, rfl, ?_⟩⟩
    change (f.evaluate (fun v => some (x v))).bind (fun c => some (Shaped.scalar c)) = _
    rw [Affine.evaluate_eq]
    rfl
  | _ => cases h

/-- A vector is its constants and its linear parts. -/
theorem evaluate_vectorAffine (h : f.isVectorAffine) : ∃ cs, f.constants? = some cs ∧
    ∀ x, ∃ ys, f.linearAt? x = some ys ∧ cs.length = ys.length ∧
      f.evaluate (.point x) = some (.vector (List.zipWith (· + ·) cs ys)) := by
  cases f with
  | vars vs =>
    refine ⟨_, rfl, fun x => ⟨_, rfl, by simp, ?_⟩⟩
    have values := mapM_eq_some_map (fun v => (rfl : some (x v) = some (x v))) vs
    change (vs.mapM (fun v => some (x v))).bind (fun xs => some (Shaped.vector xs)) = _
    rw [values, List.zipWith_map, List.zipWith_self]
    simp
  | rows fs =>
    refine ⟨_, rfl, fun x => ⟨_, rfl, by simp, ?_⟩⟩
    have values := mapM_eq_some_map (Affine.evaluate_eq x) fs
    change (fs.mapM (Affine.evaluate (fun v => some (x v)))).bind
      (fun xs => some (Shaped.vector xs)) = _
    rw [values, List.zipWith_map, List.zipWith_self]
    rfl
  | _ => cases h

end Function

/-! ## Products -/

namespace InMemory

section Product

variable [CommRing K]

theorem dot_add (cs ys ds : List K) (lengths : cs.length = ys.length) :
    dot (List.zipWith (· + ·) cs ys) ds = dot cs ds + dot ys ds := by
  have fold (s t : K) : ((List.zipWith (· + ·) cs ys).zip ds).foldl
        (fun sum p => sum + p.1 * p.2) (s + t)
      = (cs.zip ds).foldl (fun sum p => sum + p.1 * p.2) s
        + (ys.zip ds).foldl (fun sum p => sum + p.1 * p.2) t := by
    induction cs generalizing ys ds s t with
    | nil =>
      rw [List.length_nil] at lengths
      rw [List.eq_nil_of_length_eq_zero lengths.symm]
      rfl
    | cons c cs ih =>
      cases ys with
      | nil => simp at lengths
      | cons y ys =>
        cases ds with
        | nil => rfl
        | cons d ds =>
          have rest := ih ys ds (by simpa using lengths) (s + c * d) (t + y * d)
          have start : s + t + (c + y) * d = s + c * d + (t + y * d) := by ring
          simp only [List.zipWith_cons_cons, List.zip_cons_cons, List.foldl_cons, start, rest]
  have whole := fold 0 0
  rw [zero_add] at whole
  exact whole

/-- What an entry of a triangle adds to the inner product. -/
private def addEntry (xs ds : List K) (sum : K) (place : (Nat × Nat) × Nat) :
    Except BackendError K :=
  match xs[place.2]?, ds[place.2]? with
  | some x, some d => .ok (sum + (if place.1.1 = place.1.2 then 1 else 1 + 1) * x * d)
  | _, _ => .error .tooShort

private theorem foldlM_addEntry {cs ys ds : List K} (lengths : cs.length = ys.length)
    (places : List ((Nat × Nat) × Nat)) (s : K) {t p : K}
    (h : places.foldlM (addEntry ys ds) t = .ok p) :
    ∃ q, places.foldlM (addEntry cs ds) s = .ok q ∧
      places.foldlM (addEntry (List.zipWith (· + ·) cs ys) ds) (s + t) = .ok (q + p) := by
  induction places generalizing s t with
  | nil =>
    cases h
    exact ⟨s, rfl, rfl⟩
  | cons place places ih =>
    rw [List.foldlM_cons] at h
    obtain ⟨t', added, h⟩ := bind_eq_ok.1 h
    unfold addEntry at added
    split at added
    next y d hy hd =>
      cases added
      obtain ⟨below, -⟩ := List.getElem?_eq_some_iff.1 hy
      obtain ⟨c, hc⟩ : ∃ c, cs[place.2]? = some c :=
        ⟨_, List.getElem?_eq_getElem (lengths ▸ below)⟩
      let w : K := if place.1.1 = place.1.2 then 1 else 1 + 1
      obtain ⟨q, rest, both⟩ := ih (s + w * c * d) h
      have first : addEntry cs ds s place = .ok (s + w * c * d) := by
        simp only [addEntry, hc, hd, w]
      have sum : addEntry (List.zipWith (· + ·) cs ys) ds (s + t) place
          = .ok (s + w * c * d + (t + w * y * d)) := by
        simp only [addEntry, List.getElem?_zipWith, hc, hy, hd, w, Except.ok.injEq]
        ring
      exact ⟨q, by rw [List.foldlM_cons, first]; exact rest,
        by rw [List.foldlM_cons, sum]; exact both⟩
    next => cases added

/-- The inner product is additive. Whether there is one depends on the lengths only. -/
theorem setDot_add [Numeral N K] {s : ConstraintSet N} {cs ys ds : List K} {p : K}
    (lengths : cs.length = ys.length) (h : setDot s ys ds = .ok p) :
    ∃ q, setDot s cs ds = .ok q ∧ setDot s (List.zipWith (· + ·) cs ys) ds = .ok (q + p) := by
  unfold setDot at h ⊢
  split at h
  next side =>
    split at h
    next n found =>
      obtain ⟨q, one, both⟩ := foldlM_addEntry lengths _ 0 h
      rw [add_zero] at both
      exact ⟨q, one, both⟩
    next => cases h
  next =>
    split at h
    next same =>
      cases h
      refine ⟨dot cs ds, if_pos (lengths.trans same), ?_⟩
      rw [dot_add cs ys ds lengths, if_pos (by simpa [lengths] using same)]
    next => cases h

end Product

end InMemory

/-! ## What duality asks for -/

section Duality

variable [CommRing K] [LinearOrder K] [Numeral N K]

/-- Whether a dual value of a set has the right sign: a weight that no member of a cone contradicts.
A bound on one side has one sign, and an equation or an interval any. -/
def ConstraintSet.Supports (s : ConstraintSet N) : DualValue N K → Prop
  | .scalar d =>
    match s with
    | lessThan _ => Numeral.value d ≤ 0
    | greaterThan _ => 0 ≤ Numeral.value d
    | _ => True
  | .vector ds => ∀ xs p, s.HasVector xs → InMemory.setDot s xs ds = .ok p → 0 ≤ p

namespace Entry

/-- An affine function between bounds, or a vector of affine functions in a cone. -/
def isConic (e : Entry N K) : Bool :=
  match e.set.kind with
  | .scalar => e.function.isScalarAffine && e.set.isShiftable
  | _ => e.function.isVectorAffine

/-- Whether a point satisfies a constraint. -/
def SatisfiedAt (x : Int → K) (e : Entry N K) : Prop :=
  ∃ y, e.function.evaluate (.point x) = some y ∧ e.set.Contains some y

/-- A dual value applied to the linear part of a constraint. -/
def pairing (e : Entry N K) (dual : DualValue N K) (x : Int → K) : Except BackendError K :=
  match e.set.kind, e.function.linearAt? x, dual with
  | .scalar, some [y], .scalar d => do return (← InMemory.coefficient d) * y
  | .scalar, _, _ => .error .wrongShape
  | _, some ys, .vector ds => InMemory.setDot e.set ys ds
  | _, _, _ => .error .wrongShape

end Entry

namespace InMemory

/-- The dual value of a constraint applied to its linear part. -/
def pairing (b : InMemory N K) (result : Int) (x : Int → K)
    (c : ConstraintHandle × Entry N K) : Except BackendError K :=
  match b.constraintDual c.1 result with
  | some dual => c.2.pairing dual x
  | none => .error .unknown

/-- The sum of the dual values applied to the linear parts of their constraints. -/
def pairings (b : InMemory N K) (result : Int) (x : Int → K) : Except BackendError K := do
  return (← b.problem.constraints.mapM (b.pairing result x)).sum

/-- Whether a point satisfies all constraints. -/
def SatisfiedAt (b : InMemory N K) (x : Int → K) : Prop :=
  ∀ c ∈ b.problem.constraints, c.2.SatisfiedAt x

/-- An affine objective, and affine constraints between bounds or in cones. -/
structure IsConic (b : InMemory N K) : Prop where
  objective : b.problem.objective.isScalarAffine
  constraints : ∀ c ∈ b.problem.constraints, c.2.isConic

/-- Whether the dual values of a result are feasible: each has the sign that its set asks for, and
the constraints weighted with them add up to the objective, whose sign changes for a maximum. -/
structure IsDualFeasible (b : InMemory N K) (result : Int) : Prop where
  supports : ∀ c ∈ b.problem.constraints, ∀ dual ∈ b.constraintDual c.1 result,
    c.2.set.Supports dual
  balanced : ∀ x, ∃ y, b.problem.objective.linearAt? x = some [y] ∧
    b.pairings result x = .ok (if b.problem.sense = .maximize then -y else y)

/-! ## One constraint -/

variable [ExactNumeral N K] [IsStrictOrderedRing K]

omit [IsStrictOrderedRing K] [LinearOrder K] in
theorem coefficient_eq (n : N) : coefficient n = .ok (Numeral.value n : K) := by
  rw [coefficient, Numeral.toCoefficient_eq]
  rfl

omit [ExactNumeral N K] in
/-- The bound that a dual value belongs to is the worst number of its set. -/
theorem boundOf_le {s : ConstraintSet N} (shiftable : s.isShiftable) {d : N}
    (supports : s.Supports (.scalar d)) {z : K} (h : s.HasNumber z) :
    (Numeral.value d : K) * Numeral.value (boundOf s (Numeral.value d : K))
      ≤ Numeral.value d * z := by
  cases s with
  | lessThan upper => exact mul_le_mul_of_nonpos_left h supports
  | greaterThan lower => exact mul_le_mul_of_nonneg_left h supports
  | equalTo value => exact le_of_eq (congrArg _ (Eq.symm h))
  | interval lower upper =>
    obtain ⟨above, below⟩ := h
    simp only [boundOf]
    split
    next positive => exact mul_le_mul_of_nonneg_left above positive.le
    next negative => exact mul_le_mul_of_nonpos_left below (not_lt.1 negative)
  | _ => cases shiftable

/-- What a scalar constraint adds to the dual objective is at most its dual value times its linear
part. -/
theorem dualTerm_scalar {e : Entry N K} (scalar : e.set.kind = .scalar) (conic : e.isConic)
    {d : N} (supports : e.set.Supports (.scalar d)) :
    ∃ κ, (∀ total, dualTerm e (.scalar d) total = .ok (total + κ)) ∧
      ∀ x p, e.pairing (.scalar d) x = .ok p → e.SatisfiedAt x → κ ≤ p := by
  simp only [Entry.isConic, scalar, Bool.and_eq_true] at conic
  obtain ⟨c, constants, -, parts⟩ := Function.evaluate_scalarAffine conic.1
  let bound := boundOf e.set (Numeral.value d : K)
  refine ⟨Numeral.value d * (Numeral.value bound - c), fun total => ?_, fun x p paired holds => ?_⟩
  · obtain ⟨room, subtracted, value⟩ := ExactNumeral.toCoefficient_sub bound
      (Numeral.ofCoefficient c) _ _ (Numeral.toCoefficient_eq (K := K) bound)
      (Numeral.toCoefficient_eq (K := K) _)
    have difference := Numeral.value_of_toCoefficient value
    rw [Numeral.value_ofCoefficient] at difference
    simp only [dualTerm, scalar, constants, coefficient_eq]
    refine bind_eq_ok.2 ⟨_, rfl, bind_eq_ok.2 ⟨room, mapError_eq_ok.2 subtracted, ?_⟩⟩
    rw [← difference]
    rfl
  · obtain ⟨y, linear, evaluated⟩ := parts x
    simp only [Entry.pairing, scalar, linear, coefficient_eq] at paired
    cases paired
    obtain ⟨_, value, member⟩ := holds
    cases evaluated.symm.trans value
    obtain ⟨z, same, number⟩ := member
    cases same
    have bounded := boundOf_le conic.2 supports number
    change _ * (Numeral.value (boundOf e.set (Numeral.value d)) - c) ≤ _
    rw [mul_sub]
    linarith [mul_add (Numeral.value d) c y]

omit [ExactNumeral N K] in
/-- What a vector adds to the dual objective is at most its dual value applied to its linear
part. -/
theorem dualTerm_vector {e : Entry N K} (vector : e.set.kind ≠ .scalar) (conic : e.isConic)
    {ds : List K} (supports : e.set.Supports (.vector ds)) {x₀ : Int → K} {p₀ : K}
    (paired₀ : e.pairing (.vector ds) x₀ = .ok p₀) :
    ∃ κ, (∀ total, dualTerm e (.vector ds) total = .ok (total + κ)) ∧
      ∀ x p, e.pairing (.vector ds) x = .ok p → e.SatisfiedAt x → κ ≤ p := by
  have affine : e.function.isVectorAffine := by
    unfold Entry.isConic at conic
    split at conic
    next scalar => exact (vector scalar).elim
    next => exact conic
  obtain ⟨cs, constants, parts⟩ := Function.evaluate_vectorAffine affine
  have product {x : Int → K} {ys : List K} {p : K} (linear : e.function.linearAt? x = some ys)
      (paired : e.pairing (.vector ds) x = .ok p) : setDot e.set ys ds = .ok p := by
    cases kind : e.set.kind with
    | scalar => exact (vector kind).elim
    | _ => simpa only [Entry.pairing, kind, linear] using paired
  obtain ⟨ys₀, linear₀, lengths₀, -⟩ := parts x₀
  -- the constants have the length of the linear parts, so they have an inner product as well
  obtain ⟨q, constant, -⟩ := setDot_add lengths₀ (product linear₀ paired₀)
  refine ⟨-q, fun total => ?_, fun x p paired holds => ?_⟩
  · cases kind : e.set.kind with
    | scalar => exact (vector kind).elim
    | _ =>
      simp only [dualTerm, kind, constants, constant, sub_eq_add_neg]
      rfl
  · obtain ⟨ys, linear, lengths, evaluated⟩ := parts x
    obtain ⟨q', constant', whole⟩ := setDot_add lengths (product linear paired)
    cases constant.symm.trans constant'
    obtain ⟨_, value, member⟩ := holds
    cases evaluated.symm.trans value
    obtain ⟨zs, same, inside⟩ := member
    rw [mapM_eq_some_map (f := some) (g := id) (fun _ => rfl), List.map_id] at same
    cases same
    exact neg_le_iff_add_nonneg'.2 (supports _ _ inside whole)

/-! ## All constraints -/

/-- The sum with what a constraint adds to it. -/
def addDual (b : InMemory N K) (result : Int) (total : Option K)
    (c : ConstraintHandle × Entry N K) : Except BackendError (Option K) :=
  match total with
  | none => .ok none
  | some total =>
    match c.2.set with
    | .integer => .ok (some total)
    | .zeroOne => .ok (some total)
    | _ =>
      match b.constraintDual c.1 result with
      | none => .ok none
      | some dual => do return some (← dualTerm c.2 dual total)

omit [ExactNumeral N K] [IsStrictOrderedRing K] in
theorem dualSum_eq (b : InMemory N K) (result : Int) :
    b.dualSum result = b.problem.constraints.foldlM (b.addDual result) (some 0) := rfl

variable {b : InMemory N K} {result : Int}

/-- A constraint adds at most its dual value applied to its linear part. -/
theorem addDual_le {c : ConstraintHandle × Entry N K} (conic : c.2.isConic)
    (supports : ∀ dual ∈ b.constraintDual c.1 result, c.2.set.Supports dual)
    {x₀ : Int → K} {p₀ : K} (paired₀ : b.pairing result x₀ c = .ok p₀) :
    ∃ κ, (∀ total, b.addDual result (some total) c = .ok (some (total + κ))) ∧
      ∀ x p, b.pairing result x c = .ok p → c.2.SatisfiedAt x → κ ≤ p := by
  cases found : b.constraintDual c.1 result with
  | none => simp [pairing, found] at paired₀
  | some dual =>
    simp only [pairing, found] at paired₀ ⊢
    have term : ∃ κ, (∀ total, dualTerm c.2 dual total = .ok (total + κ)) ∧
        ∀ x p, c.2.pairing dual x = .ok p → c.2.SatisfiedAt x → κ ≤ p := by
      by_cases scalar : c.2.set.kind = .scalar
      · cases dual with
        | scalar d => exact dualTerm_scalar scalar conic (supports _ found)
        | vector ds => simp [Entry.pairing, scalar] at paired₀
      · cases dual with
        | scalar d =>
          unfold Entry.pairing at paired₀
          split at paired₀
          next kind _ _ => exact (scalar kind).elim
          all_goals simp_all
        | vector ds => exact dualTerm_vector scalar conic (supports _ found) paired₀
    obtain ⟨κ, added, bounded⟩ := term
    refine ⟨κ, fun total => ?_, bounded⟩
    -- constraints of integrality are skipped, but none of them is conic
    have real : c.2.set ≠ .integer ∧ c.2.set ≠ .zeroOne := by
      constructor <;> intro set <;> simp [Entry.isConic, set, ConstraintSet.kind,
        ConstraintSet.isShiftable] at conic
    simp only [addDual, found, added]
    split
    next set => exact (real.1 set).elim
    next set => exact (real.2 set).elim
    next => rfl

/-- Constraints add at most the sum of their dual values applied to their linear parts. -/
theorem foldlM_addDual_le {constraints : List (ConstraintHandle × Entry N K)}
    (conic : ∀ c ∈ constraints, c.2.isConic)
    (supports : ∀ c ∈ constraints, ∀ dual ∈ b.constraintDual c.1 result, c.2.set.Supports dual)
    {x₀ : Int → K} {ps₀ : List K}
    (paired₀ : constraints.mapM (b.pairing result x₀) = .ok ps₀) :
    ∃ κ, (∀ total, constraints.foldlM (b.addDual result) (some total) = .ok (some (total + κ))) ∧
      ∀ x ps, constraints.mapM (b.pairing result x) = .ok ps →
        (∀ c ∈ constraints, c.2.SatisfiedAt x) → κ ≤ ps.sum := by
  -- the sum so far is any number, since each constraint adds its own bound to it
  induction constraints generalizing ps₀ with
  | nil =>
    refine ⟨0, fun total => by rw [add_zero]; rfl, fun x ps paired _ => ?_⟩
    cases paired
    exact le_refl _
  | cons c constraints ih =>
    rw [List.forall_mem_cons] at conic supports
    rw [List.mapM_cons] at paired₀
    obtain ⟨p₀, first₀, paired₀⟩ := bind_eq_ok.1 paired₀
    obtain ⟨qs₀, others₀, -⟩ := bind_eq_ok.1 paired₀
    obtain ⟨κ, added, bounded⟩ := addDual_le conic.1 supports.1 first₀
    obtain ⟨κ', rest, boundedRest⟩ := ih conic.2 supports.2 others₀
    refine ⟨κ + κ', fun total => ?_, fun x ps paired holds => ?_⟩
    · rw [List.foldlM_cons, added, ← add_assoc]
      exact rest _
    · rw [List.forall_mem_cons] at holds
      rw [List.mapM_cons] at paired
      obtain ⟨p, first, paired⟩ := bind_eq_ok.1 paired
      obtain ⟨qs, others, paired⟩ := bind_eq_ok.1 paired
      cases paired
      rw [List.sum_cons]
      exact add_le_add (bounded x p first holds.1) (boundedRest x qs others holds.2)

/-- Weak duality. In exact arithmetic, with an affine objective and affine constraints between
bounds or in cones, feasible dual values give a dual objective, unless it is not to be computed, and
it bounds the objective at every point that satisfies the constraints. -/
theorem dualObjectiveValue_bounds (conic : b.IsConic) (feasible : b.IsDualFeasible result)
    (notInjected : b.solution.dualObjectiveValue.lookup result = none) :
    ∃ answer, b.dualObjectiveValue result = .ok answer ∧
      answer.isSome = b.settings.evaluatesDualObjective ∧
      ∀ bound ∈ answer, ∀ x, b.SatisfiedAt x →
        ∃ value, b.problem.objective.evaluate (.point x) = some (.scalar value) ∧
          (b.problem.sense = .minimize → bound ≤ value) ∧
          (b.problem.sense = .maximize → value ≤ bound) := by
  unfold dualObjectiveValue
  rw [notInjected]
  by_cases computed : b.settings.evaluatesDualObjective
  swap
  · exact ⟨none, by simp [computed], by simpa using computed, by simp⟩
  -- any point will do to see that there is a dual value of the right length for each constraint
  obtain ⟨_, -, paired₀⟩ := feasible.balanced 0
  obtain ⟨ps₀, paired₀, -⟩ := bind_eq_ok.1 paired₀
  obtain ⟨κ, sum, bounded⟩ := foldlM_addDual_le conic.constraints feasible.supports paired₀
  obtain ⟨c, -, constant, parts⟩ := Function.evaluate_scalarAffine conic.objective
  have total : b.dualSum result = .ok (some κ) := by
    rw [dualSum_eq, sum, zero_add]
  refine ⟨some ((if b.problem.sense = .maximize then -κ else κ) + c), ?_, by simp [computed], ?_⟩
  · simp only [computed, total, constant]
    rfl
  rintro bound ⟨⟩ x holds
  obtain ⟨y, linear, evaluated⟩ := parts x
  obtain ⟨y', linear', paired⟩ := feasible.balanced x
  cases linear.symm.trans linear'
  obtain ⟨ps, paired, balance⟩ := bind_eq_ok.1 paired
  have below : κ ≤ if b.problem.sense = .maximize then -y else y := by
    rw [← pure_eq_ok.1 balance]
    exact bounded x ps paired holds
  refine ⟨c + y, evaluated, fun sense => ?_, fun sense => ?_⟩
  · simp only [sense, reduceCtorEq, if_false] at below ⊢
    linarith
  · simp only [sense, if_true] at below ⊢
    linarith

end InMemory

end Duality

/-! ### An interval and a triangle -/

namespace InMemory

/-- Minimize `5 x + 2 y + 7` where `2 x + 1` is between 3 and 9 and the matrix with the rows `x, y`
and `y, 1` is positive semidefinite, with dual values for both constraints. -/
def intervalAndTriangle : InMemory ℚ ℚ where
  settings := .standard
  solveCount := 0
  clearCount := 0
  problem :=
    { variableNames := [none, none]
      constraints :=
        [(⟨1, .affine, .interval⟩, ⟨"bounded", .affine ⟨[(1, 2)], 1⟩, .interval 3 9⟩),
          (⟨2, .rows, .matrix .triangle⟩,
            ⟨"semidefinite", .rows [⟨[(1, 1)], 0⟩, ⟨[(2, 1)], 0⟩, ⟨[], 1⟩],
              .matrix .triangle (some 2)⟩)]
      sense := .minimize
      objective := .affine ⟨[(1, 5), (2, 2)], 7⟩
      nextConstraint := 3 }
  solution :=
    { Solution.empty with
      dual :=
        [((1, ⟨1, .affine, .interval⟩), .scalar 2),
          ((1, ⟨2, .rows, .matrix .triangle⟩), .vector [1, 1, 1])] }

theorem intervalAndTriangle_isConic : intervalAndTriangle.IsConic where
  objective := rfl
  constraints := by simp [intervalAndTriangle, Entry.isConic, ConstraintSet.kind,
    ConstraintSet.isShiftable, Function.isScalarAffine, Function.isVectorAffine]

/-- A matrix of side two is positive semidefinite only if its entries add up to no negative
number. -/
theorem supports_ones :
    (ConstraintSet.matrix .triangle (some 2) : ConstraintSet ℚ).Supports (.vector [1, 1, 1]) := by
  rintro xs p ⟨n, fits, size, -, semidefinite⟩ product
  have two : (2 : ℚ) = n := fits 2 rfl
  obtain rfl : n = 2 := by exact_mod_cast two.symm
  match xs, size with
  | [u, v, w], _ =>
    have total := semidefinite (fun _ => 1)
    have written : p = 0 + 1 * u * 1 + (1 + 1) * v * 1 + 1 * w * 1 := (Except.ok.inj product).symm
    simp [Finset.sum_range_succ, MatrixLayout.place] at total
    linarith

theorem intervalAndTriangle_isDualFeasible : intervalAndTriangle.IsDualFeasible 1 where
  supports := by
    simp only [intervalAndTriangle, List.forall_mem_cons]
    refine ⟨?_, ?_, by simp⟩
    · rintro _ ⟨⟩
      trivial
    · rintro _ ⟨⟩
      exact supports_ones
  balanced x := by
    refine ⟨_, rfl, ?_⟩
    have sum : intervalAndTriangle.pairings 1 x = .ok [2 * (2 * x 1 + 0), 0 + 1 * (1 * x 1 + 0) * 1
      + (1 + 1) * (1 * x 2 + 0) * 1 + 1 * 0 * 1].sum := rfl
    rw [sum, if_neg (by decide)]
    simp only [List.sum_cons, List.sum_nil, Terms.value_cons, Terms.value_nil]
    congr 1
    ring

/-- The point where `x` is 1 and `y` is -1. -/
def corner (v : Int) : ℚ :=
  if v = 1 then 1 else -1

theorem satisfiedAt_corner : intervalAndTriangle.SatisfiedAt corner := by
  simp only [SatisfiedAt, intervalAndTriangle, List.forall_mem_cons]
  refine ⟨⟨_, rfl, _, rfl, ?_⟩, ⟨_, rfl, _, rfl, 2, ?_, rfl, ?_, fun z => ?_⟩, by simp⟩
  · constructor <;> norm_num [Numeral.value, Numeral.toCoefficient, corner]
  · rintro _ ⟨⟩
    norm_num [Numeral.value, Numeral.toCoefficient]
  · decide +kernel
  · norm_num [Finset.sum_range_succ, MatrixLayout.place, corner]
    linarith [sq_nonneg (z 0 - z 1), sub_sq (z 0) (z 1)]

/-- No point has an objective below ten, which the corner has. -/
theorem dualObjectiveValue_bounds_intervalAndTriangle :
    intervalAndTriangle.IsConic ∧ intervalAndTriangle.IsDualFeasible 1 ∧
      intervalAndTriangle.dualObjectiveValue 1 = .ok (some 10) ∧
      (∀ x, intervalAndTriangle.SatisfiedAt x → ∃ value,
        intervalAndTriangle.problem.objective.evaluate (.point x) = some (.scalar value) ∧
          10 ≤ value) ∧
      intervalAndTriangle.SatisfiedAt corner ∧
      intervalAndTriangle.problem.objective.evaluate (.point corner) = some (.scalar 10) := by
  have ten : intervalAndTriangle.dualObjectiveValue 1 = .ok (some 10) := by
    decide +kernel
  obtain ⟨answer, computed, -, bounds⟩ := dualObjectiveValue_bounds intervalAndTriangle_isConic
    intervalAndTriangle_isDualFeasible rfl
  cases ten.symm.trans computed
  refine ⟨intervalAndTriangle_isConic, intervalAndTriangle_isDualFeasible, ten, fun x holds => ?_,
    satisfiedAt_corner, ?_⟩
  · obtain ⟨value, evaluated, least, -⟩ := bounds 10 rfl x holds
    exact ⟨value, evaluated, least rfl⟩
  · change some (Shaped.scalar (7 + (0 + 5 * corner 1 + 2 * corner 2))) = _
    norm_num [corner]

end InMemory

end MathProg
