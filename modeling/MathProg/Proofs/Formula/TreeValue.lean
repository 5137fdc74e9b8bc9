import MathProg.Proofs.Fallible
import MathProg.Proofs.Formula.Polynomial
import MathProg.Proofs.Function.Value
import MathProg.Proofs.Number.Exact

/-!
# The polynomial of a formula

A formula has an arithmetic value as soon as its names have numbers. Its polynomial has the same
value, and reading it fails for one of three reasons only: a form that is no arithmetic, a name that
is not declared, and a product of too large a degree.

The degree is that of the formula as it is written. Monomials stay in a polynomial when their
coefficients cancel, so `(x - x) * y * z` is refused although it is zero.
-/

namespace MathProg.Formula

namespace Tree

/-- Whether the tree is something else than a number, a name, a sum, a difference, a product or a
sign in front of an operand. -/
def isForeign : Tree → Bool
  | number _ => false
  | name _ => false
  | binary .add _ _ => false
  | binary .sub _ _ => false
  | binary .mul _ _ => false
  | unary .plus _ => false
  | unary .minus _ => false
  | _ => true

/-- The trees that occur in a tree, itself included. -/
inductive Contains : Tree → Tree → Prop where
  | self (t : Tree) : Contains t t
  | left {op : BinaryOp} {l r t : Tree} : Contains l t → Contains (binary op l r) t
  | right {op : BinaryOp} {l r t : Tree} : Contains r t → Contains (binary op l r) t
  | operand {op : UnaryOp} {s t : Tree} : Contains s t → Contains (unary op s) t
  | item {items : List Tree} {s t : Tree} : s ∈ items → Contains s t → Contains (list items) t
  | callee {callee t : Tree} {arguments : List Tree} {named : List (Option String × Tree)} :
      Contains callee t → Contains (call callee arguments named) t
  | argument {callee s t : Tree} {arguments : List Tree} {named : List (Option String × Tree)} :
      s ∈ arguments → Contains s t → Contains (call callee arguments named) t
  | named {callee s t : Tree} {arguments : List Tree} {named : List (Option String × Tree)} :
      s ∈ named.map Prod.snd → Contains s t → Contains (call callee arguments named) t
  | bundled {items : List Tree} {s t : Tree} : s ∈ items → Contains s t → Contains (bundle items) t
  | starred {s t : Tree} : Contains s t → Contains (starred s) t

/-- The largest number of variables in a product once everything is multiplied out, nothing being
left out for a coefficient of zero. -/
def degree : Tree → Nat
  | name _ => 1
  | binary .mul l r => l.degree + r.degree
  | binary _ l r => max l.degree r.degree
  | unary _ t => t.degree
  | _ => 0

/-- What a tree cannot be read for. -/
inductive IsRefused (names : List String) : Tree → Prop where
  | foreign {t : Tree} : t.isForeign = true → IsRefused names t
  | undeclared {id : String} : id ∉ names → IsRefused names (name id)
  | degree {l r : Tree} : 2 < l.degree + r.degree → IsRefused names (binary .mul l r)

/-- The arithmetic value, the names having the numbers `a`. -/
def value? {K : Type} [Field K] (a : String → Option K) : Tree → Option K
  | number l => some l.value
  | name id => a id
  | binary .add l r => do return (← l.value? a) + (← r.value? a)
  | binary .sub l r => do return (← l.value? a) - (← r.value? a)
  | binary .mul l r => do return (← l.value? a) * (← r.value? a)
  | unary .plus t => t.value? a
  | unary .minus t => do return -(← t.value? a)
  | _ => none

end Tree

/-! ## Monomials at a point -/

namespace Monomial

variable {K : Type} [CommRing K]

/-- The product of the numbers that the variables have. -/
def valueAt (x : Int → K) : Monomial → K
  | one => 1
  | linear v => x v
  | pair p => x p.first * x p.second

theorem valueAt_mul? {x : Int → K} {m n k : Monomial} (h : m.mul? n = some k) :
    k.valueAt x = m.valueAt x * n.valueAt x := by
  cases m <;> cases n <;> simp only [mul?, Option.some.injEq, reduceCtorEq] at h <;> subst h
  case linear.linear v w =>
    simp only [Monomial.valueAt, VariablePair.of]
    split
    · rfl
    · exact mul_comm _ _
  all_goals simp only [Monomial.valueAt, one_mul, mul_one]

end Monomial

namespace Polynomial

variable {K : Type}

section At

variable [CommRing K] {p q r : Polynomial K} {x : Int → K}

/-- The value at a point. -/
def valueAt (x : Int → K) (p : Polynomial K) : K :=
  Terms.value (Monomial.valueAt x) p

theorem valueAt_add (p q : Polynomial K) : (p.add q).valueAt x = p.valueAt x + q.valueAt x :=
  Terms.value_addAll p q

theorem valueAt_neg (p : Polynomial K) : p.neg.valueAt x = -p.valueAt x :=
  Terms.value_neg p

theorem valueAt_sub (p q : Polynomial K) : (p.sub q).valueAt x = p.valueAt x - q.valueAt x := by
  rw [sub, valueAt_add, valueAt_neg, sub_eq_add_neg]

/-- Where all products exist, the weights of the monomials multiply. -/
theorem value_times {d e : Nat} (hp : p.HasDegree d) (hq : q.HasDegree e) (small : d + e ≤ 2) :
    Terms.value (fun m => Terms.value (times (Monomial.valueAt x) m) q) p
      = p.valueAt x * q.valueAt x := by
  have rows : Terms.value (fun m => Terms.value (times (Monomial.valueAt x) m) q) p
      = Terms.value (fun m => q.valueAt x * m.valueAt x) p := by
    refine Terms.value_congr fun t ht => ?_
    rw [mul_comm, valueAt, ← Terms.value_mul_weight]
    refine Terms.value_congr fun u hu => ?_
    have low := hp.2 t.1 (List.mem_map_of_mem ht)
    have low' := hq.2 u.1 (List.mem_map_of_mem hu)
    obtain ⟨k, hk⟩ := Option.isSome_iff_exists.1
      (Monomial.isSome_mul?.2 (by omega : t.1.degree + u.1.degree ≤ 2))
    rw [times, hk, Option.elim_some]
    exact Monomial.valueAt_mul? hk
  rw [rows, Terms.value_mul_weight, mul_comm]
  rfl

/-- The function of a polynomial has its value. -/
theorem evaluate_toFunction [BEq K] [LawfulBEq K] (distinct : (p.map Prod.fst).Nodup)
    (x : Int → K) : p.toFunction.evaluate (.point x) = some (.scalar (p.valueAt x)) := by
  have parts : p.valueAt x = p.constantTerm + Terms.value x p.linear
      + Terms.value (fun q => x q.first * x q.second) p.pairs := by
    rw [constantTerm_eq_value distinct, value_linear, value_pairs, ← Terms.value_add_weight,
      ← Terms.value_add_weight]
    refine Terms.value_congr fun t _ => ?_
    cases t.1 <;> simp [Monomial.valueAt, Terms.only]
  rw [parts]
  exact Function.evaluate_canonicalQuadratic_at rfl _ _ _

/-- The function of a polynomial is affine if no coefficient of a product of variables is left. -/
theorem toFunction_affine_iff [BEq K] [LawfulBEq K] (distinct : (p.map Prod.fst).Nodup) :
    (∃ f, p.toFunction = .affine f) ↔ ∀ q, Terms.coefficient (.pair q) p = 0 := by
  have product (q : VariablePair) :
      Terms.coefficient (.pair q) p = Terms.value (Terms.only q) p.pairs := by
    rw [Terms.coefficient_eq_value distinct, value_pairs]
    refine Terms.value_congr fun t _ => ?_
    cases t.1 <;> simp [Terms.only]
  have compared : Terms.canonical p.pairs = Terms.canonical [] ↔
      ∀ q, Terms.value (Terms.only q) p.pairs = Terms.value (Terms.only q) [] :=
    Terms.canonical_eq_iff
  simp only [← product, Terms.value_nil] at compared
  exact Function.canonicalQuadratic_affine_iff.trans compared

end At

/-! ## Reading a tree -/

section Read

variable [Field K] {names : List String}

/-- What is known of the polynomial that has been read from a tree. -/
structure Reads (names : List String) (t : Tree) (p : Polynomial K) : Prop where
  distinct : (p.map Prod.fst).Nodup
  degree : p.HasDegree t.degree
  value : ∀ x : Int → K,
    t.value? (fun id => (position? names id).map (fun v => x v)) = some (p.valueAt x)

namespace Reads

variable {l r t : Tree} {p q s : Polynomial K}

theorem number (n : Literal) : Reads names (.number n) (constant (n.value : K)) where
  distinct := by simp [constant]
  degree := hasDegree_constant _
  value x := by simp [Tree.value?, valueAt, constant, Monomial.valueAt]

theorem name {id : String} {v : Nat} (h : position? names id = some v) :
    Reads names (.name id) (ofVariable v : Polynomial K) where
  distinct := by simp [ofVariable]
  degree := hasDegree_ofVariable v
  value x := by simp [Tree.value?, h, valueAt, ofVariable, Monomial.valueAt]

theorem add (hl : Reads names l p) (hr : Reads names r q) :
    Reads names (.binary .add l r) (p.add q) where
  distinct := Terms.nodup_keys_addAll hl.distinct
  degree := hl.degree.add hr.degree
  value x := by
    rw [Tree.value?, hl.value, hr.value, valueAt_add]
    rfl

theorem sub (hl : Reads names l p) (hr : Reads names r q) :
    Reads names (.binary .sub l r) (p.sub q) where
  distinct := Terms.nodup_keys_addAll hl.distinct
  degree := hl.degree.sub hr.degree
  value x := by
    rw [Tree.value?, hl.value, hr.value, valueAt_sub]
    rfl

theorem neg (h : Reads names t p) : Reads names (.unary .minus t) p.neg where
  distinct := by rw [Polynomial.neg, Terms.keys_mapCoefficients]; exact h.distinct
  degree := h.degree.neg
  value x := by
    rw [Tree.value?, h.value, valueAt_neg]
    rfl

theorem plus (h : Reads names t p) : Reads names (.unary .plus t) p :=
  ⟨h.distinct, h.degree, h.value⟩

/-- There is a product unless its degree is too large. -/
theorem mul (hl : Reads names l p) (hr : Reads names r q) (small : l.degree + r.degree ≤ 2) :
    ∃ s, p.mul? q = some s ∧ Reads names (.binary .mul l r) s := by
  obtain ⟨s, hs, degree, distinct, values⟩ := exists_mul? hl.degree hr.degree small
  refine ⟨s, hs, distinct, degree, fun x => ?_⟩
  have product : s.valueAt x = p.valueAt x * q.valueAt x :=
    (values _).trans (value_times hl.degree hr.degree small)
  rw [Tree.value?, hl.value, hr.value, product]
  rfl

end Reads

variable [TextNumber K] (exact : ∀ n, TextNumber.ofLiteral n = .ok (n.value : K))

include exact in
/-- A polynomial that has been read has the degree and the values of its tree. -/
theorem reads_of_ok : ∀ {t : Tree} {p : Polynomial K}, ofTree names t = .ok p → Reads names t p
  | .number n, p, h => by
    rw [ofTree, exact] at h
    cases h
    exact .number n
  | .name id, p, h => by
    obtain ⟨v, found, h⟩ := Fallible.bind_eq_ok.1 h
    cases h
    refine .name ?_
    rw [position] at found
    split at found <;> cases found
    assumption
  | .binary op l r, s, h => by
    obtain ⟨p, hp, h⟩ := Fallible.bind_eq_ok.1 h
    obtain ⟨q, hq, h⟩ := Fallible.bind_eq_ok.1 h
    have left := reads_of_ok hp
    have right := reads_of_ok hq
    cases op
    case add =>
      cases h
      exact left.add right
    case sub =>
      cases h
      exact left.sub right
    case mul =>
      -- A product was returned, and there is none of a larger degree.
      have small : l.degree + r.degree ≤ 2 := by
        by_contra large
        simp [mul?_eq_none left.degree right.degree (Nat.lt_of_not_le large)] at h
      obtain ⟨product, hs, reads⟩ := left.mul right small
      simp only [hs] at h
      cases h
      exact reads
    all_goals cases h
  | .unary op t, s, h => by
    obtain ⟨p, hp, h⟩ := Fallible.bind_eq_ok.1 h
    have inner := reads_of_ok hp
    cases op <;> cases h
    · exact inner.plus
    · exact inner.neg
  | .constant, _, h | .list _, _, h | .call _ _ _, _, h | .member, _, h | .bundle _, _, h
  | .starred _, _, h | .compound, _, h => by cases h

include exact in
/-- Whatever a tree is refused for, every tree around it is refused as well. -/
theorem not_ok_of_contains {t s : Tree} (inside : t.Contains s) (refused : s.IsRefused names) :
    ∀ p : Polynomial K, ofTree names t ≠ .ok p := by
  induction inside with
  | self t =>
    intro p h
    cases refused with
    | foreign foreign =>
      cases t
      case number => cases foreign
      case name => cases foreign
      case binary op l r =>
        -- The operator is looked at last, so both operands have been read by then.
        obtain ⟨_, -, h⟩ := Fallible.bind_eq_ok.1 h
        obtain ⟨_, -, h⟩ := Fallible.bind_eq_ok.1 h
        cases op <;> cases foreign <;> cases h
      case unary op t =>
        obtain ⟨_, -, h⟩ := Fallible.bind_eq_ok.1 h
        cases op <;> cases foreign <;> cases h
      all_goals cases h
    | undeclared absent =>
      obtain ⟨_, found, -⟩ := Fallible.bind_eq_ok.1 h
      rw [position, position?_eq_none_iff.2 absent] at found
      cases found
    | degree large =>
      obtain ⟨p, hp, h⟩ := Fallible.bind_eq_ok.1 h
      obtain ⟨q, hq, h⟩ := Fallible.bind_eq_ok.1 h
      have left := (reads_of_ok exact hp).degree
      have right := (reads_of_ok exact hq).degree
      simp [mul?_eq_none left right large] at h
  | left _ ih =>
    intro p h
    obtain ⟨q, hq, -⟩ := Fallible.bind_eq_ok.1 h
    exact ih refused q hq
  | right _ ih =>
    intro p h
    obtain ⟨_, -, h⟩ := Fallible.bind_eq_ok.1 h
    obtain ⟨q, hq, -⟩ := Fallible.bind_eq_ok.1 h
    exact ih refused q hq
  | operand _ ih =>
    intro p h
    obtain ⟨q, hq, -⟩ := Fallible.bind_eq_ok.1 h
    exact ih refused q hq
  | item | callee | argument | named | bundled | starred =>
    intro p h
    cases h

include exact in
/-- A tree that contains nothing to be refused for is read. -/
theorem exists_ofTree : ∀ {t : Tree}, (∀ s, t.Contains s → ¬ s.IsRefused names) →
    ∃ p : Polynomial K, ofTree names t = .ok p
  | .number n, _ => by
    refine ⟨constant (n.value : K), ?_⟩
    rw [ofTree, exact]
  | .name id, allowed => by
    cases found : position? names id with
    | none => exact absurd (.undeclared (position?_eq_none_iff.1 found)) (allowed _ (.self _))
    | some v =>
      refine ⟨ofVariable v, ?_⟩
      rw [ofTree, position, found]
      rfl
  | .binary op l r, allowed => by
    obtain ⟨p, hp⟩ := exists_ofTree fun s inside => allowed s (.left inside)
    obtain ⟨q, hq⟩ := exists_ofTree fun s inside => allowed s (.right inside)
    have whole := allowed _ (.self _)
    cases op
    case add => exact ⟨p.add q, by simp only [ofTree, hp, hq]; rfl⟩
    case sub => exact ⟨p.sub q, by simp only [ofTree, hp, hq]; rfl⟩
    case mul =>
      have small : l.degree + r.degree ≤ 2 :=
        Nat.le_of_not_lt fun large => whole (.degree large)
      obtain ⟨s, product, -⟩ := (reads_of_ok exact hp).mul (reads_of_ok exact hq) small
      exact ⟨s, by simp [ofTree, hp, hq, product, bind, Except.bind, pure, Except.pure]⟩
    all_goals exact absurd (.foreign rfl) whole
  | .unary op t, allowed => by
    obtain ⟨p, hp⟩ := exists_ofTree fun s inside => allowed s (.operand inside)
    have whole := allowed _ (.self _)
    cases op
    case plus => exact ⟨p, by simp only [ofTree, hp]; rfl⟩
    case minus => exact ⟨p.neg, by simp only [ofTree, hp]; rfl⟩
    all_goals exact absurd (.foreign rfl) whole
  | .constant, allowed | .list _, allowed | .call _ _ _, allowed | .member, allowed
  | .bundle _, allowed | .starred _, allowed | .compound, allowed =>
    absurd (.foreign rfl) (allowed _ (.self _))

include exact in
theorem exists_error_iff {t : Tree} :
    (∃ e, (ofTree names t : Except FormulaError (Polynomial K)) = .error e) ↔
      ∃ s, t.Contains s ∧ s.IsRefused names := by
  constructor
  · rintro ⟨e, failed⟩
    by_contra none
    obtain ⟨p, hp⟩ := exists_ofTree (K := K) exact
      fun s inside refused => none ⟨s, inside, refused⟩
    cases failed.symm.trans hp
  · rintro ⟨s, inside, refused⟩
    have failed := not_ok_of_contains (K := K) exact inside refused
    cases h : (ofTree names t : Except FormulaError (Polynomial K)) with
    | error e => exact ⟨e, rfl⟩
    | ok p => exact absurd h (failed p)

end Read

/-- The reader computes the polynomial that is written, and refuses a formula only for what is
wrong with it. -/
theorem ofTree_computes [Field K] [BEq K] [LawfulBEq K] [TextNumber K]
    (exact : ∀ n, TextNumber.ofLiteral n = .ok (n.value : K)) (names : List String) (t : Tree) :
    ((∃ e, (ofTree names t : Except FormulaError (Polynomial K)) = .error e) ↔
      ∃ s, t.Contains s ∧ s.IsRefused names) ∧
    ∀ p : Polynomial K, ofTree names t = .ok p →
      p.HasDegree t.degree ∧
      (∀ x : Int → K, ∃ v,
        t.value? (fun id => (position? names id).map (fun i => x i)) = some v ∧
          p.toFunction.evaluate (.point x) = some (.scalar v)) ∧
      ((∃ f, p.toFunction = .affine f) ∨ ∃ f, p.toFunction = .quadratic f) ∧
      ((∃ f, p.toFunction = .affine f) ↔ ∀ q, Terms.coefficient (.pair q) p = 0) := by
  refine ⟨exists_error_iff exact, fun p read => ?_⟩
  have reads := reads_of_ok exact read
  have values (x : Int → K) := evaluate_toFunction reads.distinct x
  exact ⟨reads.degree, fun x => ⟨p.valueAt x, reads.value x, values x⟩,
    Function.canonicalQuadratic_cases _ _ _, toFunction_affine_iff reads.distinct⟩

/-- `x * y + 3 * x - y * x`, where the products cancel. -/
def crossed : Tree :=
  .binary .sub
    (.binary .add (.binary .mul (.name "x") (.name "y"))
      (.binary .mul (.number (.integer 3)) (.name "x")))
    (.binary .mul (.name "y") (.name "x"))

/-- `(x - x) * y * z`, which is zero and of degree three. -/
def vanishing : Tree :=
  .binary .mul (.binary .mul (.binary .sub (.name "x") (.name "x")) (.name "y")) (.name "z")

theorem ofTree_computes_crossed :
    (∃ e, (ofTree ["x", "y", "z"] vanishing : Except FormulaError (Polynomial ℚ)) = .error e) ∧
    ∃ p : Polynomial ℚ, ofTree ["x", "y"] crossed = .ok p ∧ p.HasDegree 2 ∧
      (∃ f, p.toFunction = .affine f) ∧
      ∀ x, p.toFunction.evaluate (.point x) = some (.scalar (3 * x 0)) := by
  have exact (n : Literal) : TextNumber.ofLiteral n = .ok (Rat.cast n.value : ℚ) := rfl
  have refused := (ofTree_computes exact ["x", "y", "z"] vanishing).1
  have read : (ofTree ["x", "y"] crossed : Except FormulaError (Polynomial ℚ))
      = .ok [(.pair ⟨0, 1⟩, 0), (.linear 0, 3)] := by decide +kernel
  obtain ⟨degree, values, -, affine⟩ := (ofTree_computes exact ["x", "y"] crossed).2 _ read
  refine ⟨refused.2 ⟨vanishing, .self _, .degree (by decide)⟩, _, read, degree,
    affine.2 fun q => ?_, fun x => ?_⟩
  · simp only [Terms.coefficient, List.lookup]
    split <;> rfl
  · obtain ⟨v, value, result⟩ := values x
    have number : x 0 * x 1 + 3 * x 0 - x 1 * x 0 = v := by
      simpa [crossed, Tree.value?, position?, Literal.value] using value
    rw [result, ← number]
    congr 2
    ring

end Polynomial

end MathProg.Formula
