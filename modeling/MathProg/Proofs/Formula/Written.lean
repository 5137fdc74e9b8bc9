import MathProg.Proofs.Expression.Measured

/-!
# Expressions written in code and in text

A caller writes the same expression in two ways: with the operators on expressions of a model, or as
a formula that is read. Either way it has a degree above two, and then both refuse it, or both
give the same sum.
-/

namespace MathProg

open Formula (Monomial Tree)

/-- An expression over numbers and declared variables. -/
inductive Written where
  | number (l : Literal)
  | var (i : Nat)
  | add (left right : Written)
  | sub (left right : Written)
  | mul (left right : Written)
  | neg (operand : Written)

namespace Written

/-- Whether all variables are among the first `n`. -/
def Declared (n : Nat) : Written → Prop
  | number _ => True
  | var i => i < n
  | add left right => left.Declared n ∧ right.Declared n
  | sub left right => left.Declared n ∧ right.Declared n
  | mul left right => left.Declared n ∧ right.Declared n
  | neg operand => operand.Declared n

/-- The formula, with names for the variables. -/
def tree (names : List String) : Written → Tree
  | number l => .number l
  | var i => .name (names.getD i "")
  | add left right => .binary .add (left.tree names) (right.tree names)
  | sub left right => .binary .sub (left.tree names) (right.tree names)
  | mul left right => .binary .mul (left.tree names) (right.tree names)
  | neg operand => .unary .minus (operand.tree names)

variable {N K : Type}

section Build

variable [Zero K] [One K] [Add K] [Sub K] [Mul K] [Neg K] [TextNumber K] [Numeral N K]

/-- The expression in a model, built from the inside with the operators on expressions. Numbers among
themselves are computed as numbers. -/
def build (model : Nat) : Written → Except ExpressionError (Expression N K)
  | number l => do
    return .number (Numeral.ofCoefficient (← (TextNumber.ofLiteral l).mapError .number))
  | var i => .ok (.var ⟨model, i⟩)
  | add left right => do
    let e ← left.build model
    let f ← right.build model
    Expression.combine (· + ·) Expression.add e f
  | sub left right => do
    let e ← left.build model
    let f ← right.build model
    Expression.combine (· - ·) Expression.sub e f
  | mul left right => do
    let e ← left.build model
    let f ← right.build model
    Expression.combine (· * ·) Expression.mul e f
  | neg operand => do return (← operand.build model).neg

end Build

/-- A name stands for its place, if no name occurs twice. -/
theorem position?_getD {names : List String} (distinct : names.Nodup) {i : Nat}
    (h : i < names.length) : Formula.position? names (names.getD i "") = some i := by
  induction names generalizing i with
  | nil => simp at h
  | cons name names ih =>
    obtain ⟨fresh, distinct⟩ := List.nodup_cons.1 distinct
    have absent := Formula.position?_eq_none_iff.2 fresh
    cases i with
    | zero => simp [Formula.position?, absent]
    | succ i =>
      have inside : i < names.length := by simpa using h
      simp only [List.getD_cons_succ, Formula.position?, ih distinct inside]

variable [CommRing K] [TextNumber K] [Numeral N K] [ExactNumeral N K] [ExactText K]

/-- What is known of the two sums. -/
structure Same (P : VariableRef → Prop) (w : Written) (e : Expression N K) (p : Formula.Polynomial K) :
    Prop where
  distinct : (p.map Prod.fst).Nodup
  measured : ∃ d, p.HasDegree d ∧ e.Measured P d (fun weight => Terms.value weight p)
  isVar_iff : e.isVar ↔ ∃ i, w = .var i

/-- Both ways refuse the degree, or both succeed with the same sum. -/
def BothWays (N K : Type) [CommRing K] [TextNumber K] [Numeral N K] (names : List String)
    (model : Nat) (P : VariableRef → Prop) (w : Written) : Prop :=
  (w.build model = (.error .degree : Except ExpressionError (Expression N K)) ∧
    Formula.Polynomial.ofTree names (w.tree names) = (.error .degree : Except _ (Formula.Polynomial K))) ∨
  ∃ (e : Expression N K) (p : Formula.Polynomial K), w.build model = .ok e ∧
    Formula.Polynomial.ofTree names (w.tree names) = .ok p ∧ Same P w e p

variable {names : List String} {model : Nat} {P : VariableRef → Prop}

omit [ExactNumeral N K] [ExactText K] in
/-- What holds of both operands holds of a sign between them, if its last step keeps it. -/
private theorem BothWays.binary {left right w : Written}
    {sign : Expression N K → Expression N K → Except ExpressionError (Expression N K)}
    {sign' : Formula.Polynomial K → Formula.Polynomial K → Except Formula.FormulaError (Formula.Polynomial K)}
    (builds : w.build model =
      (left.build model >>= fun e => right.build model >>= fun f => sign e f))
    (reads : Formula.Polynomial.ofTree names (w.tree names) =
      (Formula.Polynomial.ofTree names (left.tree names) >>= fun p =>
        Formula.Polynomial.ofTree names (right.tree names) >>= fun q => sign' p q))
    (hl : left.BothWays N K names model P) (hr : right.BothWays N K names model P)
    (last : ∀ e p f q, Same P left e p → Same P right f q →
      (sign e f = .error .degree ∧ sign' p q = .error .degree) ∨
      ∃ r s, sign e f = .ok r ∧ sign' p q = .ok s ∧ Same P w r s) :
    w.BothWays N K names model P := by
  rw [BothWays, builds, reads]
  rcases hl with ⟨he, hp⟩ | ⟨e, p, he, hp, same⟩
  · exact .inl ⟨by rw [he]; rfl, by rw [hp]; rfl⟩
  · rcases hr with ⟨hf, hq⟩ | ⟨f, q, hf, hq, same'⟩
    · exact .inl ⟨by rw [he, hf]; rfl, by rw [hp, hq]; rfl⟩
    · rw [he, hf, hp, hq]
      exact last e p f q same same'

/-- Every expression over declared variables is refused both ways, or read the same both ways. -/
theorem bothWays (distinct : names.Nodup) (owned : ∀ i < names.length, P ⟨model, i⟩)
    (w : Written) (declared : w.Declared names.length) : w.BothWays N K names model P := by
  induction w with
  | number l =>
    obtain ⟨c, hc⟩ := ExactText.exists_ofLiteral (K := K) l
    refine .inr ⟨.number (Numeral.ofCoefficient c), .constant c, ?_, ?_, by
      simp [Formula.Polynomial.constant], ⟨0, Formula.Polynomial.hasDegree_constant c, ?_⟩,
      by simp [Expression.isVar]⟩
    · rw [build, hc]
      rfl
    · simp only [tree, Formula.Polynomial.ofTree, hc]
    · refine .number (ExactNumeral.toCoefficient_ofCoefficient c) fun weight => ?_
      simp [Formula.Polynomial.constant]
  | var i =>
    refine .inr ⟨.var ⟨model, i⟩, .ofVariable i, rfl, ?_, by simp [Formula.Polynomial.ofVariable],
      ⟨1, Formula.Polynomial.hasDegree_ofVariable i, ?_⟩, by simp [Expression.isVar]⟩
    · simp only [tree, Formula.Polynomial.ofTree, Formula.position, position?_getD distinct declared]
      rfl
    · simpa [Formula.Polynomial.ofVariable] using
        Expression.measured_var (N := N) (K := K) (owned i declared)
  | add left right ihl ihr =>
    refine .binary rfl rfl (ihl declared.1) (ihr declared.2)
      fun e p f q first second => .inr ?_
    obtain ⟨once, ⟨d, hp, he⟩, -⟩ := first
    obtain ⟨-, ⟨d', hq, hf⟩, -⟩ := second
    obtain ⟨r, hr, composed, measured⟩ := he.add hf
    refine ⟨r, p.add q, hr, rfl, Terms.nodup_keys_addAll once, ⟨_, hp.add hq, ?_⟩,
      by simp [composed]⟩
    simpa only [Formula.Polynomial.add, Terms.value_addAll] using measured
  | sub left right ihl ihr =>
    refine .binary rfl rfl (ihl declared.1) (ihr declared.2)
      fun e p f q first second => .inr ?_
    obtain ⟨once, ⟨d, hp, he⟩, -⟩ := first
    obtain ⟨-, ⟨d', hq, hf⟩, -⟩ := second
    obtain ⟨r, hr, composed, measured⟩ := he.sub hf
    refine ⟨r, p.sub q, hr, rfl, Terms.nodup_keys_addAll once, ⟨_, hp.sub hq, ?_⟩,
      by simp [composed]⟩
    simpa only [Formula.Polynomial.sub, Formula.Polynomial.add, Formula.Polynomial.neg, Terms.value_addAll,
      Terms.value_neg, ← sub_eq_add_neg] using measured
  | mul left right ihl ihr =>
    refine .binary rfl rfl (ihl declared.1) (ihr declared.2)
      fun e p f q first second => ?_
    obtain ⟨-, ⟨d, hp, he⟩, -⟩ := first
    obtain ⟨-, ⟨d', hq, hf⟩, -⟩ := second
    -- the degree decides on both ways, and it is the same
    by_cases small : d + d' ≤ 2
    · obtain ⟨r, hr, composed, measured⟩ := he.mul hf small
      obtain ⟨s, hs, degree, once, values⟩ := Formula.Polynomial.exists_mul? hp hq small
      refine .inr ⟨r, s, hr, by rw [hs]; rfl, once, ⟨_, degree, ?_⟩, by simp [composed]⟩
      simpa only [values] using measured
    · have large := Nat.lt_of_not_le small
      exact .inl ⟨he.mul_large hf large, by rw [Formula.Polynomial.mul?_eq_none hp hq large]⟩
  | neg operand ih =>
    rcases ih declared with ⟨he, hp⟩ | ⟨e, p, he, hp, once, ⟨d, degree, measured⟩, _⟩
    · exact .inl ⟨by rw [build, he]; rfl, by rw [tree, Formula.Polynomial.ofTree, hp]; rfl⟩
    · obtain ⟨composed, measured⟩ := measured.neg
      refine .inr ⟨e.neg, p.neg, by rw [build, he]; rfl, by rw [tree, Formula.Polynomial.ofTree, hp]; rfl,
        ?_, ⟨d, degree.neg, ?_⟩, by simp [composed]⟩
      · rwa [Formula.Polynomial.neg, Terms.keys_mapCoefficients]
      · simpa only [Formula.Polynomial.neg, Terms.value_neg] using measured

end Written

end MathProg
