import MathProg.Proofs.Formula.Sums
import MathProg.Proofs.Model.Accepted

/-!
# Models and texts

Whatever is written in code or in text, as a constraint or as an objective, makes the same entry and
the same objective.
-/

namespace MathProg

open Fallible
open Reader (readFormula readSet readConstraint readLine)

variable {N K : Type} [CommRing K] [BEq K] [LawfulBEq K] [Numeral N K] [ExactNumeral N K]

/-! ## Both ways -/

namespace Written

variable [TextNumber K]

/-- Whether a constraint in code and a line of text make the same entry, for every scalar set. -/
def SameEntries (m : Model N K) (names : List String) (w : Written) (e : Expression N K) : Prop :=
  ∀ s : ConstraintSet N, s.kind = .scalar → ∀ (name : Option String) (line left right : List Char),
    Text.splitLast? " in ".toList line = some (left, right) →
    readFormula left = .ok (w.tree names) → readSet right = .ok s →
    ∃ c t r f s', (Model.addConstraint (.expression e) s name).run.run m = (.ok c, t) ∧
      t.represent = .ok r ∧ r.constraints[c.index]? = some ⟨name, f, s'⟩ ∧
      readConstraint names line = .ok (f, s')

/-- Whether an objective in code and a line of text make the same objective. -/
def SameObjectives (m : Model N K) (names : List String) (w : Written) (e : Expression N K) :
    Prop :=
  ∀ keyword sense, (keyword, sense) ∈ [("minobjective", Sense.minimize), ("maxobjective", .maximize)] →
    ∀ (state : Reader.State N K) (text : List Char), state.names = names →
    readFormula text = .ok (w.tree names) →
    ∃ t r, (Model.setObjective (some sense) (.expression e)).run.run m = (.ok (), t) ∧
      t.represent = .ok r ∧
      readLine state (keyword.toList ++ ':' :: text) = .ok { state with
        representation := { state.representation with
          sense := r.sense, objective := r.objective } }

variable {P : VariableRef → Prop} {w : Written} {e : Expression N K} {p : Formula.Polynomial K}

omit [BEq K] [LawfulBEq K] [ExactNumeral N K] [TextNumber K] in
/-- The sum that an operand stands for, in an objective, and in a constraint unless it is a
variable alone. -/
theorem Same.exists_isSum (h : Same P w e p) :
    ∃ objective : Objective N K, Model.objectiveOf (.expression e) = .ok objective ∧
      objective.toExpression.IsSum P p ∧ (e.isVar = false → ∀ s : ConstraintSet N,
        Operand.scalarFunction s (.expression e) = .ok objective.toExpression) := by
  obtain ⟨d, -, measured⟩ := h.measured
  cases e with
  | number n =>
    cases measured with
    | number given same =>
      have read := Expression.coefficient_ok given
      refine ⟨.linear (.ofConstant _), by rw [Model.objectiveOf, read]; rfl,
        .linear (LinearExpr.over_ofConstant _) fun w => by simp [same], fun _ s => ?_⟩
      rw [Operand.scalarFunction, read]
      rfl
  | var v =>
    cases measured with
    | linear _ known same =>
      exact ⟨.linear (.ofVariable v), rfl, .linear known fun w => (same w).symm,
        fun composed => by cases composed⟩
  | linear a =>
    cases measured with
    | linear _ known same =>
      exact ⟨.linear a, rfl, .linear known fun w => (same w).symm, fun _ _ => rfl⟩
  | quadratic a =>
    cases measured with
    | quadratic known same =>
      exact ⟨.quadratic a, rfl, .quadratic known fun w => (same w).symm, fun _ _ => rfl⟩
  | nonlinear op args => cases measured

omit [LawfulBEq K] [ExactNumeral N K] in
/-- A line with a formula that is no list. -/
theorem readConstraint_eq {names : List String} {line left right : List Char} {s : ConstraintSet N}
    (split : Text.splitLast? " in ".toList line = some (left, right))
    (formula : readFormula left = .ok (w.tree names)) (set : readSet right = .ok s) :
    readConstraint names line =
      Reader.scalarFunction names (w.tree names) >>= fun f => Reader.moveConstant f s := by
  unfold readConstraint
  rw [split]
  simp only [set, formula]
  cases w <;> rfl

omit [LawfulBEq K] [ExactNumeral N K] [Numeral N K] in
/-- A formula that is no name alone. -/
theorem scalarFunction_eq {names : List String} (composed : ∀ i, w ≠ .var i)
    (h : Formula.Polynomial.ofTree names (w.tree names) = .ok p) :
    Reader.scalarFunction names (w.tree names) = .ok p.toFunction := by
  have read : Reader.polynomial names (w.tree names) = .ok p := by
    rw [Reader.polynomial, h]
    rfl
  cases w with
  | var i => exact absurd rfl (composed i)
  | _ =>
    simp only [tree] at read
    simp only [Reader.scalarFunction, tree, read]
    rfl

variable {m : Model N K} {names : List String}

/-- What a model stores for an operand is what a reader makes of the formula. -/
theorem exists_fit (distinct : names.Nodup) (declared : w.Declared names.length)
    (h : Same P w e p) (built : w.build m.id = .ok e)
    (read : Formula.Polynomial.ofTree names (w.tree names) = .ok p) {s : ConstraintSet N}
    (scalar : s.kind = .scalar) :
    ∃ e' f t, s.fit (.expression e) = .ok (.scalar e', t) ∧ e'.toFunction = .ok f ∧
      (Reader.scalarFunction names (w.tree names) >>= fun f => Reader.moveConstant f s)
        = .ok (f, t) ∧ ∀ v ∈ e'.occurrences, P v := by
  obtain ⟨objective, -, sum, function⟩ := h.exists_isSum
  cases alone : e.isVar with
  | true =>
    obtain ⟨i, rfl⟩ := h.isVar_iff.1 alone
    cases built
    have index : Formula.position? names (names.getD i "") = some i :=
      position?_getD distinct declared
    have owned : P ⟨m.id, i⟩ := by
      obtain ⟨d, -, measured⟩ := h.measured
      cases measured with
      | linear _ known _ => exact known _ (by simp [LinearExpr.ofVariable])
    refine ⟨.var ⟨m.id, i⟩, .var i, s, ConstraintSet.fit_var scalar, rfl, ?_, ?_⟩
    · simp only [Reader.scalarFunction, tree, Reader.readPosition, Formula.position, index]
      change Reader.moveConstant (.var i) s = _
      simp [Reader.moveConstant, Function.constantPart]
    · simpa [Expression.occurrences] using owned
  | false =>
    have composed : ∀ i, w ≠ .var i := fun i same => by
      simp [h.isVar_iff.2 ⟨i, same⟩] at alone
    obtain ⟨e', f, t, fits, ok, moved, occurs⟩ := sum.fitScalar h.distinct s
    refine ⟨e', f, t, ConstraintSet.fit_scalar scalar (function alone s) fits, ok, ?_, occurs⟩
    rw [scalarFunction_eq composed read]
    exact moved

theorem sameEntries (distinct : names.Nodup) (h : Same (fun v => m.owns v) w e p)
    (declared : w.Declared names.length) (built : w.build m.id = .ok e)
    (read : Formula.Polynomial.ofTree names (w.tree names) = .ok p) : SameEntries m names w e := by
  intro s scalar name line left right split formula set
  rw [readConstraint_eq split formula set]
  obtain ⟨e', f, t, fits, ok, moved, occurs⟩ := exists_fit distinct declared h built read scalar
  have added := Model.run_addConstraint name fits occurs
  obtain ⟨r, hr⟩ := Model.exists_represent
    { m with constraints := m.constraints ++ [⟨.scalar e', t, name⟩], revision := m.revision + 1 }
  exact ⟨_, _, r, f, t, added, hr, Model.represent_last hr rfl ok, moved⟩

theorem sameObjectives (h : Same (fun v => m.owns v) w e p)
    (read : Formula.Polynomial.ofTree names (w.tree names) = .ok p) : SameObjectives m names w e := by
  intro keyword sense known state text same formula
  obtain ⟨objective, accepted, sum, -⟩ := h.exists_isSum
  have set := Model.run_setObjective sense accepted sum.occurs
  obtain ⟨r, hr⟩ := Model.exists_represent { m with sense, objective, revision := m.revision + 1 }
  refine ⟨_, r, set, hr, ?_⟩
  obtain ⟨-, same', function, -⟩ := Model.represent_eq_ok.1 hr
  simp only [sum.toFunction_eq h.distinct, Except.ok.injEq] at function same'
  have reads : Reader.readObjective state r.sense text = .ok { state with
      representation := { state.representation with
        sense := r.sense, objective := r.objective } } := by
    unfold Reader.readObjective Reader.polynomial
    rw [formula, same, ← function]
    simp only [bind, Except.bind, read]
    rfl
  simp only [List.mem_cons, Prod.mk.injEq, List.not_mem_nil, or_false] at known
  rcases known with ⟨rfl, rfl⟩ | ⟨rfl, rfl⟩
  · rw [← reads, same']
    rfl
  · rw [← reads, same']
    rfl

/-- An expression is refused for its degree in code exactly if it is refused in text. Otherwise both
ways succeed, and whatever is stored for the one is read for the other. -/
theorem code_agrees_with_text [ExactText K] (m : Model N K) (names : List String)
    (distinct : names.Nodup) (count : names.length = m.vars.length) (w : Written)
    (declared : w.Declared names.length) :
    (w.build m.id = (.error .degree : Except ExpressionError (Expression N K)) ↔
      Formula.Polynomial.ofTree names (w.tree names) = (.error .degree : Except _ (Formula.Polynomial K))) ∧
    (w.build m.id = (.error .degree : Except ExpressionError (Expression N K)) ∨
      ∃ (e : Expression N K) (p : Formula.Polynomial K), w.build m.id = .ok e ∧
        Formula.Polynomial.ofTree names (w.tree names) = .ok p ∧
        SameEntries m names w e ∧ SameObjectives m names w e) := by
  have owned : ∀ i < names.length, m.owns ⟨m.id, i⟩ = true := by
    intro i hi
    simp only [Model.owns, beq_self_eq_true, Bool.true_and, decide_eq_true_eq]
    omega
  rcases bothWays (N := N) (K := K) (P := fun v => m.owns v) distinct owned w declared with
    ⟨refused, refused'⟩ | ⟨e, p, built, read, same⟩
  · exact ⟨by simp [refused, refused'], .inl refused⟩
  · refine ⟨by simp [built, read], .inr ⟨e, p, built, read, ?_, ?_⟩⟩
    · exact sameEntries distinct same declared built read
    · exact sameObjectives same read

/-- Two variables. -/
def pairModel : Model ℚ ℚ :=
  { Model.empty 0 none with vars := [⟨some "x", []⟩, ⟨some "y", []⟩] }

/-- The expression `2 * x * y - x + 3`. -/
def pairExample : Written :=
  .add (.sub (.mul (.mul (.number (.integer 2)) (.var 0)) (.var 1)) (.var 0)) (.number (.integer 3))

theorem code_agrees_with_text_pair :
    ∃ e : Expression ℚ ℚ, pairExample.build 0 = .ok e ∧
      ∃ c t r f s, (Model.addConstraint (.expression e) (.lessThan 4) none).run.run pairModel
          = (.ok c, t) ∧ t.represent = .ok r ∧ r.constraints[c.index]? = some ⟨none, f, s⟩ ∧
        readConstraint ["x", "y"] "2*x*y - x + 3 in LessThan(4)".toList = .ok (f, s) := by
  obtain ⟨-, refused | ⟨e, p, built, -, entries, -⟩⟩ :=
    code_agrees_with_text pairModel ["x", "y"] (by decide) rfl pairExample
      (by simp [pairExample, Declared])
  · cases refused
  · exact ⟨e, built, entries (.lessThan 4) rfl none _ "2*x*y - x + 3".toList "LessThan(4)".toList
      (by decide) (by cbv) (by cbv)⟩

end Written

end MathProg
