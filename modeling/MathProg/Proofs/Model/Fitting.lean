import MathProg.Proofs.ConstraintSet.Membership
import MathProg.Proofs.Function.Value

/-!
# The meaning of fitted functions

A function that has been brought into the form that its set asks for says what the caller has said:
the same assignments satisfy it, with its constant moved into the set or its matrix written in the
layout of the set.
-/

namespace MathProg

open Fallible

variable {N K : Type} [CommRing K] [Numeral N K]

/-! ## What the caller says -/

namespace Operand

/-- The number that an operand stands for. -/
def read (i : Meaning K) : Operand N K → Option K
  | expression e => e.evaluate i.valuation
  | _ => Option.none

/-- What a list of operands stands for: a matrix if it is a list of rows. -/
def formOf (items : List (Operand N K)) : Shaped (Operand N K) :=
  if items.isEmpty then .vector []
  else
    match items.mapM row? with
    | some rows => .matrix rows
    | Option.none => .vector items

/-- The number, the vector or the matrix of operands that an operand is. -/
def form : Operand N K → Shaped (Operand N K)
  | list items => formOf items
  | tuple items => formOf items
  | text t => formOf (t.toList.map (fun c => text (String.singleton c)))
  | array [_] items => formOf items
  | array [n, m] items => .matrix (Shape.slices [n, m] items)
  | array (n :: rest) items => formOf ((Shape.slices (n :: rest) items).map (array rest))
  | o => .scalar o

end Operand

section Satisfied

variable [LinearOrder K]

/-- Whether an assignment satisfies `o in s` as it is written. -/
def Operand.In (i : Meaning K) (o : Operand N K) (s : ConstraintSet N) : Prop :=
  s.Contains (read i) o.form

/-- Whether an assignment satisfies a stored constraint. -/
def ConstraintData.Holds (i : Meaning K) (d : ConstraintData N K) : Prop :=
  ∃ x, d.function.evaluate i.valuation = some x ∧ d.set.Contains some x

/-- Whether an assignment to the variables of a model satisfies an entry of a representation. -/
def Entry.Holds (i : Meaning K) (model : Nat) (e : Entry N K) : Prop :=
  ∃ x, e.function.evaluate (i.interpretation model) = some x ∧ e.set.Contains some x

end Satisfied

/-! ## Differences -/

namespace LinearExpr

variable (a : VariableRef → K) (e f : LinearExpr K)

@[simp] theorem total_ofConstant (c : K) : (ofConstant c).total a = c := by
  simp [total, ofConstant]

@[simp] theorem total_ofVariable (v : VariableRef) : (ofVariable v).total a = a v := by
  simp [total, ofVariable]

@[simp] theorem total_copy : e.copy.total a = e.total a := by
  simp [total, copy, ofTerms]

theorem total_sub : (e.sub f).total a = e.total a - f.total a := by
  simp only [total, sub, add, neg, copy, ofTerms, Terms.value_addAll, Terms.value_nil,
    Terms.value_neg]
  ring

end LinearExpr

theorem QuadraticExpr.total_sub_ofLinear (a : VariableRef → K) (e : QuadraticExpr K)
    (f : LinearExpr K) : (e.sub (ofLinear f)).total a = e.total a - f.total a := by
  simp only [total, sub, add, neg, scale, copy, ofPairs, ofLinear, LinearExpr.total,
    LinearExpr.add, LinearExpr.scale, LinearExpr.copy, LinearExpr.ofTerms, Terms.value_addAll,
    Terms.value_nil, Terms.value_scale]
  ring

namespace Expression

variable (i : Meaning K)

theorem value_of_coefficient {n : N} {c : K} (h : coefficient n = .ok c) :
    Numeral.value n = c :=
  Numeral.value_of_toCoefficient (mapError_eq_ok.1 h)

/-- The difference to a number. -/
theorem evaluate_sub_number {e e' : Expression N K} {n : N} (scalar : e.isScalarFunction)
    (h : e.sub (.number n) = .ok e') :
    ∃ x, e.evaluate i.valuation = some x ∧
      e'.evaluate i.valuation = some (x - Numeral.value n) := by
  have linear {a : LinearExpr K} {c : K} (hc : coefficient n = .ok c) :
      (Expression.linear (a.sub (.ofConstant c)) : Expression N K).evaluate i.valuation
        = some (a.total i.number - Numeral.value n) := by
    rw [evaluate_linear, LinearExpr.total_sub, LinearExpr.total_ofConstant,
      value_of_coefficient hc]
  cases e with
  | number n => cases scalar
  | nonlinear op args => cases scalar
  | var v =>
    obtain ⟨c, hc, h⟩ := bind_eq_ok.1 h
    cases h
    have start : (var v : Expression N K).evaluate i.valuation
        = some ((LinearExpr.ofVariable v : LinearExpr K).total i.number) := by
      rw [LinearExpr.total_ofVariable]
      rfl
    exact ⟨_, start, linear hc⟩
  | linear a =>
    obtain ⟨c, hc, h⟩ := bind_eq_ok.1 h
    cases h
    exact ⟨_, evaluate_linear i a, linear hc⟩
  | quadratic a =>
    obtain ⟨c, hc, h⟩ := bind_eq_ok.1 h
    cases h
    refine ⟨_, evaluate_quadratic i a, ?_⟩
    rw [evaluate_quadratic, QuadraticExpr.total_sub_ofLinear, LinearExpr.total_ofConstant,
      value_of_coefficient hc]

end Expression

/-! ## Values of what is stored -/

namespace Operand

variable (i : Meaning K)

/-- A scalar function has the value of its operand. -/
theorem read_of_scalarFunction {o : Operand N K} {s : ConstraintSet N}
    {e : Expression N K} (h : o.scalarFunction s = .ok e) :
    o.form = .scalar o ∧ o.read i = e.evaluate i.valuation := by
  unfold scalarFunction at h
  split at h
  next n =>
    obtain ⟨c, hc, h⟩ := bind_eq_ok.1 h
    cases h
    refine ⟨rfl, ?_⟩
    rw [Expression.evaluate_linear, LinearExpr.total_ofConstant,
      ← Expression.value_of_coefficient (mapError_eq_ok.1 hc)]
    rfl
  next =>
    split at h
    next => cases h; exact ⟨rfl, rfl⟩
    next => cases h
  next => cases h

theorem read_of_vectorEntry {o : Operand N K} {e : Expression N K}
    (h : o.vectorEntry = .ok e) :
    o.read i = e.evaluate i.valuation ∧ ∃ x, e.evaluate i.valuation = some x := by
  unfold vectorEntry at h
  split at h
  next n =>
    obtain ⟨c, hc, h⟩ := bind_eq_ok.1 h
    cases h
    refine ⟨?_, _, Expression.evaluate_linear i _⟩
    rw [Expression.evaluate_linear, LinearExpr.total_ofConstant,
      ← Expression.value_of_coefficient (mapError_eq_ok.1 hc)]
    rfl
  next => cases h; exact ⟨rfl, _, rfl⟩
  next e => cases h; exact ⟨rfl, _, Expression.evaluate_linear i e⟩
  next => cases h

theorem mapM_read_of_vectorEntry {items : List (Operand N K)} {es : List (Expression N K)}
    (h : items.mapM vectorEntry = .ok es) :
    ∃ xs, items.mapM (read i) = some xs ∧ es.mapM (Expression.evaluate i.valuation) = some xs := by
  have entries := mapM_eq_ok.1 h
  clear h
  induction entries with
  | nil => exact ⟨[], rfl, rfl⟩
  | cons first _ ih =>
    obtain ⟨xs, values, values'⟩ := ih
    obtain ⟨same, x, value⟩ := read_of_vectorEntry i first
    exact ⟨x :: xs, by simp [List.mapM_cons, same, value, values],
      by simp [List.mapM_cons, value, values']⟩

end Operand

/-! ## Flat entries -/

section Flat

variable {s : ConstraintSet N} {o : Operand N K} {items entries : List (Operand N K)}

omit [CommRing K] in
/-- The entries of a list are its items, or those of the matrix that it stands for. -/
private theorem formOf_cases {container : Operand N K} (flat : container.isMatrix = false)
    (h : (match items.mapM Operand.row? with
      | some rows =>
        if items.isEmpty && !container.isMatrix then return items
        else (s.vectorize rows).mapError ModelError.dimension
      | none => return items : Except (ModelError N K) _) = .ok entries) :
    Operand.formOf items = .vector entries ∨
      ∃ rows, Operand.formOf items = .matrix rows ∧ s.vectorize rows = .ok entries := by
  simp only [flat, Bool.not_false, Bool.and_true] at h
  unfold Operand.formOf
  split at h
  next rows hrows =>
    split at h
    next empty =>
      cases h
      simp_all
    next some =>
      rw [if_neg some]
      exact .inr ⟨rows, rfl, mapError_eq_ok.1 h⟩
  next none =>
    cases h
    left
    split
    · simp_all
    · rfl

omit [CommRing K] in
/-- Flat entries are those of a vector, or the written entries of a matrix. -/
theorem ConstraintSet.form_of_flatEntries (h : s.flatEntries o = .ok entries) :
    o.form = .vector entries ∨
      ∃ rows, o.form = .matrix rows ∧ s.vectorize rows = .ok entries := by
  unfold flatEntries at h
  obtain ⟨items, hi, h⟩ := bind_eq_ok.1 h
  unfold Operand.entries at hi
  split at hi
  all_goals cases hi
  · exact formOf_cases rfl h
  · exact formOf_cases rfl h
  · exact formOf_cases rfl h
  · exact formOf_cases rfl h
  next rest items several _ =>
    match rest, several with
    | [], several => exact (several rfl).elim
    | [m], _ =>
      rw [Operand.mapM_row] at h
      simp only [Operand.isMatrix, Bool.not_true, Bool.and_false, Bool.false_eq_true,
        ↓reduceIte] at h
      exact .inr ⟨_, rfl, mapError_eq_ok.1 h⟩
    | m :: k :: rest, _ => exact formOf_cases rfl h

end Flat

/-! ## Fitted functions -/

variable [LinearOrder K] [ExactNumeral N K] [BEq K] (i : Meaning K)

/-- Moving the constant into the set keeps what is said. -/
theorem ConstraintSet.hasNumber_fitScalar [IsOrderedAddMonoid K] {s t : ConstraintSet N}
    {e e' : Expression N K} (scalar : e.isScalarFunction) (h : s.fitScalar e = .ok (e', t)) :
    (∃ x, e'.evaluate i.valuation = some x ∧ t.HasNumber x) ↔
      ∃ x, e.evaluate i.valuation = some x ∧ s.HasNumber x := by
  unfold fitScalar at h
  split at h
  next =>
    cases h
    rfl
  next moved =>
    obtain ⟨difference, hd, h⟩ := bind_eq_ok.1 h
    obtain ⟨t', ht, h⟩ := bind_eq_ok.1 h
    cases h
    have shiftable : s.isShiftable := by
      simp only [Bool.or_eq_true, Bool.not_eq_true', not_or, Bool.not_eq_false] at moved
      exact moved.2
    obtain ⟨x, value, value'⟩ := Expression.evaluate_sub_number i scalar (mapError_eq_ok.1 hd)
    have same := hasNumber_shifted (mapError_eq_ok.1 ht) shiftable x
    simp only [value, value', Option.some.injEq, exists_eq_left', same]

omit [CommRing K] [LinearOrder K] [BEq K] in
private theorem mapM_some (xs : List K) : xs.mapM some = some xs := by
  induction xs with
  | nil => rfl
  | cons x xs ih => simp [List.mapM_cons, ih]

/-- What has been fitted says what the caller says. -/
theorem ConstraintSet.holds_fit [IsOrderedAddMonoid K] {s t : ConstraintSet N} {o : Operand N K}
    {f : ConstraintFunction N K} (h : s.fit o = .ok (f, t)) (name : Option String) :
    (ConstraintData.mk f t name).Holds i ↔ o.In i s := by
  unfold fit at h
  split at h
  next =>
    -- the constant of a scalar moves into the set: function and set are shifted alike
    obtain ⟨e, he, h⟩ := bind_eq_ok.1 h
    obtain ⟨⟨e', moved⟩, hf, h⟩ := bind_eq_ok.1 h
    cases h
    obtain ⟨form, read⟩ := Operand.read_of_scalarFunction i he
    have same := hasNumber_fitScalar i (Operand.isScalarFunction_of_scalarFunction he) hf
    simp only [ConstraintData.Holds, ConstraintFunction.evaluate, Operand.In, form, Contains, read,
      ← same, Option.map_eq_some_iff]
    constructor
    · rintro ⟨_, ⟨x, value, rfl⟩, y, hy, holds⟩
      cases hy
      exact ⟨x, value, holds⟩
    · rintro ⟨x, value, holds⟩
      exact ⟨_, ⟨x, value, rfl⟩, x, rfl, holds⟩
  next scalar =>
    obtain ⟨items, hi, h⟩ := bind_eq_ok.1 h
    obtain ⟨es, hes, h⟩ := bind_eq_ok.1 h
    obtain ⟨t', ht, h⟩ := bind_eq_ok.1 h
    cases h
    obtain ⟨xs, reads, values⟩ := Operand.mapM_read_of_vectorEntry i hes
    -- the set only learns its size, and the entries have their values in order
    have count : es.length = xs.length := (mapM_eq_some.1 values).length_eq
    rw [count] at ht
    have sized := hasVector_withDimension scalar (mapError_eq_ok.1 ht)
    have stored : (ConstraintData.mk (.vector es) t name).Holds i ↔ s.HasVector xs := by
      simp [ConstraintData.Holds, ConstraintFunction.evaluate, values, Contains, mapM_some, sized]
    rw [stored, Operand.In]
    rcases form_of_flatEntries hi with form | ⟨rows, form, written⟩
    · simp [form, Contains, reads]
    · rw [form, contains_matrix written reads]

end MathProg
