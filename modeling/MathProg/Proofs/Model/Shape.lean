import MathProg.Proofs.ConstraintSet.Size
import MathProg.Proofs.Model.Represent
import MathProg.Proofs.Number.Decoding

/-!
# The shape of stored constraints

A constraint in a scalar set stores one function, without a constant if the set has bounds to move
it into. A constraint in a vector or matrix set stores as many entries as its set has dimensions,
and that number is settled. A constant moves without a trace only where it is finite: an infinite
one does not cancel.
-/

namespace MathProg

open Fallible

variable {N K : Type}

/-! ## Finite numbers -/

/-- Whether a written number is a finite float, or an integer near one. -/
def Number.IsFinite (n : Number) : Prop :=
  ∃ x, n.toFloat = .ok x ∧ x.isFinite = true

/-- Whether the written numbers and the constant of an expression are finite. -/
structure Expression.IsFinite (e : Expression Number Float) : Prop where
  numbers : ∀ n ∈ e.numbers, n.IsFinite
  constantPart : e.constantPart.isFinite = true

/-- Whether an operand that is one expression is finite. -/
def Operand.IsFinite : Operand Number Float → Prop
  | .expression e => e.IsFinite
  | _ => True

/-! ## Stored constraints -/

/-- Whether a function has the form that its set asks for. -/
def ConstraintSet.Stores (s : ConstraintSet Number) (f : ConstraintFunction Number Float) : Prop :=
  match s.kind, f with
  | .scalar, .scalar e => s.isShiftable = true → (e.constantPart == 0) = true
  | .scalar, .vector _ => False
  | _, .scalar _ => False
  | _, .vector es => ∃ d, s.dimension? = some d ∧ Numeral.isInt d es.length = true

namespace ConstraintSet

theorem stores_scalar {s : ConstraintSet Number} (scalar : s.kind = .scalar)
    {e : Expression Number Float} (h : s.isShiftable = true → (e.constantPart == 0) = true) :
    s.Stores (.scalar e) := by
  unfold Stores
  rw [scalar]
  exact h

theorem stores_vector {s : ConstraintSet Number} (vector : s.kind ≠ .scalar)
    {es : List (Expression Number Float)} {d : Number} (dimension : s.dimension? = some d)
    (h : Numeral.isInt d es.length = true) : s.Stores (.vector es) := by
  unfold Stores
  cases kind : s.kind with
  | scalar => exact (vector kind).elim
  | vector => exact ⟨d, dimension, h⟩
  | matrix layout => exact ⟨d, dimension, h⟩

/-- A variable alone has no constant to move. -/
theorem stores_var {s : ConstraintSet Number} (scalar : s.kind = .scalar) (v : VariableRef) :
    s.Stores (.scalar (.var v)) :=
  stores_scalar scalar fun _ => FloatLaws.zero_beq

/-! ## Shifts -/

theorem kind_shifted [Numeral N K] {s t : ConstraintSet N} {c : N} (h : s.shifted c = .ok t) :
    t.kind = s.kind := by
  cases s with
  | lessThan n | greaterThan n | equalTo n =>
    obtain ⟨d, -, h⟩ := bind_eq_ok.1 h
    cases h
    rfl
  | interval m n =>
    obtain ⟨d, -, h⟩ := bind_eq_ok.1 h
    obtain ⟨d', -, h⟩ := bind_eq_ok.1 h
    cases h
    rfl
  | _ =>
    cases h
    rfl

end ConstraintSet

/-- A finite constant is gone once it has been subtracted. -/
theorem Expression.constantPart_sub {e e' : Expression Number Float}
    (scalar : e.isScalarFunction) (finite : e.constantPart.isFinite = true)
    (h : e.sub (.number (Numeral.ofCoefficient e.constantPart)) = .ok e') :
    (e'.constantPart == 0) = true := by
  cases e with
  | number n => cases scalar
  | nonlinear op args => cases scalar
  | var v =>
    cases h
    exact FloatLaws.add_neg_self finite
  | linear a =>
    cases h
    exact FloatLaws.add_neg_self finite
  | quadratic a =>
    cases h
    -- a quadratic expression is subtracted by adding it with the factor minus one
    show (a.linear.constant + -1 * a.linear.constant == 0) = true
    rw [FloatLaws.neg_one_mul]
    exact FloatLaws.add_neg_self finite

/-- The function of a scalar set has a finite constant if the operand is finite. -/
theorem Operand.constantPart_isFinite {o : Operand Number Float} {s : ConstraintSet Number}
    {e : Expression Number Float} (finite : o.IsFinite) (h : o.scalarFunction s = .ok e) :
    e.constantPart.isFinite = true := by
  unfold scalarFunction at h
  split at h
  next n =>
    obtain ⟨c, hc, h⟩ := bind_eq_ok.1 h
    cases h
    obtain ⟨x, hx, bounded⟩ := finite.numbers n (List.mem_singleton_self n)
    have same : n.toFloat = .ok c := mapError_eq_ok.1 (mapError_eq_ok.1 hc)
    cases same.symm.trans hx
    exact bounded
  next e =>
    split at h
    next =>
      cases h
      exact finite.constantPart
    next => cases h
  next => cases h

namespace ConstraintSet

/-- Moving the constant leaves a function that the set stores. -/
theorem stores_fitScalar {s t : ConstraintSet Number} {e e' : Expression Number Float}
    (kind : s.kind = .scalar) (scalar : e.isScalarFunction)
    (finite : e.constantPart.isFinite = true) (h : s.fitScalar e = .ok (e', t)) :
    t.Stores (.scalar e') := by
  unfold fitScalar at h
  split at h
  next kept =>
    cases h
    refine stores_scalar kind fun shiftable => ?_
    simpa [shiftable] using kept
  next =>
    obtain ⟨difference, hd, h⟩ := bind_eq_ok.1 h
    obtain ⟨moved, hm, h⟩ := bind_eq_ok.1 h
    cases h
    -- the constant is gone, so it does not matter whether the new set could take one
    refine stores_scalar ((kind_shifted (mapError_eq_ok.1 hm)).trans kind) fun _ => ?_
    exact Expression.constantPart_sub scalar finite (mapError_eq_ok.1 hd)

/-! ## Dimensions -/

/-- A set that has taken the size of a function has exactly that dimension. -/
theorem dimension?_withDimension {s t : ConstraintSet Number} {n : Nat}
    (vector : s.kind ≠ .scalar) (h : s.withDimension n = .ok t) :
    t.kind = s.kind ∧ ∃ d, t.dimension? = some d ∧ Numeral.isInt d n = true := by
  cases (withDimension_eq_ok_iff vector).1 h with
  | given _ size agrees => exact ⟨rfl, _, size, agrees⟩
  | cone cone => exact ⟨rfl, _, rfl, Number.isInt_integer_iff.2 rfl⟩
  | side layout side size =>
    refine ⟨rfl, _, dimension?_integer layout side, ?_⟩
    rw [size]
    exact Number.isInt_integer_iff.2 rfl

/-! ## Fitted functions -/

/-- What fits a set is stored by it. -/
theorem stores_fit {s t : ConstraintSet Number} {o : Operand Number Float}
    {f : ConstraintFunction Number Float} (finite : o.IsFinite) (h : s.fit o = .ok (f, t)) :
    t.Stores f := by
  unfold fit at h
  split at h
  next scalar =>
    obtain ⟨e, he, h⟩ := bind_eq_ok.1 h
    obtain ⟨⟨e', moved⟩, hf, h⟩ := bind_eq_ok.1 h
    cases h
    exact stores_fitScalar scalar (Operand.isScalarFunction_of_scalarFunction he)
      (Operand.constantPart_isFinite finite he) hf
  next vector =>
    obtain ⟨items, -, h⟩ := bind_eq_ok.1 h
    obtain ⟨entries, -, h⟩ := bind_eq_ok.1 h
    obtain ⟨sized, hs, h⟩ := bind_eq_ok.1 h
    cases h
    obtain ⟨kind, d, dimension, agrees⟩ := dimension?_withDimension vector (mapError_eq_ok.1 hs)
    exact stores_vector (kind ▸ vector) dimension agrees

end ConstraintSet

end MathProg
