import MathProg.Model.Fit
import MathProg.Proofs.Fallible

/-!
# What fitting leaves

A function that has been fitted to a set is a variable or an affine or quadratic expression, or a
vector of variables and affine expressions. Nothing else is ever stored in a model.
-/

namespace MathProg

open Fallible

variable {N K : Type}

/-- What may stand in a vector: a variable or an affine expression. -/
def Expression.isEntry : Expression N K → Bool
  | .var _ => true
  | .linear _ => true
  | _ => false

/-- What may be stored as the left side of a constraint. -/
def ConstraintFunction.IsFitted : ConstraintFunction N K → Prop
  | scalar e => e.isScalarFunction
  | vector es => ∀ e ∈ es, e.isEntry

/-! ## Entries and scalar functions -/

variable [Numeral N K]

/-- The difference to a number is as affine or quadratic as the expression is. -/
theorem Expression.isScalarFunction_sub [Zero K] [One K] [Add K] [Mul K] [Neg K]
    {e e' : Expression N K} {n : N} (h : e.sub (.number n) = .ok e')
    (scalar : e.isScalarFunction) : e'.isScalarFunction := by
  cases e with
  | number n => cases scalar
  | nonlinear op args => cases scalar
  | _ =>
    obtain ⟨c, -, h⟩ := bind_eq_ok.1 h
    cases h
    rfl

theorem Operand.isScalarFunction_of_scalarFunction {o : Operand N K} {s : ConstraintSet N}
    {e : Expression N K} (h : o.scalarFunction s = .ok e) : e.isScalarFunction := by
  unfold scalarFunction at h
  split at h
  next =>
    obtain ⟨c, -, h⟩ := bind_eq_ok.1 h
    cases h
    rfl
  next =>
    split at h
    next scalar =>
      cases h
      exact scalar
    next => cases h
  next => cases h

theorem Operand.isEntry_of_vectorEntry {o : Operand N K} {e : Expression N K}
    (h : o.vectorEntry = .ok e) : e.isEntry := by
  unfold vectorEntry at h
  split at h
  next =>
    obtain ⟨c, -, h⟩ := bind_eq_ok.1 h
    cases h
    rfl
  next => cases h; rfl
  next => cases h; rfl
  next => cases h

/-- What may stand in a vector is stored there as it is. -/
theorem Operand.mapM_vectorEntry {es : List (Expression N K)} (entries : ∀ e ∈ es, e.isEntry) :
    (es.map Operand.expression).mapM Operand.vectorEntry = .ok es := by
  rw [mapM_eq_ok, List.forall₂_map_left_iff, List.forall₂_same]
  intro e mem
  have entry := entries e mem
  cases e with
  | var | linear => rfl
  | number | quadratic | nonlinear => cases entry

omit [Numeral N K] in
theorem Operand.mapM_row (m : Nat) (rows : List (List (Operand N K))) :
    (rows.map (Operand.array [m])).mapM Operand.row? = some rows := by
  induction rows with
  | nil => rfl
  | cons row rows ih => simp [List.mapM_cons, Operand.row?, ih]

/-! ## Fitted functions -/

namespace ConstraintSet

variable [Zero K] [One K] [Add K] [Mul K] [Neg K] [BEq K]

theorem isScalarFunction_fitScalar {s s' : ConstraintSet N} {e e' : Expression N K}
    (h : s.fitScalar e = .ok (e', s')) (scalar : e.isScalarFunction) : e'.isScalarFunction := by
  unfold fitScalar at h
  split at h
  next =>
    cases h
    exact scalar
  next =>
    obtain ⟨difference, hd, h⟩ := bind_eq_ok.1 h
    obtain ⟨moved, -, h⟩ := bind_eq_ok.1 h
    cases h
    exact Expression.isScalarFunction_sub (mapError_eq_ok.1 hd) scalar

theorem fit_scalar {s t : ConstraintSet N} (scalar : s.kind = .scalar)
    {e e' : Expression N K} {o : Operand N K} (function : o.scalarFunction s = .ok e)
    (fits : s.fitScalar e = .ok (e', t)) : s.fit o = .ok (.scalar e', t) := by
  unfold ConstraintSet.fit
  rw [scalar]
  simp only [function, bind, Except.bind, fits]
  rfl

/-- A scalar function without a constant is stored as it is. -/
theorem fit_of_constantPart {s : ConstraintSet N} (scalar : s.kind = .scalar) {e : Expression N K}
    {o : Operand N K} (function : o.scalarFunction s = .ok e)
    (zero : (e.constantPart == 0) = true) : s.fit o = .ok (.scalar e, s) :=
  fit_scalar scalar function (by simp [fitScalar, zero])

/-- What fits a set may be stored. -/
theorem isFitted_fit {s s' : ConstraintSet N} {o : Operand N K} {f : ConstraintFunction N K}
    (h : s.fit o = .ok (f, s')) : f.IsFitted := by
  unfold fit at h
  split at h
  next =>
    obtain ⟨e, he, h⟩ := bind_eq_ok.1 h
    obtain ⟨⟨e', moved⟩, hf, h⟩ := bind_eq_ok.1 h
    cases h
    exact isScalarFunction_fitScalar hf (Operand.isScalarFunction_of_scalarFunction he)
  next =>
    obtain ⟨items, -, h⟩ := bind_eq_ok.1 h
    obtain ⟨entries, he, h⟩ := bind_eq_ok.1 h
    obtain ⟨sized, -, h⟩ := bind_eq_ok.1 h
    cases h
    intro e hmem
    obtain ⟨o, -, entry⟩ := exists_of_mem_right (mapM_eq_ok.1 he) hmem
    exact Operand.isEntry_of_vectorEntry entry

end ConstraintSet

end MathProg
