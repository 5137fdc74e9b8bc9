import MathProg.Config.Arithmetic
import MathProg.Proofs.Fallible
import MathProg.Proofs.Formula.TreeValue

/-!
# What arithmetic comes to

The value of a formula over named numbers is that of its operations on the values of their operands.
A formula has no value if it is no arithmetic, if a name of it stands for no number, or if one of its
operations fails. All names of a formula with a value are read, so it does not depend on others, and
its value is real unless some power in it is not.
-/

namespace MathProg

open Fallible

/-! ## Operations that leave the real numbers -/

/-- Whether a power of two numbers is not real: a negative number to a fraction. -/
def Number.HasComplexPower (m n : Number) : Prop :=
  ∃ x y : Float, m.operand = .ok x ∧ n.operand = .ok y ∧ x < 0.0 ∧ (y == y.floor) = false

theorem FloatArithmetic.pow_complex {x y : Float} {z : Complex}
    (h : FloatArithmetic.pow x y = .ok (.complex z)) : x < 0.0 ∧ (y == y.floor) = false := by
  unfold FloatArithmetic.pow at h
  simp only at h
  repeat' split at h
  all_goals cases h
  -- only the branch for a negative base and a fraction is left
  next fraction _ _ => simpa [bne] using fraction

theorem Number.applyFloat_complex {op : ArithmeticOp} {x y : Float} {z : Complex}
    (h : Number.applyFloat op x y = .ok (.complex z)) :
    op = .pow ∧ x < 0.0 ∧ (y == y.floor) = false := by
  cases op with
  | pow => exact ⟨rfl, FloatArithmetic.pow_complex h⟩
  | add | sub | mul => cases h
  | div | floorDiv | mod =>
    unfold applyFloat at h
    simp only at h
    split at h <;> cases h

theorem Number.applyInt_complex {op : ArithmeticOp} {m n : Int} {z : Complex}
    (h : Number.applyInt op m n = .ok (.complex z)) :
    op = .pow ∧ (Number.integer m).HasComplexPower (.integer n) := by
  unfold applyInt at h
  cases op with
  | pow =>
    simp only at h
    split at h
    · obtain ⟨k, -, h⟩ := bind_eq_ok.1 h
      cases h
    · -- a negative exponent is the only one for which the operands become floats
      obtain ⟨x, hx, h⟩ := bind_eq_ok.1 h
      obtain ⟨y, hy, h⟩ := bind_eq_ok.1 h
      exact ⟨rfl, x, y, hx, hy, FloatArithmetic.pow_complex h⟩
  | div =>
    obtain ⟨x, -, h⟩ := bind_eq_ok.1 h
    cases h
  | add | sub | mul => cases h
  | floorDiv | mod =>
    simp only at h
    split at h <;> cases h

/-- Of two numbers only a power can be complex. -/
theorem Number.apply_complex {op : ArithmeticOp} {m n : Number} {z : Complex}
    (h : Number.apply op m n = .ok (.complex z)) : op = .pow ∧ m.HasComplexPower n := by
  unfold Number.apply at h
  split at h
  next m n => exact applyInt_complex h
  next =>
    obtain ⟨x, hx, h⟩ := bind_eq_ok.1 h
    obtain ⟨y, hy, h⟩ := bind_eq_ok.1 h
    obtain ⟨power, complex⟩ := applyFloat_complex h
    exact ⟨power, x, y, hx, hy, complex⟩

theorem Number.operand_ne_complexOperand {n : Number} : n.operand ≠ .error .complexOperand := by
  unfold Number.operand
  cases n.toFloat <;> simp

theorem FloatArithmetic.pow_ne_complexOperand {x y : Float} :
    FloatArithmetic.pow x y ≠ .error .complexOperand := by
  unfold FloatArithmetic.pow
  simp only
  repeat' split
  all_goals simp

/-- Two numbers are never refused for not being real. -/
theorem Number.apply_ne_complexOperand {op : ArithmeticOp} {m n : Number} :
    Number.apply op m n ≠ .error .complexOperand := by
  have binds {α β : Type} {x : Except ArithmeticError α} {f : α → Except ArithmeticError β}
      (first : x ≠ .error .complexOperand) (next : ∀ a, f a ≠ .error .complexOperand) :
      x >>= f ≠ .error .complexOperand := by
    intro h
    rcases bind_eq_error.1 h with h | ⟨a, -, h⟩
    · exact first h
    · exact next a h
  have floats : (do
      let x ← m.operand
      let y ← n.operand
      applyFloat op x y) ≠ .error .complexOperand := by
    refine binds operand_ne_complexOperand fun x => binds operand_ne_complexOperand fun y => ?_
    cases op with
    | pow => exact FloatArithmetic.pow_ne_complexOperand
    | add | sub | mul => simp [applyFloat]
    | div | floorDiv | mod =>
      unfold applyFloat
      simp only
      split <;> simp
  unfold Number.apply
  split
  next m n =>
    unfold applyInt
    cases op with
    | pow =>
      simp only
      split
      · refine binds ?_ fun k => by simp
        unfold powInt
        repeat' split
        all_goals simp
      -- a negative exponent makes floats of integers
      · exact binds operand_ne_complexOperand fun x => binds operand_ne_complexOperand fun y =>
          FloatArithmetic.pow_ne_complexOperand
    | div =>
      refine binds ?_ fun x => by simp [pure, Except.pure]
      unfold divInt
      split
      · simp
      · simp only
        split <;> simp
    | add | sub | mul => simp
    | floorDiv | mod =>
      simp only
      split <;> simp
  next => exact floats

namespace Formula.Tree

variable {names names' : Table} {t l r : Tree} {x y z q : Quantity} {e : ArithmeticError}

/-! ## Values and failures -/

/-- What a formula comes to, each name having the number that it stands for in a table. -/
inductive Computes (names : Table) : Tree → Quantity → Prop where
  | number (literal : Literal) : Computes names (.number literal) (.number (.ofLiteral literal))
  | name {id : String} {n : Number} : names.get? id = some (.number n) →
      Computes names (.name id) (.number n)
  | binary {op : BinaryOp} {o : ArithmeticOp} {l r : Tree} {x y z : Quantity} :
      op.arithmetic? = some o → Computes names l x → Computes names r y → x.apply o y = .ok z →
      Computes names (.binary op l r) z
  | plus {t : Tree} {x : Quantity} : Computes names t x → Computes names (.unary .plus t) x
  | minus {t : Tree} {x : Quantity} : Computes names t x → Computes names (.unary .minus t) x.neg

/-- How arithmetic ends in a failure: with the first operation that has operands and no result. -/
inductive Fails (names : Table) : Tree → ArithmeticError → Prop where
  | operation {op : BinaryOp} {o : ArithmeticOp} {l r : Tree} {x y : Quantity}
      {e : ArithmeticError} : op.arithmetic? = some o → Computes names l x → Computes names r y →
      x.apply o y = .error e → Fails names (.binary op l r) e
  | left {op : BinaryOp} {o : ArithmeticOp} {l r : Tree} {e : ArithmeticError} :
      op.arithmetic? = some o → Fails names l e → Fails names (.binary op l r) e
  | right {op : BinaryOp} {o : ArithmeticOp} {l r : Tree} {x : Quantity} {e : ArithmeticError} :
      op.arithmetic? = some o → Computes names l x → Fails names r e →
      Fails names (.binary op l r) e
  | plus {t : Tree} {e : ArithmeticError} : Fails names t e → Fails names (.unary .plus t) e
  | minus {t : Tree} {e : ArithmeticError} : Fails names t e → Fails names (.unary .minus t) e

theorem number?_eq_some {d : Data} {n : Number} : d.number? = some n ↔ d = .number n := by
  cases d <;> simp [Data.number?]

theorem value_name_eq_ok {id : String} :
    (name id).value names = .ok q ↔ ∃ n, names.get? id = some (.number n) ∧ q = .number n := by
  rw [value]
  cases names.get? id with
  | none => simp
  | some d => cases d <;> simp [Data.number?, eq_comm]

/-- The value of a formula is what it comes to. -/
theorem value_eq_ok : t.value names = .ok q ↔ t.Computes names q := by
  constructor
  · intro h
    fun_induction value names t generalizing q with
    | case1 literal =>
      obtain rfl := Except.ok.inj h
      exact .number literal
    | case4 id d found n number =>
      obtain rfl := Except.ok.inj h
      exact .name (found.trans (congrArg some (number?_eq_some.1 number)))
    | case7 op l r o arithmetic left right =>
      obtain ⟨x, hx, h⟩ := bind_eq_ok.1 h
      obtain ⟨y, hy, h⟩ := bind_eq_ok.1 h
      exact .binary arithmetic (left hx) (right hy) (mapError_eq_ok.1 h)
    | case8 t operand => exact .plus (operand h)
    | case9 t operand =>
      obtain ⟨x, hx, h⟩ := bind_eq_ok.1 h
      obtain rfl := pure_eq_ok.1 h
      exact .minus (operand hx)
    | _ => cases h
  · intro h
    induction h with
    | number literal => rfl
    | name found => exact value_name_eq_ok.2 ⟨_, found, rfl⟩
    | binary arithmetic _ _ applied left right =>
      rw [value, arithmetic]
      exact bind_eq_ok.2 ⟨_, left, bind_eq_ok.2 ⟨_, right, mapError_eq_ok.2 applied⟩⟩
    | plus _ operand => rw [value, operand]
    | minus _ operand => rw [value, operand]; rfl

/-- Arithmetic fails in a formula exactly if one of its operations does. -/
theorem value_eq_arithmetic : t.value names = .error (.arithmetic e) ↔ t.Fails names e := by
  constructor
  · intro h
    fun_induction value names t with
    | case7 op l r o arithmetic left right =>
      rcases bind_eq_error.1 h with h | ⟨x, hx, h⟩
      · exact .left arithmetic (left h)
      · rcases bind_eq_error.1 h with h | ⟨y, hy, h⟩
        · exact .right arithmetic (value_eq_ok.1 hx) (right h)
        · obtain ⟨e', failed, same⟩ := mapError_eq_error.1 h
          obtain rfl := EvaluationError.arithmetic.inj same
          exact .operation arithmetic (value_eq_ok.1 hx) (value_eq_ok.1 hy) failed
    | case8 t operand => exact .plus (operand h)
    | case9 t operand =>
      rcases bind_eq_error.1 h with h | ⟨x, -, h⟩
      · exact .minus (operand h)
      · cases h
    | _ => cases h
  · intro h
    induction h with
    | operation arithmetic left right failed =>
      rw [value, arithmetic]
      exact bind_eq_error.2 (.inr ⟨_, value_eq_ok.2 left, bind_eq_error.2 (.inr
        ⟨_, value_eq_ok.2 right, mapError_eq_error.2 ⟨_, failed, rfl⟩⟩)⟩)
    | left arithmetic _ left =>
      rw [value, arithmetic]
      exact bind_eq_error.2 (.inl left)
    | right arithmetic left _ right =>
      rw [value, arithmetic]
      exact bind_eq_error.2 (.inr ⟨_, value_eq_ok.2 left, bind_eq_error.2 (.inl right)⟩)
    | plus _ operand => rw [value, operand]
    | minus _ operand => rw [value, operand]; rfl

theorem Computes.unique (h : t.Computes names x) (h' : t.Computes names y) : x = y :=
  Except.ok.inj ((value_eq_ok.2 h).symm.trans (value_eq_ok.2 h'))

/-! ## Names -/

/-- All names of a formula with a value stand for numbers. -/
theorem Computes.exists_number (h : t.Computes names q) {id : String}
    (inside : t.Contains (.name id)) : ∃ n, names.get? id = some (.number n) := by
  induction h with
  | number literal => cases inside
  | name found =>
    cases inside with
    | self => exact ⟨_, found⟩
  | binary _ _ _ _ left right =>
    cases inside with
    | left inside => exact left inside
    | right inside => exact right inside
  | plus _ operand | minus _ operand =>
    cases inside with
    | operand inside => exact operand inside

/-- The value of a formula depends on the names in it alone. -/
theorem Computes.congr (h : t.Computes names q)
    (same : ∀ id, t.Contains (.name id) → names.get? id = names'.get? id) :
    t.Computes names' q := by
  induction h with
  | number literal => exact .number literal
  | name found => exact .name ((same _ (.self _)).symm.trans found)
  | binary arithmetic _ _ applied left right =>
    exact .binary arithmetic (left fun id inside => same id (.left inside))
      (right fun id inside => same id (.right inside)) applied
  | plus _ operand => exact .plus (operand fun id inside => same id (.operand inside))
  | minus _ operand => exact .minus (operand fun id inside => same id (.operand inside))

/-! ## Real values -/

/-- Whether a power in a formula is not real although base and exponent are. -/
def HasComplexPower (names : Table) (t : Tree) : Prop :=
  ∃ l r m n, t.Contains (.binary .pow l r) ∧ l.Computes names (.number m) ∧
    r.Computes names (.number n) ∧ m.HasComplexPower n

theorem HasComplexPower.of_part {s : Tree} (h : s.HasComplexPower names)
    (inside : ∀ u, s.Contains u → t.Contains u) : t.HasComplexPower names := by
  obtain ⟨l, r, m, n, within, rest⟩ := h
  exact ⟨l, r, m, n, inside _ within, rest⟩

/-- A value that is not real comes from a power that is not. -/
theorem Computes.hasComplexPower {z : Complex} (h : t.Computes names (.complex z)) :
    t.HasComplexPower names := by
  generalize same : Quantity.complex z = q at h
  induction h generalizing z with
  | number literal => cases same
  | name found => cases same
  | @binary op o l r x y _ arithmetic hl hr applied left right =>
    subst same
    cases x with
    | complex u =>
      exact (left rfl).of_part fun _ => .left
    | number m =>
      cases y with
      | complex u =>
        exact (right rfl).of_part fun _ => .right
      | number n =>
        obtain ⟨rfl, complex⟩ := Number.apply_complex applied
        have power : op = .pow := by cases op <;> simp_all [BinaryOp.arithmetic?]
        subst power
        exact ⟨l, r, m, n, .self _, hl, hr, complex⟩
  | plus _ operand =>
    exact (operand same).of_part fun _ => .operand
  | @minus t x _ operand =>
    cases x with
    | number n => cases same
    | complex u =>
      exact (operand rfl).of_part fun _ => .operand

/-- Only numbers that come from such a power are refused for not being real. -/
theorem Fails.hasComplexPower (h : t.Fails names .complexOperand) : t.HasComplexPower names := by
  generalize same : ArithmeticError.complexOperand = e at h
  induction h with
  | @operation op o l r x y e arithmetic left right failed =>
    subst same
    cases x with
    | complex u =>
      exact left.hasComplexPower.of_part fun _ => .left
    | number m =>
      cases y with
      | complex u =>
        exact right.hasComplexPower.of_part fun _ => .right
      | number n => exact absurd failed Number.apply_ne_complexOperand
  | left _ _ ih =>
    exact (ih same).of_part fun _ => .left
  | right _ _ _ ih =>
    exact (ih same).of_part fun _ => .right
  | plus _ ih | minus _ ih =>
    exact (ih same).of_part fun _ => .operand

end Formula.Tree

end MathProg
