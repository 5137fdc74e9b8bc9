import MathProg.Proofs.Number.Rounding

/-!
# Exact values of numbers

An integer and a finite float stand for a rational number, and an infinite float for an infinity.
Two numbers are equal exactly if they stand for the same, a float that is not a number aside.
-/

namespace MathProg

open Binary64 FloatLaws

/-- What a number stands for. -/
inductive ExactValue where
  | finite (q : ℚ)
  | infinite (negative : Bool)
  /-- What a float stands for that is not a number. -/
  | undefined
deriving DecidableEq

/-- What decoded bits stand for. -/
def Binary64.Value.exact : Value → ExactValue
  | .notANumber => .undefined
  | .infinite negative => .infinite negative
  | .finite negative m e => .finite ((if negative then -(m : ℚ) else m) * 2 ^ e)

namespace ExactValue

def ofFloat (x : Float) : ExactValue :=
  (decode x).exact

end ExactValue

namespace Number

/-- What a number stands for. -/
def exact : Number → ExactValue
  | integer n => .finite n
  | real x => .ofFloat x

/-- Whether a number is a float that is not a number. -/
def isNaN : Number → Bool
  | integer _ => false
  | real x => x.isNaN

end Number

namespace FloatLaws

open Float.Model Float.Model.UnpackedFloat

/-- A significand and an exponent in normal form are known by their product. -/
theorem Normal.unique {m n : Nat} {e f : Int} (hm : Normal m e) (hn : Normal n f)
    (same : (m : ℚ) * 2 ^ e = n * 2 ^ f) : m = n ∧ e = f := by
  have exponentOf {m : Nat} {e : Int} (h : Normal m e) : ExponentOf (m * 2 ^ e) e := by
    refine ⟨h.exponent_ge, ?_, h.full.imp_left fun full => ?_⟩
    · gcongr
      exact_mod_cast h.lt
    · gcongr
      exact_mod_cast full
  obtain rfl : e = f := (exponentOf hm).unique (same ▸ exponentOf hn)
  have power : (2 : ℚ) ^ e ≠ 0 := zpow_ne_zero e two_ne_zero
  exact ⟨by exact_mod_cast mul_right_cancel₀ power same, rfl⟩

/-- A signed magnitude is known by its value: neither is zero, and the signs do not change that. -/
theorem exact_finite_injective {s t : Bool} {m n : Nat} {e f : Int} (hm : Normal m e)
    (hn : Normal n f) (same : (Value.finite s m e).exact = (Value.finite t n f).exact) :
    s = t ∧ m = n ∧ e = f := by
  have left : (0 : ℚ) < m * 2 ^ e := mul_pos (by exact_mod_cast hm.pos) (zpow_pos two_pos e)
  have right : (0 : ℚ) < n * 2 ^ f := mul_pos (by exact_mod_cast hn.pos) (zpow_pos two_pos f)
  simp only [Value.exact, ExactValue.finite.injEq] at same
  cases s <;> cases t <;> simp only [Bool.false_eq_true, if_true, if_false, neg_mul] at same
  · exact ⟨rfl, hm.unique hn same⟩
  · linarith
  · linarith
  · exact ⟨rfl, hm.unique hn (neg_inj.1 same)⟩

/-- What a zero stands for does not depend on its sign. -/
theorem exact_zero (s : UnpackedFloat.Sign) : (valueOf (.zero s)).exact = .finite 0 := by
  cases s <;> simp [valueOf, Value.exact]

theorem exact_finite_ne_zero {s : UnpackedFloat.Sign} {m : Nat} {e : Int} (h : Normal m e) :
    (valueOf (.finite s m e h.pos)).exact ≠ .finite 0 := by
  have power : (2 : ℚ) ^ e ≠ 0 := zpow_ne_zero e two_ne_zero
  have magnitude : (m : ℚ) ≠ 0 := by exact_mod_cast h.pos.ne'
  cases s <;> simp [valueOf, Value.exact, power, magnitude]

theorem unsigned_eq_iff {u v : UnpackedFloat} (hu : Datum u) (hv : Datum v) :
    unsigned u = unsigned v ↔ (valueOf u).exact = (valueOf v).exact := by
  cases hu with
  | infinity s =>
    cases hv with
    | infinity t => cases s <;> cases t <;> simp [unsigned, valueOf, Value.exact]
    | _ => simp [unsigned, valueOf, Value.exact]
  | notANumber => cases hv <;> simp [unsigned, valueOf, Value.exact]
  | zero s =>
    rw [exact_zero]
    cases hv with
    | zero t => simp [unsigned, exact_zero]
    | finite t n f h => simpa [unsigned] using (exact_finite_ne_zero h).symm
    | _ => simp [unsigned, valueOf, Value.exact]
  | finite s m e h =>
    cases hv with
    | zero t =>
      rw [exact_zero]
      simpa [unsigned] using exact_finite_ne_zero h
    | finite t n f k =>
      constructor
      · intro same
        simp only [unsigned, UnpackedFloat.finite.injEq] at same
        obtain ⟨rfl, rfl, rfl⟩ := same
        rfl
      · intro same
        obtain ⟨sign, rfl, rfl⟩ := exact_finite_injective h k same
        cases s <;> cases t <;> first | rfl | cases sign
    | _ => simp [unsigned, valueOf, Value.exact]

theorem isNaN_iff (x : Float) : x.isNaN = true ↔ x.toModel.unpack = .notANumber := by
  change x.toModel.unpack.isNaN = true ↔ _
  cases x.toModel.unpack <;> simp [UnpackedFloat.isNaN]

/-- Floats that are numbers are equal if they stand for the same. -/
theorem beq_iff_exact {x : Float} (number : x.isNaN = false) (y : Float) :
    (x == y) = true ↔ ExactValue.ofFloat x = .ofFloat y := by
  have known : x.toModel.unpack ≠ .notANumber := fun none =>
    Bool.false_ne_true (number.symm.trans ((isNaN_iff x).2 none))
  rw [beq_def, beq_iff, and_iff_left known, unsigned_eq_iff (datum x) (datum y), ExactValue.ofFloat,
    ExactValue.ofFloat, decode_eq, decode_eq]

/-- A float is compared with an integer by what it stands for. -/
theorem compareReal_eq_iff (x : Float) (n : Int) :
    (Number.compareReal x n == some .eq) = true ↔ ExactValue.ofFloat x = .finite n := by
  rw [beq_iff_eq, Number.compareReal, ExactValue.ofFloat]
  cases decode x with
  | notANumber => simp [Value.exact]
  | infinite negative => cases negative <;> simp [Value.exact]
  | finite negative m e =>
    have power := pow_toNat (b := 2) two_ne_zero e
    have down : (2 : ℚ) ^ (-e).toNat ≠ 0 := pow_ne_zero _ two_ne_zero
    simp only [scaleByTwo, Value.exact, Option.some.injEq, compare_eq_iff_eq,
      ExactValue.finite.injEq]
    -- both sides are divided by the power of two that clears the negative exponent
    have scaled (k : Int) : k * (pow2 e.toNat : Int) = n * (pow2 (-e).toNat : Int) ↔
        (k : ℚ) * 2 ^ e = n := by
      rw [← mul_left_inj' down, mul_assoc, ← power, ← cast_pow2, ← cast_pow2]
      exact_mod_cast Iff.rfl
    cases negative with
    | false => simpa using scaled m
    | true => simpa using scaled (-m)

end FloatLaws

namespace Number

/-- Numbers are equal exactly if they stand for the same. -/
theorem beq_iff_exact {m n : Number} (hm : m.isNaN = false) (hn : n.isNaN = false) :
    (m == n) = true ↔ m.exact = n.exact := by
  cases m with
  | integer m =>
    cases n with
    | integer n =>
      change (m == n) = true ↔ ExactValue.finite m = .finite n
      simp
    | real y => exact (compareReal_eq_iff y m).trans eq_comm
  | real x =>
    cases n with
    | integer n => exact compareReal_eq_iff x n
    | real y => exact FloatLaws.beq_iff_exact hm y

end Number

end MathProg
