import Mathlib
import MathProg.Number.Basic
import MathProg.Proofs.Terms

/-!
# Laws of the floats

Three laws are enough for all that is proved of models over floats: adding to zero changes nothing
but the negative zero, a product with one is its other factor, and a finite float equals itself. They
are read off the bits: a float is unpacked into sign, significand and exponent, and packed again.
-/

namespace MathProg.FloatLaws

open Float.Model Float.Model.UnpackedFloat

abbrev format : Format := Format.binary64

/-! ## Packing and unpacking -/

theorem packComponents_unpack (b : BitVec format.numBits) :
    packComponents format (UnpackedFloat.Sign.ofBitVec (unpackSign b)) (unpackExponent b) (unpackMantissa b)
      = b := by
  have hsign : ∀ c : BitVec 1, (UnpackedFloat.Sign.ofBitVec c).toBitVec = c := by decide
  unfold packComponents
  rw [hsign]
  apply BitVec.eq_of_getLsbD_eq
  intro i hi
  simp only [unpackSign, unpackExponent, unpackMantissa, BitVec.getLsbD_append, BitVec.getLsbD_cast,
    BitVec.getLsbD_extractLsb]
  simp only [Nat.reduceAdd] at hi ⊢
  by_cases hm : i < 52
  · simp [hm]
  · by_cases he : i - 52 < 11
    · simp [hm, he, show 52 + (i - 52) = i by omega]
    · simp [hm, he, show 63 + (i - 52 - 11) = i by omega]
      intro; omega

theorem append_one (m : BitVec 52) : (1#1 ++ m).toNat = 2 ^ 52 + m.toNat := by
  rw [BitVec.toNat_append, ← Nat.shiftLeft_add_eq_or_of_lt m.isLt]
  simp [Nat.shiftLeft_eq]

/-- What the magnitude of a float can be: its significand fits, and only the least exponent goes
with a short one. -/
structure Normal (m : Nat) (e : Int) : Prop where
  pos : 0 < m
  lt : m < 2 ^ 53
  exponent_ge : -1074 ≤ e
  exponent_lt : e < 972
  full : 2 ^ 52 ≤ m ∨ e = -1074

/-- The datum of a float: nothing but a finite magnitude is restricted. -/
inductive Datum : UnpackedFloat → Prop
  | infinity (s : UnpackedFloat.Sign) : Datum (.infinity s)
  | notANumber : Datum .notANumber
  | zero (s : UnpackedFloat.Sign) : Datum (.zero s)
  | finite (s : UnpackedFloat.Sign) (m : Nat) (e : Int) (h : Normal m e) : Datum (.finite s m e h.pos)

theorem datum_unpack (b : BitVec format.numBits) : Datum (UnpackedFloat.unpack format b) := by
  have hm : (unpackMantissa b).toNat < 2 ^ 52 := (unpackMantissa b).isLt
  have he : (unpackExponent b).toNat < 2 ^ 11 := (unpackExponent b).isLt
  unfold UnpackedFloat.unpack
  simp only
  split_ifs with h1 h2 h3 h4
  · exact .infinity _
  · exact .notANumber
  · exact .zero _
  · have hpos : 0 < (unpackMantissa b).toNat := by
      rw [BitVec.toNat_pos, BitVec.pos_iff_ne_zero]
      exact h4
    refine .finite _ _ _ ⟨hpos, by omega, ?_, ?_, .inr ?_⟩ <;>
      rw [h3] <;> simp [Format.exponentBias]
  · have hne : (unpackExponent b).toNat ≠ 0 := fun h => h3 (BitVec.eq_of_toNat_eq h)
    have hnf : (unpackExponent b).toNat ≠ 2047 := fun h => h1 (BitVec.eq_of_toNat_eq h)
    have hlen : (1#1 ++ unpackMantissa b).toNat = 2 ^ 52 + (unpackMantissa b).toNat := append_one _
    refine .finite _ _ _ ⟨by omega, by omega, ?_, ?_, .inl (by omega)⟩ <;>
      simp [Format.exponentBias] <;> omega

theorem pack_unpack_bits (b : BitVec format.numBits) (valid : format.Valid b) :
    UnpackedFloat.pack format (UnpackedFloat.unpack format b) = b := by
  have hm : (unpackMantissa b).toNat < 2 ^ 52 := (unpackMantissa b).isLt
  have he : (unpackExponent b).toNat < 2 ^ 11 := (unpackExponent b).isLt
  have whole := packComponents_unpack b
  unfold UnpackedFloat.unpack
  simp only
  split_ifs with h1 h2 h3 h4
  · -- an infinity
    rw [h1, h2] at whole
    exact whole
  · -- not a number: only one such pattern is valid
    exact (valid.eq_packedNaN h1 h2).symm
  · -- a zero
    rw [h3, h4] at whole
    exact whole
  · -- a subnormal number, whose significand keeps its leading zeros
    have hpos : (unpackMantissa b).toNat ≠ 0 := fun h => h4 (BitVec.eq_of_toNat_eq h)
    have hlog : (unpackMantissa b).toNat.log2 < 52 := (Nat.log2_lt hpos).2 hm
    rw [h3] at whole
    simp [UnpackedFloat.pack, h3, Format.exponentBias, Format.mantissaBits, whole]
    omega
  · -- a normal number, whose leading one is taken off again
    have hne : (unpackExponent b).toNat ≠ 0 := fun h => h3 (BitVec.eq_of_toNat_eq h)
    have hnf : (unpackExponent b).toNat ≠ 2047 := fun h => h1 (BitVec.eq_of_toNat_eq h)
    have hlen : (1#1 ++ unpackMantissa b).toNat = 2 ^ 52 + (unpackMantissa b).toNat := append_one _
    have hlog : (1#1 ++ unpackMantissa b).toNat.log2 = 52 := by
      rw [Nat.log2_eq_iff (by omega)]
      omega
    have hexp : (((unpackExponent b).toNat : Int) - 1075 + 1023 + 52).toNat
        = (unpackExponent b).toNat := by
      omega
    simp [UnpackedFloat.pack, Format.exponentBias, Format.mantissaBits, hlog, hexp]
    rw [if_neg (by omega)]
    have hmant : (1#1 ++ unpackMantissa b).setWidth 52 = unpackMantissa b := by
      apply BitVec.eq_of_toNat_eq
      rw [BitVec.toNat_setWidth, hlen]
      omega
    exact (congrArg _ hmant).trans whole

/-- Packing gives back the float that was unpacked. -/
theorem pack_unpack (x : Float) : Float.ofModel (.pack x.toModel.unpack) = x := by
  obtain ⟨bits, valid⟩ := x
  simp only [Float.Model.pack, Float.Model.unpack, pack_unpack_bits _ valid,
    UInt64.ofBitVec_toBitVec]

theorem datum (x : Float) : Datum x.toModel.unpack :=
  datum_unpack _

theorem unpack_zero : (0 : Float).toModel.unpack = .zero .positive := by
  rfl

theorem unpack_one : (1 : Float).toModel.unpack = .finite .positive (2 ^ 52) (-52) (by decide) := by
  rfl

theorem add_def (x y : Float) :
    x + y = .ofModel (.pack (UnpackedFloat.add format x.toModel.unpack y.toModel.unpack)) :=
  rfl

theorem mul_def (x y : Float) :
    x * y = .ofModel (.pack (UnpackedFloat.mul format x.toModel.unpack y.toModel.unpack)) :=
  rfl

theorem beq_def (x y : Float) : (x == y) = x.toModel.unpack.beq y.toModel.unpack :=
  rfl

/-- Adding to zero changes no float but the negative zero. -/
theorem zero_add {x : Float} (h : (x != 0) = true) : 0 + x = x := by
  have key : UnpackedFloat.add format (0 : Float).toModel.unpack x.toModel.unpack
      = x.toModel.unpack := by
    rw [bne, beq_def] at h
    rw [unpack_zero] at h ⊢
    cases hx : x.toModel.unpack with
    | infinity s => rfl
    | notANumber => rfl
    | finite s m e h => rfl
    | zero s =>
      rw [hx] at h
      simp [UnpackedFloat.beq, UnpackedFloat.compare] at h
  rw [add_def, key, pack_unpack]

/-! ## Rounding -/

theorem target_of_normal {m : Nat} {e : Int} (h : Normal m e) :
    format.targetExponent (totalExponent m e) = e := by
  have hlog : m.log2 < 53 := (Nat.log2_lt h.pos.ne').2 h.lt
  have := h.exponent_ge
  simp only [Format.targetExponent, totalExponent, Format.mantissaBits, Format.minExponent]
  rcases h.full with full | least
  · have : 52 ≤ m.log2 := (Nat.le_log2 h.pos.ne').2 full
    norm_num
    omega
  · norm_num
    omega

theorem log2_mul_two_pow {m : Nat} (h : 0 < m) (k : Nat) : (m * 2 ^ k).log2 = m.log2 + k := by
  induction k with
  | zero => simp
  | succ k ih =>
    have hm : m * 2 ^ (k + 1) = 2 * (m * 2 ^ k) := by ring
    rw [hm, Nat.log2_two_mul (by positivity), ih]
    omega

theorem shift_exact (m k : Nat) :
    ((⟨m * 2 ^ k, false, false⟩ : ExtendedMantissa) >>> k) = ⟨m, false, false⟩ := by
  change k.repeat ExtendedMantissa.shiftRightOne ⟨m * 2 ^ k, false, false⟩ = _
  induction k generalizing m with
  | zero => simp [Nat.repeat]
  | succ k ih =>
    have hm : m * 2 ^ (k + 1) = 2 * m * 2 ^ k := by ring
    rw [Nat.repeat, hm, ih]
    simp [ExtendedMantissa.shiftRightOne]

/-- Rounding does not change a float that is written with more digits. -/
theorem round_exact (s : UnpackedFloat.Sign) {m : Nat} {e : Int} (h : Normal m e) (k : Nat) :
    roundWithAccuracy format s (m * 2 ^ k) (e - k) .exact = .finite s m e h.pos := by
  have total : totalExponent (m * 2 ^ k) (e - k) = totalExponent m e := by
    simp only [totalExponent, log2_mul_two_pow h.pos]
    push_cast
    omega
  have first : shiftToTargetExponent format (m * 2 ^ k) (e - k) .exact
      = (⟨m, false, false⟩, e) := by
    simp only [shiftToTargetExponent, shiftToExponent, total, target_of_normal h]
    rw [show (e - (e - (k : Int))).toNat = k by omega]
    exact Prod.ext (shift_exact m k) (by simp)
  have second : shiftToTargetExponent format m e .exact = (⟨m, false, false⟩, e) := by
    simp only [shiftToTargetExponent, shiftToExponent, target_of_normal h]
    rw [show (e - e).toNat = 0 by omega]
    exact Prod.ext rfl (by simp)
  have hround : ExtendedMantissa.roundedMantissa ⟨m, false, false⟩ = m := rfl
  simp only [roundWithAccuracy, first, hround, second, h.pos.ne', dite_false]

/-- A product with one is exact, so nothing is rounded away. -/
theorem mul_one (x : Float) : x * 1 = x := by
  have key : UnpackedFloat.mul format x.toModel.unpack (1 : Float).toModel.unpack
      = x.toModel.unpack := by
    have sign : ∀ s : UnpackedFloat.Sign, s * .positive = s := by rintro (_ | _) <;> rfl
    rw [unpack_one]
    have hx := datum x
    generalize x.toModel.unpack = u at hx ⊢
    cases hx with
    | infinity s => simp [UnpackedFloat.mul, sign]
    | notANumber => rfl
    | zero s => simp [UnpackedFloat.mul, sign]
    | finite s m e h =>
      have := round_exact s h 52
      simpa [UnpackedFloat.mul, sign, ← sub_eq_add_neg] using this
  rw [mul_def, key, pack_unpack]

/-- Only a float that is not a number differs from itself. -/
theorem beq_self {x : Float} (h : x.isFinite = true) : (x == x) = true := by
  rw [beq_def]
  have hx : x.toModel.unpack.isFinite = true := h
  generalize x.toModel.unpack = u at hx ⊢
  cases u with
  | infinity s => simp [UnpackedFloat.isFinite] at hx
  | notANumber => simp [UnpackedFloat.isFinite] at hx
  | zero s => cases s <;> rfl
  | finite s m e h => cases s <;> simp [UnpackedFloat.beq, UnpackedFloat.compare]

/-- A finite float is the sum of zero and itself, but for the sign of a zero. -/
theorem zero_add_beq {x : Float} (finite : x.isFinite = true) : (0 + x == x) = true := by
  by_cases nonzero : (x != 0) = true
  · rw [zero_add nonzero]
    exact beq_self finite
  · have zero : ∃ s, x.toModel.unpack = .zero s := by
      rw [bne, beq_def, unpack_zero] at nonzero
      have unpacked : x.toModel.unpack.isFinite = true := finite
      generalize x.toModel.unpack = u at nonzero unpacked
      cases u with
      | infinity s => simp [UnpackedFloat.isFinite] at unpacked
      | notANumber => simp [UnpackedFloat.isFinite] at unpacked
      | zero s => exact ⟨s, rfl⟩
      | finite s m e h => cases s <;> simp [UnpackedFloat.beq, UnpackedFloat.compare] at nonzero
    obtain ⟨s, zero⟩ := zero
    -- There are two zeros, and each is equal to the positive one.
    have same : x = .ofModel (.pack (.zero s)) := by rw [← zero, pack_unpack]
    cases s <;> rw [same] <;> decide
/-! ## Equality -/

/-- Zero without its sign; everything else as it is. -/
def unsigned : UnpackedFloat → UnpackedFloat
  | .zero _ => .zero .positive
  | u => u

/-- Floats are equal if they agree up to the sign of a zero, and are numbers. -/
theorem beq_iff {u v : UnpackedFloat} :
    u.beq v = true ↔ unsigned u = unsigned v ∧ u ≠ .notANumber := by
  cases u with
  | infinity s =>
    cases v with
    | infinity t =>
      cases s <;> cases t <;>
        simp [UnpackedFloat.beq, UnpackedFloat.compare, unsigned] <;> rfl
    | _ => cases s <;> simp [UnpackedFloat.beq, UnpackedFloat.compare, unsigned]
  | notANumber => simp [UnpackedFloat.beq, UnpackedFloat.compare]
  | zero s =>
    cases v with
    | infinity t | finite t => cases t <;> simp [UnpackedFloat.beq, UnpackedFloat.compare, unsigned]
    | _ => simp [UnpackedFloat.beq, UnpackedFloat.compare, unsigned]
  | finite s m e h =>
    cases v with
    | infinity t => cases t <;> simp [UnpackedFloat.beq, UnpackedFloat.compare, unsigned]
    | finite t n f k =>
      cases s <;> cases t <;>
        simp [UnpackedFloat.beq, UnpackedFloat.compare, unsigned, and_comm]
    | _ => cases s <;> simp [UnpackedFloat.beq, UnpackedFloat.compare, unsigned]

instance instPartialEquivBEqFloat : PartialEquivBEq Float where
  symm {x y} h := by
    rw [beq_def, beq_iff] at h ⊢
    refine ⟨h.1.symm, fun none => h.2 ?_⟩
    have same := h.1
    rw [none] at same
    revert same
    generalize x.toModel.unpack = u
    cases u <;> simp [unsigned]
  trans h h' := by
    rw [beq_def, beq_iff] at h h' ⊢
    exact ⟨h.1.trans h'.1, h.2⟩

instance : ZeroStart Float where
  zero_add_of_ne := zero_add

end MathProg.FloatLaws
