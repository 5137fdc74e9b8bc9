import MathProg.Proofs.Number.FloatLaws

/-!
# What the bits of a float stand for

The exact value of a float is read off its bits twice: by the library, with division and remainder,
and by the model of floats, with slices of a bit vector. Both readings agree, and a float is known
by its value. A finite float and its negation add up to zero, with nothing rounded away; the
negation may also be written as a product with minus one.
-/

namespace MathProg.FloatLaws

open Float.Model Float.Model.UnpackedFloat Binary64

/-! ## Fields -/

theorem toNat_unpackMantissa (b : BitVec format.numBits) :
    (unpackMantissa b).toNat = b.toNat % 2 ^ 52 := by
  simp [unpackMantissa, BitVec.extractLsb_toNat]

theorem toNat_unpackExponent (b : BitVec format.numBits) :
    (unpackExponent b).toNat = b.toNat / 2 ^ 52 % 2 ^ 11 := by
  simp [unpackExponent, BitVec.extractLsb_toNat, Nat.shiftRight_eq_div_pow]

theorem toNat_unpackSign (b : BitVec format.numBits) :
    (unpackSign b).toNat = b.toNat / 2 ^ 63 := by
  have : b.toNat < 2 ^ 64 := b.isLt
  simp [unpackSign, BitVec.extractLsb_toNat, Nat.shiftRight_eq_div_pow]
  omega

/-- What a float of the model stands for. -/
def valueOf : UnpackedFloat → Value
  | .notANumber => .notANumber
  | .infinity s => .infinite (s == .negative)
  | .zero s => .finite (s == .negative) 0 (-1074)
  | .finite s m e _ => .finite (s == .negative) m e

theorem sign_eq (b : BitVec format.numBits) :
    (UnpackedFloat.Sign.ofBitVec (unpackSign b) == .negative) = (b.toNat / pow2 63 == 1) := by
  have key : ∀ c : BitVec 1, (UnpackedFloat.Sign.ofBitVec c == .negative) = (c.toNat == 1) := by decide
  rw [key, toNat_unpackSign]
  rfl

/-- The library reads off the bits what the model of floats does. -/
theorem decode_eq (x : Float) : decode x = valueOf x.toModel.unpack := by
  set b : BitVec format.numBits := x.toModel.toBits.toBitVec
  have exponent := toNat_unpackExponent b
  have mantissa := toNat_unpackMantissa b
  have zeros {n : Nat} (c : BitVec n) : c = 0#n ↔ c.toNat = 0 := by simp [← BitVec.toNat_inj]
  have ones : unpackExponent b = -1#_ ↔ (unpackExponent b).toNat = 2047 := by
    rw [← BitVec.toNat_inj]
    rfl
  change decode x = valueOf (UnpackedFloat.unpack format b)
  simp only [decode, show x.toBits.toNat = b.toNat from rfl, ← sign_eq,
    show pow2 52 = 2 ^ 52 from rfl, show pow2 11 = 2 ^ 11 from rfl, ← exponent, ← mantissa,
    UnpackedFloat.unpack]
  by_cases infinite : (unpackExponent b).toNat = 2047
  · rw [if_pos infinite, if_pos (ones.2 infinite)]
    by_cases empty : (unpackMantissa b).toNat = 0
    · rw [if_pos empty, if_pos ((zeros _).2 empty)]
      rfl
    · rw [if_neg empty, if_neg (mt (zeros _).1 empty)]
      rfl
  rw [if_neg infinite, if_neg (mt ones.1 infinite)]
  by_cases least : (unpackExponent b).toNat = 0
  · rw [if_pos least, if_pos ((zeros _).2 least)]
    by_cases empty : (unpackMantissa b).toNat = 0
    · rw [dif_pos ((zeros _).2 empty), empty]
      rfl
    · rw [dif_neg (mt (zeros _).1 empty)]
      simp [valueOf, least, Format.exponentBias]
  · rw [if_neg least, if_neg (mt (zeros _).1 least)]
    simp [valueOf, append_one, Format.exponentBias]

/-! ## Packing -/

theorem unpackSign_packComponents (s : UnpackedFloat.Sign) (exponent : BitVec 11)
    (mantissa : BitVec 52) :
    unpackSign (packComponents format s exponent mantissa) = s.toBitVec := by
  apply BitVec.eq_of_toNat_eq
  have sign : s.toBitVec.toNat < 2 ^ 1 := s.toBitVec.isLt
  have bits : (packComponents format s exponent mantissa).toNat =
      (s.toBitVec.toNat * 2 ^ 11 + exponent.toNat) * 2 ^ 52 + mantissa.toNat := by
    simp only [packComponents, BitVec.toNat_append]
    rw [← Nat.shiftLeft_add_eq_or_of_lt mantissa.isLt,
      ← Nat.shiftLeft_add_eq_or_of_lt exponent.isLt,
      Nat.shiftLeft_eq, Nat.shiftLeft_eq]
  rw [toNat_unpackSign, bits]
  have := exponent.isLt
  have := mantissa.isLt
  omega

theorem sign_toBitVec (s : UnpackedFloat.Sign) : UnpackedFloat.Sign.ofBitVec s.toBitVec = s := by
  cases s <;> rfl

/-- A significand that fills its bits is packed without its first bit, which the exponent implies. -/
theorem unpack_pack_full (s : UnpackedFloat.Sign) {m : Nat} {e : Int} (h : Normal m e)
    (full : 2 ^ 52 ≤ m) :
    UnpackedFloat.unpack format (UnpackedFloat.pack format (.finite s m e h.pos))
      = .finite s m e h.pos := by
  have := h.exponent_ge
  have := h.exponent_lt
  have := h.lt
  have low : ((e + 1075).toNat : Int) = e + 1075 := Int.toNat_of_nonneg (by omega)
  have hlog : m.log2 = 52 := by
    rw [Nat.log2_eq_iff h.pos.ne']
    omega
  have packed : UnpackedFloat.pack format (.finite s m e h.pos) =
      packComponents format s (.ofNat 11 (e + 1075).toNat) (.ofNat 52 m) := by
    simp [UnpackedFloat.pack, Format.exponentBias, Format.mantissaBits, hlog,
      show e + 1023 + 52 = e + 1075 by omega]
    omega
  -- the two ends of the range of exponents stand for something else
  have exponent : (BitVec.ofNat 11 (e + 1075).toNat).toNat = (e + 1075).toNat := by
    rw [BitVec.toNat_ofNat]
    omega
  have notInfinite : BitVec.ofNat 11 (e + 1075).toNat ≠ -1#11 := fun same => by
    rw [← BitVec.toNat_inj, exponent, show (-1#11).toNat = 2047 from rfl] at same
    omega
  have notLeast : BitVec.ofNat 11 (e + 1075).toNat ≠ 0#11 := fun same => by
    rw [← BitVec.toNat_inj, exponent, show (0#11).toNat = 0 from rfl] at same
    omega
  rw [packed, UnpackedFloat.unpack]
  simp only [unpackSign_packComponents, unpackExponent_packComponents,
    unpackMantissa_packComponents, sign_toBitVec]
  rw [if_neg notInfinite, if_neg notLeast, finite.injEq]
  refine ⟨rfl, ?_, ?_⟩
  · rw [append_one, BitVec.toNat_ofNat]
    omega
  · rw [exponent, low]
    simp [Format.exponentBias]

/-- A smaller significand has the least exponent, and is packed as it is. -/
theorem unpack_pack_small (s : UnpackedFloat.Sign) {m : Nat} {e : Int} (h : Normal m e)
    (small : ¬ 2 ^ 52 ≤ m) :
    UnpackedFloat.unpack format (UnpackedFloat.pack format (.finite s m e h.pos))
      = .finite s m e h.pos := by
  have hlog : m.log2 ≠ 52 := by
    rw [Ne, Nat.log2_eq_iff h.pos.ne']
    omega
  have least : e = -1074 := h.full.resolve_left small
  have packed : UnpackedFloat.pack format (.finite s m e h.pos) =
      packComponents format s 0#11 (.ofNat 52 m) := by
    simp [UnpackedFloat.pack, Format.exponentBias, Format.mantissaBits, least]
    omega
  have mantissa : (BitVec.ofNat 52 m).toNat = m := by
    rw [BitVec.toNat_ofNat]
    omega
  have filled : BitVec.ofNat 52 m ≠ 0#52 := fun same => by
    rw [← BitVec.toNat_inj, mantissa] at same
    exact h.pos.ne' same
  rw [packed, UnpackedFloat.unpack]
  simp only [unpackSign_packComponents, unpackExponent_packComponents,
    unpackMantissa_packComponents, sign_toBitVec]
  rw [if_neg (by decide), if_pos trivial, dif_neg filled, finite.injEq]
  exact ⟨rfl, mantissa, by simp [least, Format.exponentBias]⟩

/-- Unpacking gives back the datum that was packed. -/
theorem unpack_pack {u : UnpackedFloat} (h : Datum u) :
    UnpackedFloat.unpack format (UnpackedFloat.pack format u) = u := by
  cases h with
  | infinity s => cases s <;> rfl
  | notANumber => rfl
  | zero s => cases s <;> rfl
  | finite s m e h =>
    by_cases full : 2 ^ 52 ≤ m
    · exact unpack_pack_full s h full
    · exact unpack_pack_small s h full

/-! ## Values -/

theorem unpack_ofModel {u : UnpackedFloat} (h : Datum u) :
    (Float.ofModel (.pack u)).toModel.unpack = u :=
  unpack_pack h

theorem ofBits_toBits (x : Float) : Float.ofBits x.toBits = x :=
  pack_unpack x

theorem valueOf_injective : Function.Injective valueOf := by
  have sign : ∀ {s t : UnpackedFloat.Sign}, (s == .negative) = (t == .negative) → s = t := by
    rintro (_ | _) (_ | _) same <;> first | rfl | exact absurd same (by decide)
  rintro (s | _ | s | ⟨s, m, e, h⟩) (t | _ | t | ⟨t, n, f, k⟩) same <;>
    simp only [valueOf, Value.infinite.injEq, Value.finite.injEq, reduceCtorEq] at same
  · rw [sign same]
  · rfl
  · rw [sign same.1]
  · omega
  · omega
  · obtain ⟨same, rfl, rfl⟩ := same
    rw [sign same]

/-- A float is known by what its bits stand for. -/
theorem decode_injective : Function.Injective decode := by
  intro x y same
  rw [decode_eq, decode_eq] at same
  rw [← pack_unpack x, valueOf_injective same, pack_unpack]

theorem neg_def (x : Float) : -x = .ofModel (.pack x.toModel.unpack.neg) :=
  rfl

theorem datum_neg {u : UnpackedFloat} (h : Datum u) : Datum u.neg := by
  cases h with
  | infinity s => exact .infinity _
  | notANumber => exact .notANumber
  | zero s => exact .zero _
  | finite s m e h => exact .finite _ _ _ h

/-- Negation changes the sign and nothing else. -/
theorem decode_neg {x : Float} {negative : Bool} {m : Nat} {e : Int}
    (h : decode x = .finite negative m e) : decode (-x) = .finite (!negative) m e := by
  have sign : ∀ s : UnpackedFloat.Sign, (-s == .negative) = !(s == .negative) := by rintro (_ | _) <;> rfl
  rw [decode_eq] at h
  rw [decode_eq, neg_def, unpack_ofModel (datum_neg (datum x))]
  generalize x.toModel.unpack = u at h
  cases u with
  | infinity | notANumber => simp [valueOf] at h
  | zero s | finite s => simp_all [valueOf, UnpackedFloat.neg]

/-- The magnitude of a nonzero float is in normal form. -/
theorem normal_of_decode {x : Float} {negative : Bool} {m : Nat} {e : Int}
    (h : decode x = .finite negative m e) (pos : m ≠ 0) : Normal m e := by
  rw [decode_eq] at h
  have known := datum x
  generalize x.toModel.unpack = u at h known
  cases known with
  | infinity | notANumber => simp [valueOf] at h
  | zero s => simp only [valueOf, Value.finite.injEq] at h; omega
  | finite s n f k =>
    simp only [valueOf, Value.finite.injEq] at h
    obtain ⟨-, rfl, rfl⟩ := h
    exact k

/-- The bits of a float below its sign count the floats up to its magnitude. -/
theorem toNat_toBits {x : Float} {m : Nat} {e : Int} (h : decode x = .finite false m e) :
    x.toBits.toNat = (e + 1074).toNat * 2 ^ 52 + m := by
  have bound : x.toBits.toNat < 2 ^ 64 := x.toBits.toNat_lt
  simp only [decode, show pow2 63 = 2 ^ 63 from rfl, show pow2 52 = 2 ^ 52 from rfl,
    show pow2 11 = 2 ^ 11 from rfl] at h
  split_ifs at h <;> simp only [Value.finite.injEq, beq_eq_false_iff_ne] at h <;> omega

/-- The float with the given bits. -/
theorem ofBits_of_decode {x : Float} {m : Nat} {e : Int} (h : decode x = .finite false m e) :
    Float.ofBits (.ofNat ((e + 1074).toNat * 2 ^ 52 + m)) = x := by
  rw [← toNat_toBits h, UInt64.ofNat_toNat, ofBits_toBits]

/-! ## Sums that cancel -/

/-- Negation changes nothing but the sign that is unpacked. -/
theorem unpack_neg (x : Float) : (-x).toModel.unpack = x.toModel.unpack.neg := by
  rw [neg_def]
  exact unpack_ofModel (datum_neg (datum x))

theorem zero_beq : ((0 : Float) == 0) = true := by
  decide

/-- A finite float cancels with its negation. -/
theorem add_neg_self {x : Float} (finite : x.isFinite = true) : (x + -x == 0) = true := by
  have unpacked : x.toModel.unpack.isFinite = true := finite
  have sum : ∃ s, UnpackedFloat.add format x.toModel.unpack x.toModel.unpack.neg = .zero s := by
    generalize x.toModel.unpack = u at unpacked ⊢
    cases u with
    | infinity s => simp [UnpackedFloat.isFinite] at unpacked
    | notANumber => simp [UnpackedFloat.isFinite] at unpacked
    | zero s => cases s <;> exact ⟨_, rfl⟩
    | finite s m e h =>
      have opposite (k : Int) : s.apply k + (-s).apply k = 0 := by
        cases s
        · exact Int.add_left_neg k
        · exact Int.add_right_neg k
      refine ⟨.positive, ?_⟩
      simp only [UnpackedFloat.add, UnpackedFloat.neg, opposite]
      rfl
  obtain ⟨s, zero⟩ := sum
  rw [beq_def, add_def, unpack_neg, zero, unpack_ofModel (.zero s), unpack_zero]
  cases s <;> rfl

/-- A product with minus one is exact. -/
theorem neg_one_mul (x : Float) : -1 * x = -x := by
  have sign : ∀ s : UnpackedFloat.Sign, .negative * s = -s := by rintro (_ | _) <;> rfl
  have minusOne :
      (-1 : Float).toModel.unpack = .finite .negative (2 ^ 52) (-52) (by decide) := by
    rw [unpack_neg, unpack_one]
    rfl
  have product : UnpackedFloat.mul format (-1 : Float).toModel.unpack x.toModel.unpack
      = x.toModel.unpack.neg := by
    rw [minusOne]
    have known := datum x
    generalize x.toModel.unpack = u at known ⊢
    cases known with
    | infinity s => simp [UnpackedFloat.mul, UnpackedFloat.neg, sign]
    | notANumber => rfl
    | zero s => simp [UnpackedFloat.mul, UnpackedFloat.neg, sign]
    | finite s m e h =>
      simp only [UnpackedFloat.mul, UnpackedFloat.neg, sign]
      rw [mul_comm (2 ^ 52) m, show (-52 + e : Int) = e - (52 : Nat) by omega]
      exact round_exact (-s) h 52
  rw [mul_def, product, neg_def]

end MathProg.FloatLaws
