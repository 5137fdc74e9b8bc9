import Mathlib
import MathProg.Number.Shortest
import MathProg.Proofs.Number.Decoding

/-!
# Rounding to floats

The library rounds a quotient by comparing naturals. The quotients that round to a float form an
interval of rationals around it, and every decimal in that interval is read as the float.
-/

namespace MathProg.FloatLaws

open Binary64

/-! ## Powers with integer exponents -/

/-- A quotient of natural powers stands for a power with any exponent. -/
theorem pow_toNat {b : ℚ} (h : b ≠ 0) (i : Int) : b ^ i.toNat = b ^ i * b ^ (-i).toNat := by
  rcases le_total 0 i with le | le
  · obtain ⟨n, rfl⟩ := Int.eq_ofNat_of_zero_le le
    simp
  · obtain ⟨n, rfl⟩ := Int.exists_eq_neg_ofNat le
    simp [h]

theorem cast_pow2 (n : Nat) : ((pow2 n : Nat) : ℚ) = 2 ^ n := by
  simp [pow2]

theorem cast_pow10 (n : Nat) : ((pow10 n : Nat) : ℚ) = 10 ^ n := by
  simp [pow10]

/-- A quotient that is scaled by a power of two. -/
theorem scaled_div (e : Int) (num den : Nat) :
    ((pow2 (-e).toNat * num : Nat) : ℚ) / (pow2 e.toNat * den : Nat) = num / den / 2 ^ e := by
  have power := pow_toNat (b := 2) two_ne_zero e
  push_cast
  rw [cast_pow2, cast_pow2, power]
  field_simp

/-! ## Rounding to an integer -/

theorem roundDiv_eq {n d m : Nat} (pos : 0 < d)
    (low : 2 * m * d < 2 * n + d ∨ m % 2 = 0 ∧ 2 * m * d = 2 * n + d)
    (high : 2 * n < 2 * m * d + d ∨ m % 2 = 0 ∧ 2 * n = 2 * m * d + d) : roundDiv n d = m := by
  have split : d * (n / d) + n % d = n := Nat.div_add_mod n d
  have rest : n % d < d := Nat.mod_lt n pos
  unfold roundDiv
  generalize n / d = q at split ⊢
  generalize n % d = r at split rest ⊢
  subst split
  have upper : m < q + 2 := by
    by_contra large
    have : (q + 2) * d ≤ m * d := Nat.mul_le_mul_right d (by omega)
    have : d * q = q * d := Nat.mul_comm d q
    have : 2 * m * d = 2 * (m * d) := Nat.mul_assoc 2 m d
    have : (q + 2) * d = q * d + 2 * d := Nat.add_mul q 2 d
    omega
  have lower : q ≤ m := by
    by_contra small
    have : (m + 1) * d ≤ q * d := Nat.mul_le_mul_right d (by omega)
    have : d * q = q * d := Nat.mul_comm d q
    have : 2 * m * d = 2 * (m * d) := Nat.mul_assoc 2 m d
    have : (m + 1) * d = m * d + d := Nat.succ_mul m d
    omega
  obtain rfl | rfl : m = q ∨ m = q + 1 := by omega
  · have : d * m = m * d := Nat.mul_comm d m
    have : 2 * m * d = 2 * (m * d) := Nat.mul_assoc 2 m d
    simp only
    split_ifs <;> omega
  · have : d * q = q * d := Nat.mul_comm d q
    have : 2 * (q + 1) * d = 2 * (q * d) + 2 * d := by ring
    simp only
    split_ifs <;> omega

/-- Rounding gives the nearest integer, of two equally near ones the even one. -/
theorem roundDiv_of_near {n d m : Nat} (pos : 0 < d) {r : ℚ} (same : (n : ℚ) / d = r)
    (low : (m : ℚ) - 1 / 2 < r ∨ m % 2 = 0 ∧ (m : ℚ) - 1 / 2 = r)
    (high : r < m + 1 / 2 ∨ m % 2 = 0 ∧ r = m + 1 / 2) : roundDiv n d = m := by
  have positive : (0 : ℚ) < d := by exact_mod_cast pos
  have whole : (n : ℚ) = r * d := by
    rw [← same]
    field_simp
  have lift {a b : Nat} : a < b ↔ (a : ℚ) < b := Nat.cast_lt.symm
  have liftEq {a b : Nat} : a = b ↔ (a : ℚ) = b := Nat.cast_inj.symm
  refine roundDiv_eq pos ?_ ?_
  · refine low.imp (fun low => ?_) fun ⟨even, low⟩ => ⟨even, ?_⟩
    · rw [lift]
      push_cast
      nlinarith
    · rw [liftEq]
      push_cast
      rw [whole, ← low]
      ring
  · refine high.imp (fun high => ?_) fun ⟨even, high⟩ => ⟨even, ?_⟩
    · rw [lift]
      push_cast
      nlinarith
    · rw [liftEq]
      push_cast
      rw [whole, high]
      ring

/-! ## Rounding to a float -/

/-- The bounds that the logarithms of a quotient give. -/
theorem log2_bounds {num den : Nat} (numPos : 0 < num) (denPos : 0 < den) :
    (2 : ℚ) ^ ((num.log2 : Int) - den.log2 - 1) < num / den ∧
      (num : ℚ) / den < 2 ^ ((num.log2 : Int) - den.log2 + 1) := by
  have bounds : ∀ {n : Nat}, 0 < n → (2 : ℚ) ^ (n.log2 : Int) ≤ n ∧ (n : ℚ) < 2 ^ (n.log2 + 1 : Int) :=
    fun {n} pos => by
      have low : 2 ^ n.log2 ≤ n := Nat.log2_self_le pos.ne'
      have high : n < 2 ^ (n.log2 + 1) := Nat.lt_log2_self
      exact ⟨by exact_mod_cast low, by exact_mod_cast high⟩
  obtain ⟨numLow, numHigh⟩ := bounds numPos
  obtain ⟨denLow, denHigh⟩ := bounds denPos
  have positive : (0 : ℚ) < den := by exact_mod_cast denPos
  constructor
  · rw [lt_div_iff₀ positive]
    calc (2 : ℚ) ^ ((num.log2 : Int) - den.log2 - 1) * den
        < 2 ^ ((num.log2 : Int) - den.log2 - 1) * 2 ^ (den.log2 + 1 : Int) := by gcongr
      _ = 2 ^ (num.log2 : Int) := by
        rw [← zpow_add₀ two_ne_zero]
        congr 1
        ring
      _ ≤ num := numLow
  · rw [div_lt_iff₀ positive]
    calc (num : ℚ) < 2 ^ (num.log2 + 1 : Int) := numHigh
      _ = 2 ^ ((num.log2 : Int) - den.log2 + 1) * 2 ^ (den.log2 : Int) := by
        rw [← zpow_add₀ two_ne_zero]
        congr 1
        ring
      _ ≤ 2 ^ ((num.log2 : Int) - den.log2 + 1) * den := by gcongr

/-- The exponent at which a positive quotient is rounded. -/
structure ExponentOf (q : ℚ) (e : Int) : Prop where
  least : -1074 ≤ e
  lt : q < 2 ^ 53 * 2 ^ e
  full : 2 ^ 52 * 2 ^ e ≤ q ∨ e = -1074

theorem ExponentOf.unique {q : ℚ} {e f : Int} (he : ExponentOf q e) (hf : ExponentOf q f) :
    e = f := by
  have step : ∀ {e f : Int}, ExponentOf q e → ExponentOf q f → e ≤ f := by
    intro e f he hf
    by_contra lt
    rcases he.full with full | least
    · have power : (2 : ℚ) ^ (f + 1) ≤ 2 ^ e := zpow_le_zpow_right₀ one_le_two (by omega)
      rw [zpow_add_one₀ two_ne_zero] at power
      have := hf.lt
      linarith
    · have := hf.least
      omega
  exact le_antisymm (step he hf) (step hf he)

/-- The exponent is the one of the leading digit unless that is too small. -/
theorem exponentOf_max {q : ℚ} {e : Int} (lt : q < 2 ^ 53 * 2 ^ e) (le : 2 ^ 52 * 2 ^ e ≤ q) :
    ExponentOf q (max e (-1074)) := by
  refine ⟨le_max_right _ _, lt.trans_le ?_, ?_⟩
  · have power : (2 : ℚ) ^ e ≤ 2 ^ max e (-1074) :=
      zpow_le_zpow_right₀ one_le_two (le_max_left _ _)
    linarith
  · rcases max_choice e (-1074) with same | same
    · exact .inl (by rwa [same])
    · exact .inr same

theorem scaled_le_iff {num den : Nat} (pos : 0 < den) (k : Nat) (e : Int) :
    pow2 (-e).toNat * num ≥ pow2 k * (pow2 e.toNat * den) ↔ (2 : ℚ) ^ k * 2 ^ e ≤ num / den := by
  have cast {a b : Nat} : b ≥ a ↔ (a : ℚ) ≤ b := Nat.cast_le.symm
  have positive : (0 : ℚ) < den := by exact_mod_cast pos
  have power := pow_toNat (b := 2) two_ne_zero e
  have scale : (0 : ℚ) < 2 ^ (-e).toNat := by positivity
  rw [cast, le_div_iff₀ positive]
  push_cast
  rw [cast_pow2, cast_pow2, cast_pow2, power]
  constructor
  · intro le
    refine le_of_mul_le_mul_left ?_ scale
    linarith
  · intro le
    linarith [mul_le_mul_of_nonneg_left le scale.le]

/-- A magnitude is rounded at its exponent. -/
theorem magnitudeBits_eq {num den : Nat} (numPos : 0 < num) (denPos : 0 < den) {e : Int}
    (h : ExponentOf (num / den) e) :
    magnitudeBits num den = min ((e + 1074).toNat * pow2 52 +
      roundDiv (pow2 (-e).toNat * num) (pow2 e.toNat * den)) (2047 * pow2 52) := by
  set guess : Int := (num.log2 : Int) - den.log2 - 53 with hguess
  obtain ⟨low, high⟩ := log2_bounds numPos denPos
  have lowest : (2 : ℚ) ^ 52 * 2 ^ guess < num / den := by
    rw [← zpow_natCast, ← zpow_add₀ two_ne_zero]
    convert low using 2
    push_cast
    omega
  have highest : (num : ℚ) / den < 2 ^ 54 * 2 ^ guess := by
    rw [← zpow_natCast, ← zpow_add₀ two_ne_zero]
    convert high using 2
    push_cast
    omega
  have chosen : ExponentOf (num / den)
      (max (if (2 : ℚ) ^ 53 * 2 ^ guess ≤ num / den then guess + 1 else guess) (-1074)) := by
    have double : (2 : ℚ) ^ (guess + 1) = 2 ^ guess * 2 := zpow_add_one₀ two_ne_zero _
    split
    · refine exponentOf_max ?_ ?_ <;> rw [double] <;> linarith
    · refine exponentOf_max ?_ ?_ <;> linarith
  rw [h.unique chosen]
  simp only [magnitudeBits, ← hguess, scaleByTwo, neg_neg, scaled_le_iff denPos]

/-- Four times the significand of the midpoint below `m · 2 ^ e`. Below a power of two the neighbour
is at half the distance. -/
def lowMidpoint (m : Nat) (e : Int) : Nat :=
  if m = 2 ^ 52 ∧ -1074 < e then 4 * m - 1 else 4 * m - 2

/-- The numbers that round to `m · 2 ^ e`: those between the midpoints to the neighbours. A midpoint
goes to the even significand. -/
structure RoundsTo (m : Nat) (e : Int) (q : ℚ) : Prop where
  low : (lowMidpoint m e : ℚ) * 2 ^ (e - 2) < q ∨
    m % 2 = 0 ∧ (lowMidpoint m e : ℚ) * 2 ^ (e - 2) = q
  high : q < (4 * m + 2 : Nat) * 2 ^ (e - 2) ∨ m % 2 = 0 ∧ q = (4 * m + 2 : Nat) * 2 ^ (e - 2)

/-- The bounds of the significand, with the exponent taken out. -/
theorem RoundsTo.significand {m : Nat} {e : Int} {r : ℚ} (rounds : RoundsTo m e (r * 2 ^ e)) :
    ((lowMidpoint m e : ℚ) / 4 < r ∨ m % 2 = 0 ∧ (lowMidpoint m e : ℚ) / 4 = r) ∧
      (r < m + 1 / 2 ∨ m % 2 = 0 ∧ r = m + 1 / 2) := by
  have power : (0 : ℚ) < 2 ^ e := by positivity
  have quarter : (2 : ℚ) ^ (e - 2) = 2 ^ e / 4 := by
    rw [zpow_sub₀ two_ne_zero]
    norm_num
  obtain ⟨low, high⟩ := rounds
  rw [quarter] at low high
  push_cast at high
  constructor
  · refine low.imp (fun lt => ?_) (And.imp_right fun same => ?_)
    · refine lt_of_mul_lt_mul_right ?_ power.le
      linarith
    · refine mul_right_cancel₀ power.ne' ?_
      linarith
  · refine high.imp (fun lt => ?_) (And.imp_right fun same => ?_)
    · refine lt_of_mul_lt_mul_right ?_ power.le
      linarith
    · refine mul_right_cancel₀ power.ne' ?_
      linarith

section Significand

variable {m : Nat} {e : Int} {num den : Nat} {r : ℚ}

/-- The exponent and the significand of a rounded quotient make up its bits. -/
theorem magnitudeBits_of_rounded (h : Normal m e) (numPos : 0 < num) (denPos : 0 < den) {k : Nat}
    {f : Int} (same : (f + 1074).toNat * 2 ^ 52 + k = (e + 1074).toNat * 2 ^ 52 + m)
    (exponent : ExponentOf (num / den) f)
    (rounded : roundDiv (pow2 (-f).toNat * num) (pow2 f.toNat * den) = k) :
    magnitudeBits num den = (e + 1074).toNat * 2 ^ 52 + m := by
  have bound := h.exponent_lt
  have bits := h.lt
  rw [magnitudeBits_eq numPos denPos exponent, rounded, show pow2 52 = 2 ^ 52 from rfl, same]
  omega

/-- Just below a power of two the significand is rounded at the exponent below. -/
theorem magnitudeBits_below (h : Normal (2 ^ 52) e) (larger : -1074 < e) (numPos : 0 < num)
    (denPos : 0 < den) (scaled : (num : ℚ) / den = r * 2 ^ e)
    (low : (2 : ℚ) ^ 52 - 1 / 4 < r ∨ (2 : ℚ) ^ 52 - 1 / 4 = r) (below : r < 2 ^ 52) :
    magnitudeBits num den = (e + 1074).toNat * 2 ^ 52 + 2 ^ 52 := by
  have power : (0 : ℚ) < 2 ^ e := by positivity
  have half : (2 : ℚ) ^ (e - 1) = 2 ^ e / 2 := zpow_sub_one₀ two_ne_zero e
  have bottom : (2 : ℚ) ^ 53 - 1 / 2 < 2 * r ∨ (2 : ℚ) ^ 53 - 1 / 2 = 2 * r :=
    low.imp (fun lt => by linarith) fun same => by linarith
  have bottomLe : (2 : ℚ) ^ 53 - 1 / 2 ≤ 2 * r := bottom.elim le_of_lt le_of_eq
  refine magnitudeBits_of_rounded h numPos denPos (k := 2 ^ 53) (f := e - 1) (by omega)
    ⟨by omega, ?_, .inl ?_⟩ ?_
  · rw [scaled, half]
    nlinarith
  · rw [scaled, half]
    nlinarith
  · refine roundDiv_of_near (r := 2 * r) (by simp [pow2, denPos]) ?_ ?_ (.inl ?_)
    · rw [scaled_div, scaled, half]
      field_simp
    · push_cast
      exact bottom.imp id fun same => ⟨by norm_num, same⟩
    · push_cast
      linarith

/-- Elsewhere the significand is rounded at the exponent of the float. -/
theorem magnitudeBits_above (h : Normal m e) (numPos : 0 < num) (denPos : 0 < den)
    (scaled : (num : ℚ) / den = r * 2 ^ e) (full : (2 : ℚ) ^ 52 ≤ r ∨ e = -1074)
    (low : (m : ℚ) - 1 / 2 < r ∨ m % 2 = 0 ∧ (m : ℚ) - 1 / 2 = r)
    (high : r < m + 1 / 2 ∨ m % 2 = 0 ∧ r = m + 1 / 2) :
    magnitudeBits num den = (e + 1074).toNat * 2 ^ 52 + m := by
  have power : (0 : ℚ) < 2 ^ e := by positivity
  have top : (m : ℚ) + 1 ≤ 2 ^ 53 := by exact_mod_cast h.lt
  refine magnitudeBits_of_rounded h numPos denPos rfl ⟨h.exponent_ge, ?_, ?_⟩
    (roundDiv_of_near (by simp [pow2, denPos]) ?_ low high)
  · rw [scaled]
    rcases high with lt | ⟨-, same⟩ <;> nlinarith
  · refine full.imp_left fun full => ?_
    rw [scaled]
    nlinarith
  · rw [scaled_div, scaled]
    field_simp

/-- What rounds to a float has the bits of the float. -/
theorem magnitudeBits_of_roundsTo (h : Normal m e) (numPos : 0 < num) (denPos : 0 < den)
    (rounds : RoundsTo m e (num / den)) :
    magnitudeBits num den = (e + 1074).toNat * 2 ^ 52 + m := by
  obtain ⟨r, scaled⟩ : ∃ r : ℚ, (num : ℚ) / den = r * 2 ^ e := ⟨num / den / 2 ^ e, by field_simp⟩
  rw [scaled] at rounds
  obtain ⟨low, high⟩ := rounds.significand
  by_cases corner : m = 2 ^ 52 ∧ -1074 < e
  · -- The neighbour below is at half the distance, so numbers below `m` round at another exponent.
    obtain ⟨rfl, larger⟩ := corner
    have value : (lowMidpoint (2 ^ 52) e : ℚ) / 4 = 2 ^ 52 - 1 / 4 := by
      rw [lowMidpoint, if_pos ⟨rfl, larger⟩]
      norm_num
    rw [value] at low
    by_cases below : r < 2 ^ 52
    · exact magnitudeBits_below h larger numPos denPos scaled (low.imp_right And.right) below
    · have above := not_lt.1 below
      refine magnitudeBits_above h numPos denPos scaled (.inl above) (.inl ?_) high
      push_cast
      linarith
  · have value : (lowMidpoint m e : ℚ) / 4 = m - 1 / 2 := by
      have pos := h.pos
      rw [lowMidpoint, if_neg corner, Nat.cast_sub (by omega)]
      push_cast
      ring
    rw [value] at low
    refine magnitudeBits_above h numPos denPos scaled (or_iff_not_imp_right.2 fun higher => ?_) low
      high
    -- A significand above the least full one keeps its length when it is rounded up from below.
    have least := h.exponent_ge
    have full : 2 ^ 52 < m := lt_of_le_of_ne (h.full.resolve_right higher) fun same =>
      corner ⟨same.symm, by omega⟩
    have larger : (2 : ℚ) ^ 52 + 1 ≤ m := by exact_mod_cast full
    rcases low with lt | ⟨-, same⟩ <;> linarith

end Significand

/-! ## Rounding decimals -/

theorem decimalLength_spec (n : Nat) :
    n < 10 ^ decimalLength n ∧ (n ≠ 0 → 10 ^ decimalLength n ≤ 10 * n) := by
  induction n using decimalLength.induct with
  | case1 => simp [decimalLength]
  | case2 n pos ih =>
    rw [decimalLength, if_neg pos, pow_succ]
    refine ⟨by omega, fun _ => ?_⟩
    by_cases small : n / 10 = 0
    · rw [small]
      simp [decimalLength]
      omega
    · have := ih.2 small
      omega

/-- The powers of ten around a decimal. -/
theorem decimal_bounds {digits : Nat} (pos : digits ≠ 0) (exponent : Int) :
    (digits : ℚ) * 10 ^ exponent < 10 ^ ((decimalLength digits : Int) + exponent) ∧
      (10 : ℚ) ^ ((decimalLength digits : Int) + exponent) ≤ 10 * (digits * 10 ^ exponent) := by
  obtain ⟨high, low⟩ := decimalLength_spec digits
  have power : (0 : ℚ) < 10 ^ exponent := by positivity
  have highQ : (digits : ℚ) < 10 ^ decimalLength digits := by exact_mod_cast high
  have lowQ : (10 : ℚ) ^ decimalLength digits ≤ 10 * digits := by exact_mod_cast low pos
  rw [zpow_add₀ (by norm_num), zpow_natCast]
  constructor <;> nlinarith

theorem two_le_lowMidpoint {m : Nat} (pos : 0 < m) (e : Int) : 2 ≤ lowMidpoint m e := by
  unfold lowMidpoint
  split <;> omega

/-- A power of ten is above the power of two with thrice the exponent. -/
theorem two_zpow_le_ten_zpow (n : Nat) : (2 : ℚ) ^ (3 * n : Int) ≤ 10 ^ (n : Int) := by
  have power : (8 : ℚ) ^ n ≤ 10 ^ n := pow_le_pow_left₀ (by norm_num) (by norm_num) n
  have cube : (2 : ℚ) ^ (3 * n : Int) = 8 ^ n := by
    rw [zpow_mul, zpow_natCast]
    norm_num
  rw [cube, zpow_natCast]
  exact power

/-- What rounds to a float lies far inside the powers of ten that are never computed. -/
theorem RoundsTo.bounds {m : Nat} {e : Int} {q : ℚ} (rounds : RoundsTo m e q) (h : Normal m e) :
    (10 : ℚ) ^ (-400 : Int) < q ∧ q < 10 ^ (399 : Int) := by
  have least : (2 : ℚ) ^ (-1076 : Int) ≤ 2 ^ (e - 2) :=
    zpow_le_zpow_right₀ one_le_two (by have := h.exponent_ge; omega)
  have greatest : (2 : ℚ) ^ (e - 2) ≤ 2 ^ (970 : Int) :=
    zpow_le_zpow_right₀ one_le_two (by have := h.exponent_lt; omega)
  have small : (10 : ℚ) ^ (-400 : Int) < 2 ^ (-1076 : Int) := by
    rw [zpow_neg, zpow_neg]
    refine inv_strictAnti₀ (by positivity) (lt_of_lt_of_le ?_ (two_zpow_le_ten_zpow 400))
    exact zpow_lt_zpow_right₀ one_lt_two (by decide)
  have large : (2 : ℚ) ^ 56 * 2 ^ (970 : Int) < 10 ^ (399 : Int) := by
    rw [← zpow_natCast, ← zpow_add₀ two_ne_zero]
    refine lt_of_lt_of_le ?_ (two_zpow_le_ten_zpow 399)
    exact zpow_lt_zpow_right₀ one_lt_two (by decide)
  have two : (2 : ℚ) ≤ lowMidpoint m e := by exact_mod_cast two_le_lowMidpoint h.pos e
  have top : ((4 * m + 2 : Nat) : ℚ) ≤ 2 ^ 56 := by
    have := h.lt
    exact_mod_cast (by omega : 4 * m + 2 ≤ 2 ^ 56)
  have low : (lowMidpoint m e : ℚ) * 2 ^ (e - 2) ≤ q :=
    rounds.low.elim le_of_lt fun same => same.2.le
  have high : q ≤ (4 * m + 2 : Nat) * 2 ^ (e - 2) :=
    rounds.high.elim le_of_lt fun same => same.2.le
  have power : (0 : ℚ) < 2 ^ (e - 2) := by positivity
  generalize (2 : ℚ) ^ (e - 2) = p at *
  generalize (2 : ℚ) ^ (-1076 : Int) = a at *
  generalize (2 : ℚ) ^ (970 : Int) = b at *
  constructor
  · nlinarith
  · nlinarith

/-- A decimal that rounds to a float is read as the float. -/
theorem ofDecimal_eq {x : Float} {m : Nat} {e : Int} (value : decode x = .finite false m e)
    (pos : m ≠ 0) {digits : Nat} {exponent : Int}
    (rounds : RoundsTo m e (digits * 10 ^ exponent)) : ofDecimal false digits exponent = x := by
  have normal := normal_of_decode value pos
  obtain ⟨low, high⟩ := rounds.bounds normal
  have filled : digits ≠ 0 := by
    rintro rfl
    have : (0 : ℚ) < 10 ^ (-400 : Int) := by positivity
    rw [Nat.cast_zero, zero_mul] at low
    linarith
  -- the limits at which a decimal is not divided any more are far from all floats
  obtain ⟨below, above⟩ := decimal_bounds filled exponent
  have notTiny : ¬(decimalLength digits : Int) + exponent < -400 := fun tiny => by
    have : (10 : ℚ) ^ ((decimalLength digits : Int) + exponent) ≤ 10 ^ (-400 : Int) :=
      zpow_le_zpow_right₀ (by norm_num) tiny.le
    linarith
  have notHuge : ¬400 < (decimalLength digits : Int) + exponent := fun huge => by
    have : (10 : ℚ) ^ (400 : Int) ≤ 10 ^ ((decimalLength digits : Int) + exponent) :=
      zpow_le_zpow_right₀ (by norm_num) huge.le
    have step : (10 : ℚ) ^ (399 + 1 : Int) = 10 ^ (399 : Int) * 10 :=
      zpow_add_one₀ (by norm_num) 399
    rw [show (400 : Int) = 399 + 1 from rfl, step] at this
    linarith
  have quotient : ((digits * pow10 exponent.toNat : Nat) : ℚ) / (pow10 (-exponent).toNat : Nat) =
      digits * 10 ^ exponent := by
    push_cast
    rw [cast_pow10, cast_pow10, pow_toNat (by norm_num) exponent]
    field_simp
  have bits : magnitudeBits (digits * pow10 exponent.toNat) (pow10 (-exponent).toNat) =
      (e + 1074).toNat * 2 ^ 52 + m := magnitudeBits_of_roundsTo normal
    (Nat.mul_pos (Nat.pos_of_ne_zero filled) (Nat.pow_pos (by decide)))
    (Nat.pow_pos (by decide)) (by rwa [quotient])
  have nonzero : digits * pow10 exponent.toNat ≠ 0 :=
    Nat.mul_ne_zero filled (Nat.pow_pos (by decide)).ne'
  simp only [ofDecimal, filled, notTiny, notHuge, decide_false, Bool.or_self, if_false,
    Bool.false_eq_true, ofRatio, nonzero, bits, add_zero]
  exact ofBits_of_decode value

end MathProg.FloatLaws
