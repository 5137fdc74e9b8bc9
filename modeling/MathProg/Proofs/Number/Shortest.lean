import MathProg.Proofs.Number.Rounding

/-!
# Shortest decimals read back

Whatever candidate is chosen as the shortest decimal of a float, it rounds to the float.
-/

namespace MathProg

open Binary64 FloatLaws

namespace Decimal

/-- The number that a decimal stands for. -/
def value (d : Decimal) : ℚ :=
  d.digits * 10 ^ d.exponent

/-- Comparing with naturals compares the numbers. -/
theorem compareScaled_eq (a : Nat) (i : Int) (n : Nat) (j : Int) :
    compareScaled a i n j = compare ((a : ℚ) * 10 ^ i) (n * 2 ^ j) := by
  have ten := pow_toNat (b := 10) (by norm_num) i
  have two := pow_toNat (b := 2) (by norm_num) j
  have scale : (0 : ℚ) < 10 ^ (-i).toNat * 2 ^ (-j).toNat := by positivity
  have left : ((a * pow10 i.toNat * pow2 (-j).toNat : Nat) : ℚ) =
      a * 10 ^ i * (10 ^ (-i).toNat * 2 ^ (-j).toNat) := by
    push_cast
    rw [cast_pow10, cast_pow2, ten]
    ring
  have right : ((n * pow2 j.toNat * pow10 (-i).toNat : Nat) : ℚ) =
      n * 2 ^ j * (10 ^ (-i).toNat * 2 ^ (-j).toNat) := by
    push_cast
    rw [cast_pow10, cast_pow2, two]
    ring
  rw [compareScaled]
  rcases lt_trichotomy ((a : ℚ) * 10 ^ i) (n * 2 ^ j) with lt | eq | gt
  · rw [compare_lt_iff_lt.2 lt, compare_lt_iff_lt, ← Nat.cast_lt (α := ℚ), left, right]
    exact mul_lt_mul_of_pos_right lt scale
  · rw [compare_eq_iff_eq.2 eq, compare_eq_iff_eq, ← Nat.cast_inj (R := ℚ), left, right, eq]
  · rw [compare_gt_iff_gt.2 gt, compare_gt_iff_gt, ← Nat.cast_lt (α := ℚ), left, right]
    exact mul_lt_mul_of_pos_right gt scale

theorem roundsTo_of_readsBack {m : Nat} {e : Int} {d : Decimal} (h : readsBack m e d = true) :
    RoundsTo m e d.value := by
  have low : (if m = pow2 52 ∧ -1074 < e then 4 * m - 1 else 4 * m - 2) = lowMidpoint m e := rfl
  simp only [readsBack, compareScaled_eq, Bool.and_eq_true, Bool.or_eq_true, beq_iff_eq,
    decide_eq_true_eq, low, compare_lt_iff_lt, compare_gt_iff_gt, compare_eq_iff_eq] at h
  exact ⟨h.1.imp_right (And.imp_right Eq.symm), h.2⟩

theorem roundDiv_eq_or (num den : Nat) :
    roundDiv num den = num / den ∨ roundDiv num den = num / den + 1 := by
  simp only [roundDiv]
  split_ifs <;> simp

/-- A candidate on the grid of a power of ten reads back. -/
theorem readsBack_onGrid? {m : Nat} {e i : Int} {d : Decimal} (h : onGrid? m e i = some d) :
    readsBack m e d = true := by
  simp only [onGrid?] at h
  split at h
  · rename_i below above
    obtain rfl := Option.some.inj h
    rcases roundDiv_eq_or (m * pow2 e.toNat * pow10 (-i).toNat)
      (pow2 (-e).toNat * pow10 i.toNat) with same | same
    · rwa [roundScaled, same]
    · rwa [roundScaled, same]
  · obtain rfl := Option.some.inj h
    assumption
  · obtain rfl := Option.some.inj h
    assumption
  · simp at h

theorem value_strip (d : Decimal) : d.strip.value = d.value := by
  have moved (fuel n : Nat) (e : Int) : (strip.go fuel n e).value = n * 10 ^ e := by
    induction fuel generalizing n e with
    | zero => rfl
    | succ fuel ih =>
      rw [strip.go]
      split
      · rename_i trailing
        have whole : n = n / 10 * 10 := by omega
        rw [ih, zpow_add_one₀ (by norm_num)]
        conv_rhs => rw [whole]
        push_cast
        ring
      · rfl
  exact moved _ _ _

/-- A float rounds to itself. -/
theorem roundsTo_self {m : Nat} (pos : 0 < m) (e : Int) : RoundsTo m e (m * 2 ^ e) := by
  have quarter : (2 : ℚ) ^ e = 4 * 2 ^ (e - 2) := by
    rw [zpow_sub₀ two_ne_zero]
    norm_num
    ring
  have power : (0 : ℚ) < 2 ^ (e - 2) := by positivity
  have low : (lowMidpoint m e : ℚ) + 1 ≤ 4 * m := by
    have : lowMidpoint m e + 1 ≤ 4 * m := by
      unfold lowMidpoint
      split <;> omega
    exact_mod_cast this
  refine ⟨.inl ?_, .inl ?_⟩
  · rw [quarter]
    nlinarith
  · rw [quarter]
    push_cast
    nlinarith

theorem value_exact (m : Nat) (e : Int) :
    (⟨m * pow2 e.toNat * Nat.pow 5 (-e).toNat, min e 0⟩ : Decimal).value = (m : ℚ) * 2 ^ e := by
  have five : ((Nat.pow 5 (-e).toNat : Nat) : ℚ) = 5 ^ (-e).toNat := by simp
  rw [value]
  push_cast
  rw [cast_pow2, five]
  rcases le_total 0 e with le | le
  · obtain ⟨n, rfl⟩ := Int.eq_ofNat_of_zero_le le
    simp
  · obtain ⟨n, rfl⟩ := Int.exists_eq_neg_ofNat le
    have ten : (10 : ℚ) ^ n = 5 ^ n * 2 ^ n := by
      rw [← mul_pow]
      norm_num
    simp [ten]
    field_simp

/-- The shortest decimal of a magnitude rounds to it. -/
theorem roundsTo_shortest {m : Nat} (pos : 0 < m) (e : Int) :
    RoundsTo m e (shortest m e).value := by
  have candidate : ∀ d ∈ (List.range 17).findSome? (fun (n : Nat) =>
      onGrid? m e (magnitude m e - 1 - n)), readsBack m e d = true := fun d found => by
    obtain ⟨n, -, grid⟩ := List.exists_of_findSome?_eq_some found
    exact readsBack_onGrid? grid
  cases found : (List.range 17).findSome? (fun (n : Nat) => onGrid? m e (magnitude m e - 1 - n)) with
  | some d =>
    have chosen : shortest m e = d.strip := by
      delta shortest
      extract_lets k
      rw [found]
    rw [chosen, value_strip]
    exact roundsTo_of_readsBack (candidate d found)
  | none =>
    have chosen : shortest m e = ⟨m * pow2 e.toNat * Nat.pow 5 (-e).toNat, min e 0⟩ := by
      delta shortest
      extract_lets k
      rw [found]
    rw [chosen, value_exact]
    exact roundsTo_self pos e

end Decimal

end MathProg
