import MathProg.Number.Basic
import MathProg.Proofs.Number.Shortest

/-!
# Integers as floats

Integers up to `2 ^ 53` are held by a float, which gives them back when it is truncated.
-/

namespace MathProg.FloatLaws

open Float.Model Binary64

/-- A magnitude in normal form is that of a float. -/
theorem exists_decode {m : Nat} {e : Int} (h : Normal m e) :
    ∃ x : Float, x.isFinite = true ∧ decode x = .finite false m e := by
  have known : Datum (.finite .positive m e h.pos) := .finite _ _ _ h
  have back := unpack_ofModel known
  refine ⟨.ofModel (.pack (.finite .positive m e h.pos)), ?_, ?_⟩
  · change (Float.ofModel (.pack (.finite .positive m e h.pos))).toModel.unpack.isFinite = true
    rw [back]
    rfl
  · rw [decode_eq, back]
    rfl

/-- The normal form of a small positive integer. -/
theorem exists_normal {n : Nat} (pos : 0 < n) (small : n ≤ 2 ^ 53) :
    ∃ m e, Normal m e ∧ (m : ℚ) * 2 ^ e = n ∧ truncate false m e = n := by
  rcases small.lt_or_eq with lt | rfl
  · have low : 2 ^ n.log2 ≤ n := Nat.log2_self_le pos.ne'
    have high : n < 2 ^ (n.log2 + 1) := Nat.lt_log2_self
    have bits : n.log2 ≤ 52 := by
      have := (Nat.log2_lt pos.ne').2 lt
      omega
    have split : 2 ^ 52 = 2 ^ n.log2 * 2 ^ (52 - n.log2) := by
      rw [← pow_add]
      congr 1
      omega
    have power : (0 : ℚ) < 2 ^ (52 - n.log2) := by positivity
    refine ⟨n * 2 ^ (52 - n.log2), -((52 - n.log2 : Nat) : Int), ⟨by positivity, ?_, by omega,
      by omega, .inl ?_⟩, ?_, ?_⟩
    · calc n * 2 ^ (52 - n.log2) < 2 ^ (n.log2 + 1) * 2 ^ (52 - n.log2) := by gcongr
        _ = 2 * 2 ^ 52 := by rw [pow_succ', mul_assoc, ← split]
    · rw [split]
      gcongr
    · rw [zpow_neg, zpow_natCast]
      push_cast
      field_simp
    · simp [truncate, scaleByTwo, pow2]
  · exact ⟨2 ^ 52, 1, ⟨by norm_num, by norm_num, by norm_num, by norm_num, .inl le_rfl⟩,
      by norm_num, by decide⟩

theorem isInf_eq_false {x : Float} (h : x.isFinite = true) : x.isInf = false := by
  change x.toModel.unpack.isInf = false
  have finite : x.toModel.unpack.isFinite = true := h
  generalize x.toModel.unpack = u at finite
  cases u with
  | infinity | notANumber => simp [UnpackedFloat.isFinite] at finite
  | zero | finite => rfl

/-- A small integer is held by a float. -/
theorem floatOfInt_small {n : Nat} (small : n ≤ 2 ^ 53) :
    ∃ x e m, floatOfInt n = .ok x ∧ x.isFinite = true ∧ decode x = .finite false m e ∧
      truncate false m e = n := by
  rcases Nat.eq_zero_or_pos n with rfl | pos
  · exact ⟨0, -1074, 0, rfl, rfl, by decide, by simp [truncate]⟩
  · obtain ⟨m, e, normal, same, back⟩ := exists_normal pos small
    obtain ⟨x, finite, value⟩ := exists_decode normal
    have bits : magnitudeBits n 1 = (e + 1074).toNat * 2 ^ 52 + m :=
      magnitudeBits_of_roundsTo normal pos one_pos
      (by rw [Nat.cast_one, div_one, ← same]; exact Decimal.roundsTo_self normal.pos e)
    have whole : ofRatio false n 1 = x := by
      simp only [ofRatio, pos.ne', if_false, bits, Bool.false_eq_true, add_zero]
      exact ofBits_of_decode value
    have sign : decide ((n : Int) < 0) = false := by simp
    refine ⟨x, e, m, ?_, finite, value, back⟩
    simp [floatOfInt, ofInt?, sign, whole, isInf_eq_false finite]

end MathProg.FloatLaws
