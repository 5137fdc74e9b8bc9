import MathProg.Number.FloatText
import MathProg.Proofs.Formula.Reading
import MathProg.Proofs.Number.Integers

/-!
# Numbers as lexemes

A float that is written without an exponent is written as a sign and a decimal, and reading the
decimal gives the float back.
-/

namespace MathProg

open Binary64 FloatLaws Formula

/-! ## Digits -/

theorem Formula.Numeral.value_eq {digits : List Char} (h : ∀ c ∈ digits, c.isDigit = true) :
    Numeral.value 10 digits = Nat.ofDigitChars 10 digits 0 := by
  rw [Nat.ofDigitChars_eq_foldl, Numeral.value]
  refine List.foldl_ext _ _ _ fun n c mem => ?_
  rw [Numeral.digitValue, if_pos (h c mem)]

theorem Text.digitsValue_eq {digits : List Char} (h : ∀ c ∈ digits, c.isDigit = true) :
    Text.digitsValue digits = Nat.ofDigitChars 10 digits 0 := by
  rw [Nat.ofDigitChars_eq_foldl, Text.digitsValue]
  refine List.foldl_ext _ _ _ fun n c mem => ?_
  rw [Text.digitValue?, if_pos (h c mem), Option.getD_some]

theorem isNumber_toDigits (n : Nat) : IsNumber (Nat.toDigits 10 n) :=
  ⟨Nat.toDigits_ne_nil, fun _ mem => Nat.isDigit_of_mem_toDigits (by decide) (by decide) mem⟩

/-! ## Decimals -/

namespace Decimal

/-- The digits before and behind the point. -/
def parts (d : Decimal) : List Char × List Char :=
  let digits := Nat.toDigits 10 d.digits
  let count := (digits.length : Int) + d.exponent
  if 0 ≤ d.exponent then (digits ++ List.replicate d.exponent.toNat '0', ['0'])
  else if count ≤ 0 then (['0'], List.replicate (-count).toNat '0' ++ digits)
  else (digits.take count.toNat, digits.drop count.toNat)

theorem toList_positional (d : Decimal) :
    (FloatText.positional (toString d.digits) d.exponent).toList =
      d.parts.1 ++ '.' :: d.parts.2 := by
  have digits : (toString d.digits).toList = Nat.toDigits 10 d.digits := Nat.toList_repr
  have length : (toString d.digits).length = (Nat.toDigits 10 d.digits).length := by
    rw [← digits, String.length_toList]
  simp only [FloatText.positional, parts, length]
  split_ifs
  · simp [FloatText.zeros]
  · simp [FloatText.zeros]
  · simp

theorem isNumber_parts (d : Decimal) : IsNumber d.parts.1 ∧ IsNumber d.parts.2 := by
  have number := isNumber_toDigits d.digits
  have zeros : ∀ n, ∀ c ∈ List.replicate n '0', c.isDigit = true := fun n c mem => by
    rw [(List.mem_replicate.1 mem).2]
    rfl
  have zero : IsNumber ['0'] := ⟨by simp, Text.forall_mem_of_all (by decide)⟩
  have joined : ∀ {w s : List Char}, (∀ c ∈ w, c.isDigit = true) → (∀ c ∈ s, c.isDigit = true) →
      ∀ c ∈ w ++ s, c.isDigit = true :=
    fun left right c mem => (List.mem_append.1 mem).elim (left c) (right c)
  simp only [parts]
  split_ifs with whole small
  · exact ⟨⟨by simp [number.1], joined number.2 (zeros _)⟩, zero⟩
  · exact ⟨zero, ⟨by simp [number.1], joined (zeros _) number.2⟩⟩
  · refine ⟨⟨?_, fun c mem => number.2 c (List.mem_of_mem_take mem)⟩,
      ⟨?_, fun c mem => number.2 c (List.mem_of_mem_drop mem)⟩⟩
    · rw [Ne, List.take_eq_nil_iff]
      rintro (none | none)
      · omega
      · exact number.1 none
    · rw [Ne, List.drop_eq_nil_iff]
      omega

/-- The digits on both sides of the point, with the places behind it, stand for the same number. -/
theorem value_parts (d : Decimal) :
    value ⟨Nat.ofDigitChars 10 (d.parts.1 ++ d.parts.2) 0, 0 - d.parts.2.length⟩ = d.value := by
  have number := isNumber_toDigits d.digits
  have filled : 0 < (Nat.toDigits 10 d.digits).length := List.length_pos_iff.2 number.1
  simp only [parts]
  split_ifs with whole small
  · obtain ⟨n, same⟩ := Int.eq_ofNat_of_zero_le whole
    have power : (10 : ℚ) ^ (n : Int) = 10 ^ n := zpow_natCast 10 n
    simp [value, Nat.ofDigitChars_append, same, power, Nat.ofDigitChars_cons]
    ring
  · simp only [value, List.cons_append, List.nil_append, Nat.ofDigitChars_cons, List.length_append,
      Nat.ofDigitChars_append, Nat.ofDigitChars_replicate_zero, Nat.ofDigitChars_ten_toDigits,
      Nat.sub_self, Nat.mul_zero, Nat.add_zero, List.length_replicate]
    congr 2
    omega
  · rw [List.take_append_drop, Nat.ofDigitChars_ten_toDigits, List.length_drop]
    simp only [value]
    congr 2
    omega

end Decimal

/-! ## Floats -/

/-- A finite float whose text has no exponent. -/
structure IsPositional (x : Float) : Prop where
  finite : x.isFinite = true
  positional : 'e' ∉ (FloatText.shortest x).toList

namespace FloatLaws

theorem exists_of_isFinite {x : Float} (h : x.isFinite = true) :
    ∃ negative m e, decode x = .finite negative m e := by
  rw [decode_eq]
  have finite : x.toModel.unpack.isFinite = true := h
  generalize x.toModel.unpack = u at finite
  cases u with
  | infinity | notANumber => simp [Float.Model.UnpackedFloat.isFinite] at finite
  | zero | finite => exact ⟨_, _, _, rfl⟩

/-- A zero has the least exponent. -/
theorem exponent_of_zero {x : Float} {negative : Bool} {e : Int}
    (h : decode x = .finite negative 0 e) : e = -1074 := by
  rw [decode_eq] at h
  generalize x.toModel.unpack = u at h
  cases u with
  | infinity | notANumber => simp [valueOf] at h
  | zero =>
    simp only [valueOf, Value.finite.injEq] at h
    exact h.2.2.symm
  | finite s m e pos =>
    simp only [valueOf, Value.finite.injEq] at h
    omega

theorem neg_neg {x : Float} (h : x.isFinite = true) : - -x = x := by
  obtain ⟨negative, m, e, value⟩ := exists_of_isFinite h
  refine decode_injective ?_
  rw [decode_neg (decode_neg value), value, Bool.not_not]

end FloatLaws

namespace Formula

/-- The decimal of a magnitude. -/
def magnitudeLexeme (m : Nat) (e : Int) : Lexeme :=
  if m = 0 then .decimal ['0'] ['0']
  else .decimal (Decimal.shortest m e).parts.1 (Decimal.shortest m e).parts.2

/-- The sign and the decimal that a finite float is written with. -/
def floatFactor (x : Float) : Factor :=
  match decode x with
  | .finite negative m e => ⟨negative, magnitudeLexeme m e⟩
  | _ => ⟨false, magnitudeLexeme 0 0⟩

theorem isOperand_magnitudeLexeme (m : Nat) (e : Int) : (magnitudeLexeme m e).IsOperand := by
  unfold magnitudeLexeme
  split
  · exact ⟨⟨by simp, Text.forall_mem_of_all (by decide)⟩, ⟨by simp, Text.forall_mem_of_all (by decide)⟩⟩
  · exact Decimal.isNumber_parts _

theorem isOperand_floatFactor (x : Float) : (floatFactor x).value.IsOperand := by
  unfold floatFactor
  split
  · exact isOperand_magnitudeLexeme _ _
  · exact isOperand_magnitudeLexeme 0 0

theorem mem_exponentMark (e : Int) : 'e' ∈ (FloatText.exponentMark e).toList := by
  simp only [FloatText.exponentMark, String.toList_append, List.mem_append]
  left
  split <;> decide

/-- A float without exponent is written as its factor. -/
theorem text_floatFactor {x : Float} (h : IsPositional x) :
    text (floatFactor x).lexemes = (FloatText.shortest x).toList := by
  obtain ⟨negative, m, e, value⟩ := exists_of_isFinite h.finite
  have noExponent := h.positional
  have signed : ∀ w : String, (if negative then "-" ++ w else w).toList =
      (if negative then ['-'] else []) ++ w.toList := fun w => by
    cases negative <;> simp
  have body : text (floatFactor x).lexemes =
      (if negative then ['-'] else []) ++ (magnitudeLexeme m e).chars := by
    cases negative <;> simp [floatFactor, value, Factor.lexemes, Lexeme.chars]
  rw [FloatText.shortest, FloatText.withSpecials, value] at noExponent ⊢
  simp only [signed] at noExponent ⊢
  rw [body, magnitudeLexeme]
  have decimal : m ≠ 0 → -4 ≤ ((toString (Decimal.shortest m e).digits).length : Int) - 1 +
      (Decimal.shortest m e).exponent ∧ ((toString (Decimal.shortest m e).digits).length : Int) - 1 +
        (Decimal.shortest m e).exponent < 16 := by
    intro nonzero
    by_contra large
    rw [if_neg nonzero, if_neg large, String.toList_append] at noExponent
    exact noExponent (List.mem_append_right _ (List.mem_append_right _ (mem_exponentMark _)))
  by_cases zero : m = 0
  · rw [if_pos zero, if_pos zero]
    rfl
  · rw [if_neg zero, if_neg zero, if_pos (decimal zero), Decimal.toList_positional]
    rfl

/-- The decimal of a magnitude is read as the float. -/
theorem ofDecimal_magnitude {x : Float} {m : Nat} {e : Int} (h : decode x = .finite false m e) :
    ∃ whole fraction, magnitudeLexeme m e = .decimal whole fraction ∧
      ofDecimal false (Numeral.value 10 (whole ++ fraction)) (0 - fraction.length) = x := by
  unfold magnitudeLexeme
  split
  · rename_i zero
    subst zero
    refine ⟨['0'], ['0'], rfl, decode_injective ?_⟩
    rw [h, exponent_of_zero h]
    decide
  · rename_i nonzero
    refine ⟨_, _, rfl, ofDecimal_eq h nonzero ?_⟩
    have number := Decimal.isNumber_parts (Decimal.shortest m e)
    have same := Decimal.value_parts (Decimal.shortest m e)
    rw [Numeral.value_eq fun c mem => (List.mem_append.1 mem).elim (number.1.2 c) (number.2.2 c)]
    rw [Decimal.value] at same
    rw [same]
    exact Decimal.roundsTo_shortest (Nat.pos_of_ne_zero nonzero) e

/-- The text of a finite float is read as the float. -/
theorem ofTree_floatFactor (names : List String) {x : Float} (h : x.isFinite = true) :
    Polynomial.ofTree names (floatFactor x).tree = .ok (Polynomial.constant x) := by
  have magnitude : ∀ {y : Float} {m : Nat} {e : Int}, decode y = .finite false m e →
      Polynomial.ofTree names (magnitudeLexeme m e).leaf = .ok (Polynomial.constant y) := by
    intro y m e value
    obtain ⟨whole, fraction, same, read⟩ := ofDecimal_magnitude value
    rw [same, ← read]
    rfl
  obtain ⟨negative, m, e, value⟩ := exists_of_isFinite h
  cases negative with
  | false => simpa [floatFactor, value, Factor.tree] using magnitude value
  | true =>
    have positive := magnitude (decode_neg value)
    have back : Polynomial.neg (Polynomial.constant (-x)) = Polynomial.constant x := by
      simp [Polynomial.neg, Polynomial.constant, Terms.mapCoefficients, FloatLaws.neg_neg h]
    simp only [floatFactor, value, Factor.tree, if_true, Polynomial.ofTree, positive]
    exact congrArg Except.ok back

/-! ## Integers -/

/-- The sign and the digits of an integer. -/
def integerFactor (n : Int) : Factor :=
  ⟨n < 0, .integer (Nat.toDigits 10 n.natAbs)⟩

theorem text_integerFactor (n : Int) : text (integerFactor n).lexemes = (toString n).toList := by
  have negative : ∀ m : Nat, (toString (Int.negSucc m)).toList = '-' :: Nat.toDigits 10 (m + 1) :=
    fun m => by
      change ("-" ++ Nat.repr (m + 1)).toList = _
      simp
  cases n with
  | ofNat m =>
    have positive : (toString (Int.ofNat m)).toList = Nat.toDigits 10 m := Nat.toList_repr
    have sign : ¬(m : Int) < 0 := by omega
    rw [positive]
    simp [integerFactor, Factor.lexemes, Lexeme.chars, sign]
  | negSucc m =>
    rw [negative]
    simp [integerFactor, Factor.lexemes, Lexeme.chars, Int.negSucc_lt_zero]

/-- Only zero starts with a zero. -/
theorem head?_toDigits {n : Nat} (pos : n ≠ 0) : (Nat.toDigits 10 n).head? ≠ some '0' := by
  induction n using Nat.strongRecOn with
  | ind n ih =>
    rcases lt_or_ge n 10 with small | large
    · rw [Nat.toDigits_of_lt_base small]
      have digit : ∀ n < 10, n ≠ 0 → n.digitChar ≠ '0' := by decide
      simpa using digit n small pos
    · rw [Nat.toDigits_of_base_le (by decide) large,
        List.head?_append_of_ne_nil _ Nat.toDigits_ne_nil]
      exact ih (n / 10) (by omega) (by omega)

theorem isOperand_integerFactor {n : Int} (small : n.natAbs ≤ 2 ^ 53) :
    (integerFactor n).value.IsOperand := by
  refine ⟨isNumber_toDigits _, ?_⟩
  by_cases zero : n.natAbs = 0
  · exact .inl (by rw [zero]; rfl)
  · refine .inr ⟨head?_toDigits zero, ?_⟩
    have short : (Nat.toDigits 10 n.natAbs).length ≤ 16 :=
      (Nat.length_toDigits_le_iff (by decide) (by decide)).2 (by omega)
    omega

/-- A small integer is read as a float that stands for it. -/
theorem ofTree_integerFactor (names : List String) {n : Int} (small : n.natAbs ≤ 2 ^ 53) :
    ∃ x : Float, Polynomial.ofTree names (integerFactor n).tree = .ok (Polynomial.constant x) ∧
      TextNumber.truncate x = .ok n := by
  obtain ⟨x, e, m, held, finite, value, back⟩ := floatOfInt_small small
  have digits : Numeral.value 10 (Nat.toDigits 10 n.natAbs) = n.natAbs := by
    rw [Numeral.value_eq (isNumber_toDigits _).2, Nat.ofDigitChars_ten_toDigits]
  have read : Polynomial.ofTree names (Lexeme.integer (Nat.toDigits 10 n.natAbs)).leaf =
      .ok (Polynomial.constant x) := by
    have literal : TextNumber.ofLiteral (.integer n.natAbs) = .ok x := held
    simp only [Lexeme.leaf, Lexeme.token, digits, Polynomial.ofTree, literal]
  have truncates : ∀ {y : Float} {negative : Bool}, decode y = .finite negative m e →
      TextNumber.truncate y = .ok (Binary64.truncate negative m e) := fun value => by
    simp only [TextNumber.truncate, Number.truncate, value]
  by_cases negative : n < 0
  · refine ⟨-x, ?_, ?_⟩
    · have flipped : Polynomial.neg (Polynomial.constant x) = Polynomial.constant (-x) := rfl
      simp only [integerFactor, negative, decide_true, Factor.tree, if_true, Polynomial.ofTree, read]
      exact congrArg Except.ok flipped
    · have flipped : Binary64.truncate true m e = -Binary64.truncate false m e := by
        simp [Binary64.truncate]
      rw [truncates (decode_neg value), Bool.not_false, flipped, back]
      congr 1
      omega
  · refine ⟨x, ?_, ?_⟩
    · simp only [integerFactor, negative, decide_false, Factor.tree, Bool.false_eq_true, if_false,
        read]
    · rw [truncates value, back]
      congr 1
      omega

end Formula

end MathProg
