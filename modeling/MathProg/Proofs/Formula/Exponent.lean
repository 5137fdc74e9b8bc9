import MathProg.Proofs.Formula.Expanded
import MathProg.Proofs.Formula.Separation

/-!
# Floats as they are written

Cut into tokens and parsed, the text of a finite float is the float, and so is its product with
variables. But a very large or very small float is written with an exponent, and the mark of the
exponent is a letter that touches the number. So with the signs of products written into it, the
text is read back if and only if the float is written without an exponent.
-/

namespace MathProg

open Formula Text FloatLaws

namespace Formula

/-! ## Numerals with an exponent -/

theorem Numeral.value_toDigits (n : Nat) : Numeral.value 10 (Nat.toDigits 10 n) = n := by
  rw [Numeral.value_eq (isNumber_toDigits n).2, Nat.ofDigitChars_ten_toDigits]

/-- An exponent is written with its sign. -/
theorem toList_exponentMark (e : Int) : ∃ digits, IsNumber digits ∧
    (FloatText.exponentMark e).toList = 'e' :: (if e < 0 then '-' else '+') :: digits ∧
    Numeral.value 10 digits = e.natAbs := by
  have toDigits : (toString e.natAbs).toList = Nat.toDigits 10 e.natAbs := Nat.toList_repr
  have number := isNumber_toDigits e.natAbs
  have mark : ∀ w : String, ((if e < 0 then "e-" else "e+") ++ w).toList =
      'e' :: (if e < 0 then '-' else '+') :: w.toList := fun w => by
    rw [String.toList_append]
    split <;> rfl
  unfold FloatText.exponentMark
  dsimp only
  by_cases short : (toString e.natAbs).length < 2
  · refine ⟨'0' :: Nat.toDigits 10 e.natAbs, ⟨by simp, ?_⟩, ?_, Numeral.value_toDigits e.natAbs⟩
    · exact List.forall_mem_cons.2 ⟨by decide, number.2⟩
    · rw [if_pos short, mark, String.toList_append, toDigits]
      rfl
  · refine ⟨_, number, ?_, Numeral.value_toDigits e.natAbs⟩
    rw [if_neg short, mark, toDigits]

/-- The digits with a point behind the first one, if others follow. -/
theorem toList_pointed (n : Nat) : ∃ first fraction, Nat.toDigits 10 n = first :: fraction ∧
    (FloatText.pointed (toString n)).toList =
      first :: if fraction = [] then [] else '.' :: fraction := by
  have written : toString n = String.ofList (Nat.toDigits 10 n) := rfl
  rw [written]
  cases digits : Nat.toDigits 10 n with
  | nil => exact absurd digits (isNumber_toDigits n).1
  | cons first fraction =>
    refine ⟨first, fraction, rfl, ?_⟩
    cases fraction <;> simp [FloatText.pointed]

/-- Digits with an exponent, as floats are written. -/
def scientificText (n : Nat) (leading : Int) : List Char :=
  (FloatText.pointed (toString n)).toList ++ (FloatText.exponentMark leading).toList

/-- The mark of the exponent touches the number. -/
theorem touchesLetter_scientificText (n : Nat) (leading : Int) (s : List Char) :
    touchesLetter (scientificText n leading ++ s) = true := by
  obtain ⟨first, fraction, digits, pointed⟩ := toList_pointed n
  obtain ⟨behind, -, mark, -⟩ := toList_exponentMark leading
  have all : ∀ c ∈ first :: fraction, isDigit c = true := fun c mem => by
    have digit := (isNumber_toDigits n).2 c (by rw [digits]; exact mem)
    rw [isDigit_of_name (isNameCharacter_of_digit digit), digit]
  have kind : isDigit 'e' = false ∧ Juxtaposition.isNameLetter 'e' = true ∧
      isDigit '.' = false := by decide
  rw [scientificText, pointed, mark]
  split
  · simp [touchesLetter, all first (by simp), kind, Juxtaposition.fraction]
  · have digits : ∀ c ∈ fraction, isDigit c = true := fun c mem => all c (by simp [mem])
    have stop : ∀ c ∈ ('e' :: (if leading < 0 then '-' else '+') :: (behind ++ s)).head?,
        isDigit c = false := by simp [kind]
    simp [touchesLetter, all first (by simp), kind, Juxtaposition.fraction,
      dropWhile_append_of_stop digits stop]

theorem isNumeralCharacter_scientificText (n : Nat) (leading : Int) :
    ∀ c ∈ scientificText n leading, Numeral.isNumeralCharacter c = true := by
  obtain ⟨first, fraction, digits, pointed⟩ := toList_pointed n
  obtain ⟨behind, number, mark, -⟩ := toList_exponentMark leading
  have all : ∀ c ∈ first :: fraction, c.isDigit = true := digits ▸ (isNumber_toDigits n).2
  have digit : ∀ {c}, c.isDigit = true → Numeral.isNumeralCharacter c = true :=
    Numeral.isNumeralCharacter_of_isDigit
  have sign : Numeral.isNumeralCharacter (if leading < 0 then '-' else '+') = true := by
    split <;> decide
  intro c mem
  rw [scientificText, pointed, mark] at mem
  simp only [List.cons_append, List.mem_cons, List.mem_append] at mem
  rcases mem with rfl | mem | rfl | rfl | mem
  · exact digit (all c (by simp))
  · split at mem
    · cases mem
    · rcases List.mem_cons.1 mem with rfl | mem
      · decide
      · exact digit (all c (by simp [mem]))
  · decide
  · exact sign
  · exact digit (number.2 c mem)

namespace Numeral

variable {s : List Char}

theorem exponent?_mark (e : Int) (stop : Stops s) :
    exponent? ((FloatText.exponentMark e).toList ++ s) = some (some (e, s)) := by
  obtain ⟨digits, number, mark, value⟩ := toList_exponentMark e
  have run := digits?_of_stops number stop
  obtain ⟨filled, all⟩ := number
  cases digits with
  | nil => exact absurd rfl filled
  | cons d digits =>
    have digit : d.isDigit = true := all d (by simp)
    rw [List.cons_append] at run
    rw [mark]
    by_cases negative : e < 0
    · simp [exponent?, negative, digit, run, value, abs_of_neg negative]
    · simp [exponent?, negative, digit, run, value, abs_of_nonneg (not_lt.1 negative)]

/-- The number that is written with an exponent. -/
theorem scan?_scientific (n : Nat) (leading : Int) (stop : Stops s) :
    scan? (scientificText n leading ++ s) =
      some (.number (.decimal n (leading - ((toString n).length - 1))), s) := by
  obtain ⟨first, fraction, digits, pointed⟩ := toList_pointed n
  have power : leading - (((toString n).length : Int) - 1) = leading - fraction.length := by
    have written : toString n = String.ofList (Nat.toDigits 10 n) := rfl
    have length : (toString n).length = fraction.length + 1 := by
      rw [written, String.length_ofList, digits, List.length_cons]
    omega
  have value := value_toDigits n
  have all := (isNumber_toDigits n).2
  rw [digits] at value all
  have exponent := exponent?_mark leading stop
  have noImaginary := isImaginaryMark_of_stops stop
  obtain ⟨behind, starts⟩ : ∃ behind, (FloatText.exponentMark leading).toList ++ s =
      'e' :: behind := by
    obtain ⟨digits, -, mark, -⟩ := toList_exponentMark leading
    exact ⟨_, by rw [mark, List.cons_append]⟩
  have stops : ∀ c ∈ ('e' :: behind).head?, c.isDigit = false ∧ c ≠ '_' := by simp
  rw [starts] at exponent
  rw [power, scientificText, pointed, List.append_assoc, starts]
  have digit := all first (by simp)
  -- the point is written only if digits stand behind it
  cases fraction with
  | nil =>
    have run : digits? Char.isDigit (first :: 'e' :: behind) = some ([first], 'e' :: behind) :=
      digits?_append (w := [first]) (by simpa using digit) stops
    rw [if_pos rfl, List.singleton_append, scan?_eq digit (by simp [baseMarks]), run,
      Option.bind_some]
    simp [decimal?, float?, exponent, noImaginary, finish_of_stops stop, value]
  | cons c fraction =>
    have run : digits? Char.isDigit (first :: '.' :: (c :: fraction ++ 'e' :: behind)) =
        some ([first], '.' :: (c :: fraction ++ 'e' :: behind)) :=
      digits?_append (w := [first]) (by simpa using digit) (by simp)
    have places : fraction? (c :: fraction ++ 'e' :: behind) =
        some (c :: fraction, 'e' :: behind) := by
      rw [← digits?_append (fun d mem => all d (by simp_all)) stops]
      exact if_pos (all c (by simp))
    rw [if_neg (by simp), List.cons_append, List.cons_append,
      scan?_eq digit (by simp [baseMarks]), run, Option.bind_some]
    rw [List.cons_append] at places
    simp [decimal?, places, float?, exponent, noImaginary, finish_of_stops stop, value]

end Numeral

/-! ## Products of a number and names -/

/-- A text that is cut off as a number wherever a number may end. -/
structure IsNumeral (w : List Char) (l : Literal) : Prop where
  digit : ∃ c s, w = c :: s ∧ c.isDigit = true
  all : ∀ c ∈ w, Numeral.isNumeralCharacter c = true
  scans : ∀ s, Stops s → Numeral.scan? (w ++ s) = some (.number l, s)

/-- A number with its sign, times names. -/
def productText (negative : Bool) (w : List Char) (vs : List (List Char)) : List Char :=
  (if negative then ['-'] else []) ++ (w ++ vs.flatMap (fun v => '*' :: v))

@[simp] theorem productText_false (w : List Char) (vs : List (List Char)) :
    productText false w vs = w ++ vs.flatMap (fun v => '*' :: v) :=
  List.nil_append _

@[simp] theorem productText_true (w : List Char) (vs : List (List Char)) :
    productText true w vs = '-' :: (w ++ vs.flatMap (fun v => '*' :: v)) :=
  List.singleton_append

def productTree (negative : Bool) (l : Literal) (vs : List (List Char)) : Tree :=
  vs.foldl (fun t v => .binary .mul t (.name (String.ofList v)))
    (if negative then .unary .minus (.number l) else .number l)

/-- The tokens of the names. -/
def nameTokens (vs : List (List Char)) : List Token :=
  vs.flatMap (fun v => .symbol "*" :: [.word (String.ofList v)])

variable {w : List Char} {l : Literal} {vs : List (List Char)} {negative : Bool}

theorem stops_names : Stops (vs.flatMap (fun v => '*' :: v)) := by
  cases vs with
  | nil => simp [Stops]
  | cons v vs => simp [Stops, stops]

theorem lexes_names (names : ∀ v ∈ vs, IsName v) :
    Lexer.Lexes [] (vs.flatMap (fun v => '*' :: v)) (nameTokens vs) := by
  induction vs with
  | nil =>
    intro fuel enough
    cases fuel with
    | zero => simp at enough
    | succ fuel => rfl
  | cons v vs ih =>
    have name := (names v (by simp)).1
    have behind := (ih fun v mem => names v (by simp [mem])).identifier name stops_names
    have letter : ∀ c ∈ (v ++ vs.flatMap (fun v => '*' :: v)).head?, c ∉ ['*', '=', '>'] := by
      intro c mem
      rw [List.head?_append_of_ne_nil _ (ne_nil_of_isIdentifier name)] at mem
      exact name_induction (P := fun c => c ∉ ['*', '=', '>']) (by decide)
        (isNameCharacter_of_isIdentifier name c (List.mem_of_mem_head? mem))
    have begins : ∀ c ∈ ['*'].head?, Lexer.Begins c := by
      unfold Lexer.Begins
      simp
      decide
    exact behind.token (w := ['*']) (by simp) begins (Lexer.token?_sign (by decide) letter) rfl

/-- The sign of a number, as a token. -/
def signToken (negative : Bool) : List Token :=
  if negative then [.symbol "-"] else []

theorem parses_product (negative : Bool) (l : Literal) (names : ∀ v ∈ vs, IsName v) :
    Grammar.Parses 15 .expression (signToken negative ++ .number l :: nameTokens vs)
      (productTree negative l vs) [] := by
  have behind : ∀ s : List Token, s.head? = some (.symbol "*") ∨ s = [] →
      Grammar.Before Grammar.afterOperand s := by
    rintro s (same | rfl)
    · intro t mem
      obtain rfl : Token.symbol "*" = t := by simpa [same] using mem
      exact ⟨"*", by decide, rfl⟩
    · exact Grammar.before_nil _
  have next : (nameTokens vs).head? = some (.symbol "*") ∨ nameTokens vs = [] := by
    cases vs <;> simp [nameTokens]
  have number : Grammar.Parses 4 .signed (.number l :: nameTokens vs) (.number l)
      (nameTokens vs) :=
    (Grammar.parses_number l _).operand (by simp [Grammar.startsOperand]) (behind _ next)
  have first : Grammar.Parses 5 .signed (signToken negative ++ .number l :: nameTokens vs)
      (if negative then .unary .minus (.number l) else .number l) (nameTokens vs ++ []) := by
    rw [List.append_nil]
    cases negative with
    | true => exact number.minus
    | false => exact number.mono (by omega)
  have product : Grammar.Parses 6 (.operation 5) (signToken negative ++ .number l :: nameTokens vs)
      (productTree negative l vs) [] :=
    Grammar.Parses.row (rfl : Grammar.operator? 5 (some (.symbol "*")) = some .mul) rfl
      (fun v mem s same => ((Grammar.parses_name (names v mem).1 (names v mem).2 s).operand
        (by simp [Grammar.startsOperand, (names v mem).2]) (behind s same)).mono (by omega)) first
  have sum : Grammar.Parses 7 (.operation 4) (signToken negative ++ .number l :: nameTokens vs)
      (productTree negative l vs) [] := Grammar.Parses.operation product rfl
  refine sum.expression ?_ (Grammar.before_nil _)
  cases negative <;> simp [signToken, Grammar.startsSum, Grammar.startsOperand]

/-- The characters of a product. -/
theorem mem_productText (h : IsNumeral w l) (names : ∀ v ∈ vs, IsName v) {c : Char}
    (mem : c ∈ productText negative w vs) : Numeral.isNumeralCharacter c = true ∨ c = '*' := by
  simp only [productText, List.mem_append, List.mem_flatMap, List.mem_cons] at mem
  rcases mem with mem | mem | ⟨v, known, rfl | mem⟩
  · cases negative with
    | true =>
      obtain rfl : c = '-' := by simpa using mem
      exact .inl (by decide)
    | false => simp at mem
  · exact .inl (h.all c mem)
  · exact .inr rfl
  · have name := isNameCharacter_of_isIdentifier (names v known).1 c mem
    exact .inl (by simp [Numeral.isNumeralCharacter, name])

theorem not_mem_productText (h : IsNumeral w l) (negative : Bool) (names : ∀ v ∈ vs, IsName v) :
    ∀ c ∈ ['\x00', '\r', '#'], c ∉ productText negative w vs := by
  intro c other mem
  have kind : ∀ c ∈ ['\x00', '\r', '#'], ¬ (Numeral.isNumeralCharacter c = true ∨ c = '*') :=
    forall_mem_of_all (by decide)
  exact kind c other (mem_productText h names mem)

theorem isBlank_productText (h : IsNumeral w l) (negative : Bool) (names : ∀ v ∈ vs, IsName v) :
    ∀ c ∈ productText negative w vs, isBlank c = false := by
  intro c mem
  rcases mem_productText h names mem with known | rfl
  · exact Numeral.isBlank_of_isNumeralCharacter known
  · decide

theorem run?_productText (h : IsNumeral w l) (negative : Bool) (names : ∀ v ∈ vs, IsName v) :
    Lexer.run? (productText negative w vs) =
      some (signToken negative ++ .number l :: nameTokens vs) := by
  have noReturn := not_mem_productText h negative names '\r' (by simp)
  obtain ⟨c, s, rfl, digit⟩ := h.digit
  have begins := Lexer.begins_of_name (isNameCharacter_of_digit digit)
  have number : Lexer.Lexes [] (c :: s ++ vs.flatMap (fun v => '*' :: v))
      (.number l :: nameTokens vs) :=
    (lexes_names names).number (by simp) (by simpa using digit) (h.scans _ stops_names)
  cases negative with
  | false => exact Lexer.run?_of_lexes noReturn begins number
  | true =>
    have minus : Lexer.Begins '-' := by
      unfold Lexer.Begins
      decide
    have next : ∀ d ∈ (c :: s ++ vs.flatMap (fun v => '*' :: v)).head?, d ∉ ['*', '=', '>'] := by
      rintro d ⟨rfl⟩
      exact name_induction (P := fun c => c ∉ ['*', '=', '>']) (by decide)
        (isNameCharacter_of_digit digit)
    exact Lexer.run?_of_lexes noReturn minus
      (number.token (w := ['-']) (by simp) (by simpa using minus)
        (Lexer.token?_sign (by decide) next) rfl)

/-- The product is read as it is written. -/
theorem read_product (h : IsNumeral w l) (negative : Bool) (names : ∀ v ∈ vs, IsName v) :
    Formula.read (productText negative w vs) = .ok (productTree negative l vs) := by
  have noNull : (productText negative w vs).contains '\x00' = false := by
    simpa using not_mem_productText h negative names '\x00' (by simp)
  have parsed := parses_product negative l names
    (16 * ((productText negative w vs).length + 2)) (by omega)
  simp only [Formula.read, noNull, Bool.false_eq_true, if_false, run?_productText h negative names]
  simp [Grammar.formula, parsed]

theorem isNumeral_decimal {whole fraction : List Char} (number : IsNumber whole)
    (places : IsNumber fraction) : IsNumeral (whole ++ '.' :: fraction)
      (.decimal (Numeral.value 10 (whole ++ fraction)) (0 - fraction.length)) where
  digit := by
    obtain ⟨filled, all⟩ := number
    cases whole with
    | nil => exact absurd rfl filled
    | cons c whole => exact ⟨c, _, rfl, all c (by simp)⟩
  all c mem := by
    rcases List.mem_append.1 mem with mem | mem
    · exact Numeral.isNumeralCharacter_of_isDigit (number.2 c mem)
    · rcases List.mem_cons.1 mem with rfl | mem
      · decide
      · exact Numeral.isNumeralCharacter_of_isDigit (places.2 c mem)
  scans s stop := by
    rw [List.append_assoc, List.cons_append, Numeral.scan?_decimal number places stop]
    rfl

theorem isNumeral_scientific (n : Nat) (leading : Int) : IsNumeral (scientificText n leading)
    (.decimal n (leading - ((toString n).length - 1))) where
  digit := by
    obtain ⟨first, fraction, digits, pointed⟩ := toList_pointed n
    refine ⟨first, _, by rw [scientificText, pointed, List.cons_append], ?_⟩
    exact (isNumber_toDigits n).2 first (by simp [digits])
  all := isNumeralCharacter_scientificText n leading
  scans s stop := Numeral.scan?_scientific n leading stop

/-! ## The text of a float -/

section Floats

variable {x : Float}

/-- The text of a float is its sign and a numeral that is read as its magnitude. -/
structure IsText (x : Float) (negative : Bool) (w : List Char) (l : Literal) : Prop where
  text : (FloatText.shortest x).toList = (if negative then ['-'] else []) ++ w
  numeral : IsNumeral w l
  value : ∀ names, Polynomial.ofTree names (productTree negative l []) =
    .ok (Polynomial.constant x)

/-- A literal that is read as the magnitude is read as the float behind its sign. -/
theorem ofTree_productTree {negative : Bool} {m : Nat} {e : Int} {l : Literal}
    (finite : x.isFinite = true) (value : Binary64.decode x = .finite negative m e)
    (magnitude : ∀ y, Binary64.decode y = .finite false m e → TextNumber.ofLiteral l = .ok y)
    (names : List String) :
    Polynomial.ofTree names (productTree negative l []) = .ok (Polynomial.constant x) := by
  cases negative with
  | false => simp [productTree, Polynomial.ofTree, magnitude x value]
  | true =>
    have back : Polynomial.neg (Polynomial.constant (-x)) = Polynomial.constant x := by
      simp [Polynomial.neg, Polynomial.constant, Terms.mapCoefficients, FloatLaws.neg_neg finite]
    simp only [productTree, List.foldl_nil, if_true, Polynomial.ofTree,
      magnitude (-x) (decode_neg value)]
    exact congrArg Except.ok back

theorem exists_isText_of_positional (h : IsPositional x) : ∃ negative whole fraction l,
    IsNumber whole ∧ IsNumber fraction ∧ IsText x negative (whole ++ '.' :: fraction) l := by
  obtain ⟨negative, m, e, value⟩ := exists_of_isFinite h.finite
  obtain ⟨whole, fraction, same⟩ :
      ∃ whole fraction, magnitudeLexeme m e = .decimal whole fraction := by
    unfold magnitudeLexeme
    split <;> exact ⟨_, _, rfl⟩
  have operand := isOperand_magnitudeLexeme m e
  rw [same] at operand
  refine ⟨negative, whole, fraction, _, operand.1, operand.2, ?_,
    isNumeral_decimal operand.1 operand.2, ?_⟩
  · rw [← text_floatFactor h]
    cases negative <;> simp [floatFactor, value, same, Factor.lexemes, Lexeme.chars]
  · refine ofTree_productTree h.finite value fun y value => ?_
    obtain ⟨whole', fraction', same', read⟩ := ofDecimal_magnitude value
    rw [same] at same'
    cases same'
    exact congrArg Except.ok read

/-- What is not written as a plain decimal is written with an exponent. -/
theorem toList_shortest {negative : Bool} {m : Nat} {e : Int}
    (value : Binary64.decode x = .finite negative m e)
    (marked : 'e' ∈ (FloatText.shortest x).toList) :
    m ≠ 0 ∧ (FloatText.shortest x).toList = (if negative then ['-'] else []) ++
      scientificText (Decimal.shortest m e).digits
        ((toString (Decimal.shortest m e).digits).length - 1 + (Decimal.shortest m e).exponent) := by
  have signed : ∀ w : String, (if negative then "-" ++ w else w).toList =
      (if negative then ['-'] else []) ++ w.toList := fun w => by
    cases negative <;> simp
  simp only [FloatText.shortest, FloatText.withSpecials, value, signed] at marked ⊢
  have marked := (List.mem_append.1 marked).resolve_left (by cases negative <;> decide)
  by_cases zero : m = 0
  · simp [zero] at marked
  rw [if_neg zero] at marked ⊢
  by_cases decimal : -4 ≤ ((toString (Decimal.shortest m e).digits).length : Int) - 1 +
      (Decimal.shortest m e).exponent ∧ ((toString (Decimal.shortest m e).digits).length : Int) - 1 +
        (Decimal.shortest m e).exponent < 16
  · rw [if_pos decimal, Decimal.toList_positional] at marked
    obtain ⟨whole, places⟩ := Decimal.isNumber_parts (Decimal.shortest m e)
    rcases List.mem_append.1 marked with mem | mem
    · exact absurd (whole.2 _ mem) (by decide)
    · rcases List.mem_cons.1 mem with same | mem
      · cases same
      · exact absurd (places.2 _ mem) (by decide)
  · rw [if_neg decimal, String.toList_append]
    exact ⟨zero, rfl⟩

theorem exists_isText_of_exponent (finite : x.isFinite = true) (exponent : ¬ IsPositional x) :
    ∃ negative n leading l, IsText x negative (scientificText n leading) l := by
  obtain ⟨negative, m, e, value⟩ := FloatLaws.exists_of_isFinite finite
  have marked : 'e' ∈ (FloatText.shortest x).toList := by
    by_contra none
    exact exponent ⟨finite, none⟩
  obtain ⟨nonzero, text⟩ := toList_shortest value marked
  refine ⟨negative, _, _, _, text, isNumeral_scientific _ _, ?_⟩
  refine ofTree_productTree finite value fun y value => ?_
  refine congrArg Except.ok (ofDecimal_eq value nonzero ?_)
  rw [add_sub_cancel_left]
  exact Decimal.roundsTo_shortest (Nat.pos_of_ne_zero nonzero) e

/-! ## Reading the text of a float -/

theorem isPlain_productTree (negative : Bool) (l : Literal) (vs : List (List Char)) :
    (productTree negative l vs).IsPlain := by
  have grow : ∀ {t : Tree}, t.IsPlain →
      (vs.foldl (fun t v => Tree.binary .mul t (.name (String.ofList v))) t).IsPlain := by
    induction vs with
    | nil => exact id
    | cons v vs ih => exact fun plain => ih (.binary (by decide) plain (.name _))
  refine grow ?_
  cases negative
  · exact .number l
  · exact .unary (by decide) (.number l)

/-- A decimal with its sign, times names. -/
def decimalProduct (negative : Bool) (whole fraction : List Char) (vs : List (List Char)) :
    Summand :=
  ⟨⟨negative, .decimal whole fraction⟩, vs.map .word⟩

theorem text_decimalProduct (negative : Bool) (whole fraction : List Char)
    (vs : List (List Char)) :
    text ((decimalProduct negative whole fraction vs).lexemes.map Lexeme.named) =
      productText negative (whole ++ '.' :: fraction) vs := by
  cases negative <;>
    simp [text, decimalProduct, productText, Summand.lexemes, Factor.lexemes, Lexeme.named,
      Lexeme.chars, List.flatMap_map, List.flatMap_assoc, List.map_flatMap]

/-- Behind a plain decimal no letter touches it. -/
theorem isSeparate_decimal (negative : Bool) {whole fraction : List Char} (number : IsNumber whole)
    (places : IsNumber fraction) (names : ∀ v ∈ vs, IsName v) :
    isSeparate none (productText negative (whole ++ '.' :: fraction) vs) = true := by
  have written : (decimalProduct negative whole fraction vs).IsWritten := by
    refine ⟨⟨number, places⟩, fun l mem => ?_⟩
    obtain ⟨v, known, rfl⟩ := List.mem_map.1 mem
    exact names v known
  have spaced : Spaced (decimalProduct negative whole fraction vs).lexemes := by
    simpa using Summand.spaced written (by simp) .nil
  have kept := expand_text spaced none
  rw [text_decimalProduct] at kept
  have blank := isBlank_productText (isNumeral_decimal number places) negative names
  rcases expand_spec none (NoGap.of_noBlank blank) with ⟨separate, -⟩ | ⟨-, more⟩
  · exact separate
  · rw [kept] at more
    omega

theorem isSeparate_scientificText (negative : Bool) (n : Nat) (leading : Int)
    (vs : List (List Char)) :
    isSeparate none (productText negative (scientificText n leading) vs) = false := by
  have touches := touchesLetter_scientificText n leading (vs.flatMap (fun v => '*' :: v))
  obtain ⟨first, fraction, -, pointed⟩ := toList_pointed n
  have start (before : Option Char) (alone : before.any joinsNumber = false) :
      isSeparate before (scientificText n leading ++ vs.flatMap (fun v => '*' :: v)) = false := by
    rw [scientificText, pointed, List.cons_append, List.cons_append] at touches ⊢
    rw [isSeparate, touches, alone]
    rfl
  cases negative with
  | false => rw [productText_false, start none rfl]
  | true => rw [productText_true, isSeparate, start (some '-') (by decide), Bool.and_false]

/-- With the signs of products written into it, the text of a float times names is read as it
stands, and so it is without them exactly if no exponent touches a letter. -/
theorem IsText.read {negative : Bool} {w : List Char} {l : Literal} (h : IsText x negative w l)
    {vs : List (List Char)} (names : ∀ v ∈ vs, IsName v) :
    Formula.read ((FloatText.shortest x).toList ++ vs.flatMap (fun v => '*' :: v)) =
        .ok (productTree negative l vs) ∧
      (Reader.readFormula ((FloatText.shortest x).toList ++ vs.flatMap (fun v => '*' :: v)) =
        .ok (productTree negative l vs) ↔ isSeparate none (productText negative w vs) = true) := by
  have text : (FloatText.shortest x).toList ++ vs.flatMap (fun v => '*' :: v) =
      productText negative w vs := by
    rw [h.text, productText, List.append_assoc]
  have blank := isBlank_productText h.numeral negative names
  have trimmed : strip (productText negative w vs) = productText negative w vs :=
    strip_eq_self (fun c mem => blank c (List.mem_of_mem_head? mem))
      (fun c mem => blank c (List.mem_of_mem_getLast? mem))
  have read := read_product h.numeral negative names
  have iff := readFormula_eq_iff (not_mem_productText h.numeral negative names '#' (by simp))
    (by rw [trimmed, read]) (isPlain_productTree negative l vs)
  rw [trimmed] at iff
  rw [text]
  exact ⟨read, iff⟩

/-- With the signs of products written into it, the text of a float times names is read as it stands
if and only if it is written without an exponent. -/
theorem read_float (finite : x.isFinite = true) (vs : List (List Char)) (names : ∀ v ∈ vs, IsName v) :
    ∃ negative l,
      Formula.read ((FloatText.shortest x).toList ++ vs.flatMap (fun v => '*' :: v)) =
        .ok (productTree negative l vs) ∧
      (∀ names, Polynomial.ofTree names (productTree negative l []) =
        .ok (Polynomial.constant x)) ∧
      (Reader.readFormula ((FloatText.shortest x).toList ++ vs.flatMap (fun v => '*' :: v)) =
        .ok (productTree negative l vs) ↔ IsPositional x) := by
  by_cases positional : IsPositional x
  · obtain ⟨negative, whole, fraction, l, number, places, h⟩ :=
      exists_isText_of_positional positional
    obtain ⟨read, iff⟩ := h.read names
    have separate := isSeparate_decimal negative number places names
    exact ⟨negative, l, read, h.value, iff.trans (iff_of_true separate positional)⟩
  · obtain ⟨negative, n, leading, l, h⟩ := exists_isText_of_exponent finite positional
    obtain ⟨read, iff⟩ := h.read names
    have touching := isSeparate_scientificText negative n leading vs
    exact ⟨negative, l, read, h.value, iff.trans (iff_of_false (by simp [touching]) positional)⟩

end Floats

/-- A plain formula is read as it stands if and only if no number touches a letter. The text of a
finite float and its product with a variable are plain formulas that stand for the float, where the
coefficient of a variable loses the sign of a zero, and they are read so if and only if the float is
written without an exponent. -/
theorem readFormula_plain_iff (names : List String) :
    (∀ s t, '#' ∉ s → Formula.read (strip s) = .ok t → t.IsPlain →
      (Reader.readFormula s = .ok t ↔ isSeparate none (strip s) = true)) ∧
    ∀ x : Float, x.isFinite = true →
      (∃ t, Formula.read (FloatText.shortest x).toList = .ok t ∧
        Polynomial.ofTree names t = .ok (Polynomial.constant x) ∧
        (Reader.readFormula (FloatText.shortest x).toList = .ok t ↔ IsPositional x)) ∧
      ∀ v i, IsName v → position? names (String.ofList v) = some i →
        ∃ t c, Formula.read ((FloatText.shortest x).toList ++ '*' :: v) = .ok t ∧
          Polynomial.ofTree names t = .ok [(.linear i, c)] ∧
          (c == x) = true ∧ ((x != 0) = true → c = x) ∧
          (Reader.readFormula ((FloatText.shortest x).toList ++ '*' :: v) = .ok t ↔
            IsPositional x) := by
  refine ⟨fun s t noComment read plain => readFormula_eq_iff noComment read plain,
    fun x finite => ⟨?_, fun v i name known => ?_⟩⟩
  · obtain ⟨negative, l, read, value, iff⟩ := read_float finite [] (by simp)
    rw [List.flatMap_nil, List.append_nil] at read iff
    exact ⟨_, read, value names, iff⟩
  · obtain ⟨negative, l, read, value, iff⟩ := read_float finite [v] (by simpa using name)
    rw [List.flatMap_singleton] at read iff
    have variable' : Polynomial.ofTree names (.name (String.ofList v)) =
        .ok (Polynomial.ofVariable i : Polynomial Float) := by
      simp [Polynomial.ofTree, position, known]
    -- The coefficient is added to a sum that starts at zero, which a negative zero does not survive.
    have product : Polynomial.mul? (Polynomial.constant x) (Polynomial.ofVariable i) =
        some [(.linear i, 0 + x)] := by
      simp [Polynomial.mul?, Polynomial.constant, Polynomial.ofVariable, Monomial.mul?, Terms.add,
        FloatLaws.mul_one]
    exact ⟨_, _, read, Polynomial.ofTree_binary (value names) variable' product,
      FloatLaws.zero_add_beq finite, FloatLaws.zero_add, iff⟩

/-- A plain sum is read as it stands and a number with an exponent is not, although both are
formulas; a coefficient without an exponent is read back. -/
theorem readFormula_plain_exponent :
    Reader.readFormula "-2*x + 1".toList =
      .ok (.binary .add (.binary .mul (.unary .minus (.number (.integer 2))) (.name "x"))
        (.number (.integer 1))) ∧
    Reader.readFormula "1e+20".toList ≠ .ok (.number (.decimal 1 20)) ∧
    (∃ t, Formula.read (FloatText.shortest 1e+20).toList = .ok t ∧
      Polynomial.ofTree ["x"] t = .ok (Polynomial.constant 1e+20) ∧
      Reader.readFormula (FloatText.shortest 1e+20).toList ≠ .ok t) ∧
    ∃ t, Reader.readFormula ((FloatText.shortest 2.5).toList ++ '*' :: ['x']) = .ok t ∧
      Polynomial.ofTree ["x"] t = .ok [(.linear 0, 2.5)] := by
  obtain ⟨plain, float⟩ := readFormula_plain_iff ["x"]
  refine ⟨?_, ?_, ?_, ?_⟩
  · refine (plain _ _ (by decide) (by cbv) ?_).2 (by cbv)
    exact .binary (by decide) (.binary (by decide) (.unary (by decide) (.number _)) (.name _))
      (.number _)
  · intro same
    have separate := (plain _ _ (by decide) (by cbv) (.number _)).1 same
    exact absurd separate (by cbv; decide)
  · obtain ⟨⟨t, read, value, iff⟩, -⟩ := float 1e+20 (by decide)
    refine ⟨t, read, value, fun same => ?_⟩
    exact absurd (by decide +kernel) (iff.1 same).positional
  · obtain ⟨-, product⟩ := float 2.5 (by decide)
    obtain ⟨t, c, -, value, -, same, iff⟩ := product ['x'] 0 ⟨by decide, by decide⟩ (by decide)
    rw [same (by decide)] at value
    exact ⟨t, iff.2 ⟨by decide, by decide +kernel⟩, value⟩

end Formula

end MathProg
