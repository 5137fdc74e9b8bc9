import MathProg.Formula.Lexer
import MathProg.Proofs.Formula.Lexeme

/-!
# Lexing written text

The lexer gives back the lexemes that a text is written of, one token for each. Blanks stand only
next to signs of sums and commas and are skipped.
-/

namespace MathProg.Formula

open MathProg.Text Lexeme

/-- The token of a lexeme, whose placeholder has been named. -/
def Lexeme.token : Lexeme → Token
  | word w => .word (String.ofList w)
  | placeholder digits => .word (String.ofList (Reader.placeholderName digits))
  | decimal whole fraction =>
    .number (.decimal (Numeral.value 10 (whole ++ fraction)) (0 - fraction.length))
  | integer digits => .number (.integer (Numeral.value 10 digits))
  | sign c => .symbol (String.singleton c)
  | plus => .symbol "+"
  | comma => .symbol ","

namespace Lexer

/-! ## One token -/

theorem word?_identifier {w s : List Char} (name : isIdentifier w = true) (stop : Stops s) :
    word? (w ++ s) = some (.word (String.ofList w), s) := by
  have all : ∀ c ∈ w, Numeral.continuesWord c = true := fun c mem =>
    continuesWord_of_name (isNameCharacter_of_isIdentifier name c mem)
  have ends : ∀ c ∈ s.head?, Numeral.continuesWord c = false := stop.head_eq_false (by decide)
  have unquoted : ∀ c ∈ s.head?, (c == '\'' || c == '"') = false :=
    stop.head_eq_false (p := fun c => c == '\'' || c == '"') (by decide)
  cases w with
  | nil => simp [isIdentifier] at name
  | cons c w =>
    have valid : (isIdentifierStart c && w.all isIdentifierContinue) = true := by
      rw [isIdentifier, Bool.and_eq_true, List.all_eq_true] at name
      rw [isIdentifierStart_of_letter name.1, Bool.true_and, List.all_eq_true]
      exact fun d mem => isIdentifierContinue_of_name (name.2 d mem)
    cases s with
    | nil =>
      rw [word?, takeWhile_append_of_stop all ends, dropWhile_append_of_stop all ends]
      exact if_pos valid
    | cons d s =>
      rw [word?, takeWhile_append_of_stop all ends, dropWhile_append_of_stop all ends]
      simp only [unquoted d rfl]
      exact if_pos valid

/-- How the lexer decides what a character that starts a name begins. -/
theorem token?_identifier {w s : List Char} (name : isIdentifier w = true) (stop : Stops s) :
    token? (w ++ s) = some (.word (String.ofList w), s) := by
  have found := word?_identifier name stop
  cases w with
  | nil => simp [isIdentifier] at name
  | cons c w =>
    rw [isIdentifier, Bool.and_eq_true] at name
    have letter := isNameCharacter_of_letter name.1
    have noDigit := not_isDigit_of_letter name.1
    have noPoint : (c == '.') = false :=
      name_induction (P := fun c => (c == '.') = false) (by decide) letter
    have noQuote : (c == '\'' || c == '"') = false :=
      name_induction (P := fun c => (c == '\'' || c == '"') = false) (by decide) letter
    rw [List.cons_append] at found ⊢
    simp [token?, noDigit, noPoint, noQuote, continuesWord_of_name letter, found]

theorem symbol?_sign {c : Char} {s : List Char} (known : c ∈ signs)
    (next : ∀ d ∈ s.head?, d ∉ ['*', '=', '>']) :
    symbol? (c :: s) = some (String.singleton c, s) := by
  have found : symbols.find? (fun w => w.toList.isPrefixOf (c :: s)) =
      some (String.singleton c) := by
    simp only [signs, List.mem_cons, List.not_mem_nil, or_false] at known
    cases s with
    | nil => rcases known with rfl | rfl | rfl | rfl | rfl | rfl | rfl <;> decide
    | cons d s =>
      simp only [List.head?_cons, Option.mem_some_iff, forall_eq', List.mem_cons,
        List.not_mem_nil, or_false, not_or] at next
      obtain ⟨star, equals, greater⟩ := next
      rcases known with rfl | rfl | rfl | rfl | rfl | rfl | rfl <;>
        simp [symbols, List.isPrefixOf, Ne.symm star, Ne.symm equals, Ne.symm greater]
  simp [symbol?, found]

theorem token?_sign {c : Char} {s : List Char} (known : c ∈ signs)
    (next : ∀ d ∈ s.head?, d ∉ ['*', '=', '>']) :
    token? (c :: s) = some (.symbol (String.singleton c), s) := by
  have kind : ∀ c ∈ signs, c.isDigit = false ∧ (c == '.') = false ∧
      (c == '\'' || c == '"') = false ∧ Numeral.continuesWord c = false :=
    forall_mem_of_all (by decide)
  obtain ⟨noDigit, noPoint, noQuote, noWord⟩ := kind c known
  simp [token?, noDigit, noPoint, noQuote, noWord, symbol?_sign known next]

end Lexer

/-! ## Numerals -/

namespace Numeral

theorem digits?_append {w s : List Char} (all : ∀ c ∈ w, c.isDigit = true)
    (stop : ∀ c ∈ s.head?, c.isDigit = false ∧ c ≠ '_') :
    digits? Char.isDigit (w ++ s) = some (w, s) := by
  induction w with
  | nil =>
    cases s with
    | nil => rfl
    | cons c s =>
      obtain ⟨noDigit, noGroup⟩ := stop c rfl
      simp [digits?, noDigit, noGroup]
  | cons c w ih =>
    simp [digits?, all c (by simp), ih fun d mem => all d (List.mem_cons_of_mem _ mem)]

/-- The marks of the other bases. -/
def baseMarks : List Char := ['x', 'X', 'o', 'O', 'b', 'B']

theorem not_mem_baseMarks {c : Char} (digit : c.isDigit = true) : c ∉ baseMarks :=
  name_induction (P := fun c => c.isDigit = true → c ∉ baseMarks) (by decide)
    (isNameCharacter_of_digit digit) digit

/-- Only the marks of other bases keep digits from being decimal. -/
theorem scan?_eq {d : Char} {s : List Char} (digit : d.isDigit = true)
    (decimal : ∀ c ∈ s.head?, c ∉ baseMarks) :
    scan? (d :: s) = (digits? Char.isDigit (d :: s)).bind (fun (run, left) => decimal? run left) := by
  unfold scan?
  split
  · next same =>
    cases same
    exact absurd digit (by decide)
  · next c rest same =>
    cases same
    simp only [List.head?_cons, Option.mem_some_iff, forall_eq', baseMarks, List.mem_cons,
      List.not_mem_nil, or_false, not_or] at decimal
    simp [decimal]
  · rfl

theorem exponent?_of_stops {s : List Char} (h : Stops s) : exponent? s = some none := by
  cases s with
  | nil => rfl
  | cons c s =>
    have mark := h.head_eq_false (p := fun c => c == 'e' || c == 'E') (by decide) c rfl
    simp only [Bool.or_eq_false_iff] at mark
    simp [exponent?, bne, mark]

theorem isImaginaryMark_of_stops {s : List Char} (h : Stops s) : isImaginaryMark s = false := by
  cases s with
  | nil => rfl
  | cons c s => exact h.head_eq_false (p := fun c => c == 'j' || c == 'J') (by decide) c rfl

theorem finish_of_stops {s : List Char} (h : Stops s) (t : Token) : finish t s = some (t, s) := by
  cases s with
  | nil => rfl
  | cons c s =>
    have ends : continuesWord c = false := h.head_eq_false (by decide) c rfl
    simp [finish, endsAt, ends]

theorem digits?_of_stops {w s : List Char} (number : IsNumber w) (stop : Stops s) :
    digits? Char.isDigit (w ++ s) = some (w, s) :=
  digits?_append number.2 fun c mem => ⟨stop.head_eq_false (by decide) c mem,
    stop.head_ne (by decide) c mem⟩

theorem scan?_decimal {whole fraction s : List Char} (number : IsNumber whole)
    (places : IsNumber fraction) (stop : Stops s) :
    scan? (whole ++ '.' :: (fraction ++ s)) =
      some ((Lexeme.decimal whole fraction).token, s) := by
  have run : digits? Char.isDigit (whole ++ '.' :: (fraction ++ s)) =
      some (whole, '.' :: (fraction ++ s)) := by
    refine digits?_append number.2 ?_
    simp only [List.head?_cons, Option.mem_some_iff, forall_eq']
    decide
  have behind : fraction? (fraction ++ s) = some (fraction, s) := by
    rw [← digits?_of_stops places stop]
    obtain ⟨filled, all⟩ := places
    cases fraction with
    | nil => exact absurd rfl filled
    | cons c fraction =>
      rw [List.cons_append]
      exact if_pos (all c (by simp))
  have value : decimal? whole ('.' :: (fraction ++ s)) =
      some ((Lexeme.decimal whole fraction).token, s) := by
    simp [decimal?, behind, float?, exponent?_of_stops stop, isImaginaryMark_of_stops stop,
      finish_of_stops stop, Lexeme.token]
  obtain ⟨filled, all⟩ := number
  cases whole with
  | nil => exact absurd rfl filled
  | cons d whole =>
    have decimal : ∀ c ∈ (whole ++ '.' :: (fraction ++ s)).head?, c ∉ baseMarks := by
      cases whole with
      | nil => simp [baseMarks]
      | cons c whole => simpa using not_mem_baseMarks (all c (by simp))
    rw [List.cons_append] at run ⊢
    rw [scan?_eq (all d (by simp)) decimal, run]
    exact value

theorem scan?_integer {digits s : List Char} (number : IsNumber digits) (plain : IsPlain digits)
    (stop : Stops s) : scan? (digits ++ s) = some ((Lexeme.integer digits).token, s) := by
  have run := digits?_of_stops number stop
  have noPoint : decimal? digits s =
      if digits.all (· == '0') then some (.number (.integer 0), s)
      else if digits.head? == some '0' || 4300 < digits.length then none
      else some (.number (.integer (value 10 digits)), s) := by
    have behind := stop.head_ne (by decide : '.' ∉ stops)
    unfold decimal?
    split
    · simp at behind
    · simp only [exponent?_of_stops stop, isImaginaryMark_of_stops stop, finish_of_stops stop,
        Option.bind_eq_bind, Option.bind_some, Bool.false_eq_true, if_false]
  have value : decimal? digits s = some ((Lexeme.integer digits).token, s) := by
    rw [noPoint]
    -- several zeros are zero as well, but no other number may start with one
    rcases plain with rfl | ⟨leading, short⟩
    · rfl
    · obtain ⟨filled, -⟩ := number
      cases digits with
      | nil => exact absurd rfl filled
      | cons d digits =>
        have nonzero : d ≠ '0' := by simpa using leading
        have first : ((d :: digits).head? == some '0') = false := by simpa using nonzero
        have fits : decide (4300 < (d :: digits).length) = false :=
          decide_eq_false (Nat.not_lt.2 short)
        rw [if_neg (by simp [nonzero]), first, fits, Bool.false_or, if_neg Bool.false_ne_true]
        rfl
  obtain ⟨filled, all⟩ := number
  cases digits with
  | nil => exact absurd rfl filled
  | cons d digits =>
    have decimal : ∀ c ∈ (digits ++ s).head?, c ∉ baseMarks := by
      cases digits with
      | nil =>
        have free : ∀ c ∈ stops, c ∉ baseMarks := forall_mem_of_all (by decide)
        exact fun c mem => free c (stop c mem)
      | cons c digits => simpa using not_mem_baseMarks (all c (by simp))
    rw [List.cons_append] at run ⊢
    rw [scan?_eq (all d (by simp)) decimal, run]
    exact value

end Numeral

namespace Lexer

theorem token?_digit {c : Char} {s : List Char} (digit : c.isDigit = true) :
    token? (c :: s) = Numeral.scan? (c :: s) := by
  simp [token?, digit]

/-! ## All tokens -/

/-- A character that starts a token: it is skipped in no way. -/
def Begins (c : Char) : Prop :=
  isGap c = false ∧ c ≠ '#' ∧ c ≠ '\n' ∧ c ≠ '\\'

theorem begins_of_plain {c : Char} (h : isPlain c = true) (blank : isBlank c = false) : Begins c :=
  plain_induction
    (P := fun c => isBlank c = false → isGap c = false ∧ c ≠ '#' ∧ c ≠ '\n' ∧ c ≠ '\\')
    (by decide) h blank

theorem begins_of_name {c : Char} (h : isNameCharacter c = true) : Begins c :=
  name_induction (P := fun c => isGap c = false ∧ c ≠ '#' ∧ c ≠ '\n' ∧ c ≠ '\\') (by decide) h

/-- What the lexer makes of a text does not depend on how much fuel is left. -/
def Lexes (brackets : List Char) (s : List Char) (ts : List Token) : Prop :=
  ∀ fuel, s.length < fuel → tokens? fuel brackets s = some ts

theorem Lexes.gap {brackets s : List Char} {ts : List Token} (h : Lexes brackets s ts) {c : Char}
    (blank : isGap c = true) : Lexes brackets (c :: s) ts := by
  intro fuel enough
  cases fuel with
  | zero => simp at enough
  | succ fuel =>
    rw [List.length_cons, Nat.add_lt_add_iff_right] at enough
    simp [tokens?, blank, h fuel enough]

/-- A token in front. -/
theorem Lexes.token {brackets after w s : List Char} {t : Token} {ts : List Token}
    (rest : Lexes after s ts) (filled : w ≠ []) (begins : ∀ c ∈ w.head?, Begins c)
    (first : token? (w ++ s) = some (t, s)) (known : bracketsAfter? brackets t = some after) :
    Lexes brackets (w ++ s) (t :: ts) := by
  intro fuel enough
  cases w with
  | nil => exact absurd rfl filled
  | cons c w =>
    cases fuel with
    | zero => simp at enough
    | succ fuel =>
      obtain ⟨noGap, noComment, noBreak, noContinuation⟩ := begins c rfl
      have shorter : s.length < fuel := by
        simp only [List.cons_append, List.length_cons, List.length_append] at enough
        omega
      rw [List.cons_append] at first ⊢
      simp [tokens?, noGap, noComment, noBreak, noContinuation, first, known, rest fuel shorter]

variable {ls : List Lexeme}

/-- An identifier in front. -/
theorem Lexes.identifier {brackets w s : List Char} {ts : List Token} (rest : Lexes brackets s ts)
    (name : isIdentifier w = true) (stop : Stops s) :
    Lexes brackets (w ++ s) (.word (String.ofList w) :: ts) :=
  rest.token (ne_nil_of_isIdentifier name)
    (fun c mem => begins_of_name
      (isNameCharacter_of_isIdentifier name c (List.mem_of_mem_head? mem)))
    (token?_identifier name stop) rfl

/-- A number in front. -/
theorem Lexes.number {brackets w s : List Char} {t : Literal} {ts : List Token}
    (rest : Lexes brackets s ts) (filled : w ≠ []) (digit : ∀ c ∈ w.head?, c.isDigit = true)
    (first : Numeral.scan? (w ++ s) = some (.number t, s)) :
    Lexes brackets (w ++ s) (.number t :: ts) := by
  refine rest.token filled
    (fun c mem => begins_of_name (isNameCharacter_of_digit (digit c mem))) ?_ rfl
  cases w with
  | nil => exact absurd rfl filled
  | cons c w =>
    rw [List.cons_append] at first ⊢
    rw [token?_digit (digit c rfl), first]

/-- The sign of a sum or a comma, whose blank keeps it apart. -/
theorem token?_before_blank {c : Char} {s : List Char} (known : c = '+' ∨ c = ',') :
    token? (c :: ' ' :: s) = some (.symbol (String.singleton c), ' ' :: s) := by
  have found : symbols.find? (fun w => w.toList.isPrefixOf (c :: ' ' :: s)) =
      some (String.singleton c) := by
    rcases known with rfl | rfl <;> simp [symbols, List.isPrefixOf]
  rcases known with rfl | rfl <;> simp [token?, Numeral.continuesWord, symbol?, found] <;> rfl

/-- Named lexemes are cut into their tokens, if their brackets match. -/
theorem lexes_text (h : Spaced ls) {brackets : List Char}
    (balanced : (ls.map Lexeme.token).foldlM bracketsAfter? brackets = some []) :
    Lexes brackets (text (ls.map named)) (ls.map Lexeme.token) := by
  have stops : ∀ {ls : List Lexeme}, Spaced ls → (∀ l ∈ ls.head?, l.breaks = true) →
      Stops (text (ls.map named)) := fun rest next =>
    rest.map_named.stops (by simpa [List.head?_map] using next)
  have blank : isGap ' ' = true := by decide
  -- the brackets that a token leaves open
  have open' : ∀ {l : Lexeme} {ls : List Lexeme} {brackets : List Char},
      ((l :: ls).map Lexeme.token).foldlM bracketsAfter? brackets = some [] →
      ∃ after, bracketsAfter? brackets l.token = some after ∧
        (ls.map Lexeme.token).foldlM bracketsAfter? after = some [] := fun balanced => by
    simpa [Option.bind_eq_some_iff] using balanced
  induction h generalizing brackets with
  | nil =>
    intro fuel enough
    obtain rfl : brackets = [] := by simpa using balanced
    cases fuel with
    | zero => simp at enough
    | succ fuel => rfl
  | word name next rest ih => exact (ih balanced).identifier name (stops rest next)
  | placeholder number next rest ih =>
    exact (ih balanced).identifier (isIdentifier_placeholderName number.2) (stops rest next)
  | @decimal whole fraction ls number places next rest ih =>
    refine (ih balanced).number (w := whole ++ '.' :: fraction) (by simp) (fun c mem => ?_) ?_
    · obtain ⟨filled, all⟩ := number
      cases whole with
      | nil => exact absurd rfl filled
      | cons d whole => exact all c (by simp_all)
    · rw [List.append_assoc]
      exact Numeral.scan?_decimal number places (stops rest next)
  | integer number plain next rest ih =>
    exact (ih balanced).number number.1 (fun c mem => number.2 c (List.mem_of_mem_head? mem))
      (Numeral.scan?_integer number plain (stops rest next))
  | @sign c ls known next rest ih =>
    obtain ⟨after, known', balanced⟩ := open' balanced
    have single := rest.map_named.head_of_joins (by simpa [List.head?_map] using next)
    refine (ih balanced).token (w := [c]) (by simp) ?_ (token?_sign known single) known'
    simp only [List.head?_cons, Option.mem_some_iff, forall_eq']
    have begins : ∀ c ∈ signs, Begins c := by
      unfold Begins
      exact forall_mem_of_all (by decide)
    exact begins c known
  | plus rest ih =>
    refine Lexes.gap ?_ blank
    exact ((ih balanced).gap blank).token (w := ['+']) (by simp) (by rintro _ ⟨rfl⟩; unfold Begins; decide)
      (token?_before_blank (.inl rfl)) rfl
  | comma rest ih =>
    exact ((ih balanced).gap blank).token (w := [',']) (by simp) (by rintro _ ⟨rfl⟩; unfold Begins; decide)
      (token?_before_blank (.inr rfl)) rfl

theorem unifyBreaks_eq_self {s : List Char} (h : '\r' ∉ s) : unifyBreaks s = s := by
  induction s with
  | nil => rfl
  | cons c s ih =>
    simp only [List.mem_cons, not_or] at h
    rw [unifyBreaks, ih h.2]
    · exact fun _ same _ => h.1 same.symm
    · exact fun same => h.1 same.symm

/-- A text that begins at the margin has no blank lines in front. -/
theorem skipBlankLines_eq_some {fuel : Nat} {c : Char} {s : List Char} (h : Begins c) :
    skipBlankLines (fuel + 1) false (c :: s) = some (c :: s) := by
  obtain ⟨noGap, noComment, noBreak, noContinuation⟩ := h
  simp [skipBlankLines, noGap, noComment, noBreak, noContinuation, indents]

/-- A text that begins with a token is cut into its tokens. -/
theorem run?_of_lexes {c : Char} {s : List Char} {ts : List Token} (noReturn : '\r' ∉ c :: s)
    (begins : Begins c) (lexed : Lexes [] (c :: s) ts) : run? (c :: s) = some ts := by
  have lexed := lexed _ (Nat.lt_succ_self _)
  rw [run?, unifyBreaks_eq_self noReturn]
  simpa [skipBlankLines_eq_some begins] using lexed

/-- A row of lexemes that does not begin with a blank is read as its tokens. -/
theorem run?_text (h : Spaced ls) (filled : ls ≠ []) (tight : ∀ l ∈ ls.head?, l.isTight = true)
    (balanced : (ls.map Lexeme.token).foldlM bracketsAfter? [] = some []) :
    run? (text (ls.map named)) = some (ls.map Lexeme.token) := by
  have named := h.map_named
  have noReturn : '\r' ∉ text (ls.map Lexeme.named) := fun mem =>
    absurd (named.isPlain _ mem) (by decide)
  have lexed := lexes_text h balanced
  cases ls with
  | nil => exact absurd rfl filled
  | cons l ls =>
    have tight : l.named.isTight = true := by
      rw [isTight_named]
      exact tight l rfl
    obtain ⟨filled, blank⟩ := named.filled (by simp) tight
    have begins : ∀ c ∈ l.named.chars, Begins c := fun c mem =>
      begins_of_plain (named.isPlain c (by simp [mem])) (blank c mem)
    rw [List.map_cons, text_cons] at lexed noReturn ⊢
    cases same : l.named.chars with
    | nil => exact absurd same filled
    | cons c w =>
      rw [same] at lexed begins noReturn
      exact run?_of_lexes noReturn (begins c (by simp)) lexed

end Lexer

end MathProg.Formula
