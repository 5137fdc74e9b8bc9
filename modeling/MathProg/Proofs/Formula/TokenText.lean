import MathProg.Formula.Lexer
import MathProg.Proofs.Formula.Derivation
import MathProg.Proofs.Text.Ascii

/-!
# The text of tokens

What the lexer takes off a text for a token, and what it skips between tokens. In the text of a
plain formula a number is never followed by blanks and a letter, and the sign of a product stands
there exactly where it is a token.
-/

namespace MathProg.Formula

open MathProg.Text Juxtaposition

/-! ## Taking characters -/

/-- What is left behind characters of a kind. -/
def Takes (p : Char → Bool) (s left : List Char) : Prop :=
  ∃ w, s = w ++ left ∧ ∀ c ∈ w, p c = true

namespace Takes

variable {p q : Char → Bool} {s left rest : List Char} {c : Char}

theorem refl (s : List Char) : Takes p s s :=
  ⟨[], rfl, by simp⟩

theorem cons (known : p c = true) (h : Takes p s left) : Takes p (c :: s) left := by
  obtain ⟨w, rfl, all⟩ := h
  exact ⟨c :: w, rfl, List.forall_mem_cons.2 ⟨known, all⟩⟩

theorem trans (h : Takes p s left) (h' : Takes p left rest) : Takes p s rest := by
  obtain ⟨w, rfl, all⟩ := h
  obtain ⟨v, rfl, all'⟩ := h'
  refine ⟨w ++ v, by simp, fun c mem => ?_⟩
  exact (List.mem_append.1 mem).elim (all c) (all' c)

theorem mono (h : Takes p s left) (le : ∀ c, p c = true → q c = true) : Takes q s left := by
  obtain ⟨w, rfl, all⟩ := h
  exact ⟨w, rfl, fun c mem => le c (all c mem)⟩

theorem dropWhile (p : Char → Bool) (s : List Char) : Takes p s (s.dropWhile p) :=
  ⟨s.takeWhile p, List.takeWhile_append_dropWhile.symm, fun _ mem => List.mem_takeWhile_imp mem⟩

end Takes

/-! ## Numerals -/

namespace Numeral

/-- The characters of numerals. -/
def isNumeralCharacter (c : Char) : Bool :=
  isNameCharacter c || c == '.' || c == '+' || c == '-'

variable {s left : List Char} {t : Token}

theorem isNumeralCharacter_of_isDigit {c : Char} (h : c.isDigit = true) :
    isNumeralCharacter c = true := by
  simp [isNumeralCharacter, isNameCharacter_of_digit h]

theorem digits?_takes {ok : Char → Bool} {run : List Char}
    (read : digits? ok s = some (run, left)) : Takes (fun c => ok c || c == '_') s left := by
  fun_induction digits? ok s generalizing run with
  | case1 =>
    cases read
    exact .refl _
  | case2 c rest known ih =>
    obtain ⟨⟨run', left'⟩, inner, same⟩ := Option.map_eq_some_iff.1 read
    cases same
    exact (ih inner).cons (by simp [known])
  | case3 c other group d tail known ih => exact (ih read).cons (by simpa using Or.inr group)
  | case4 => cases read
  | case5 => cases read
  | case6 =>
    cases read
    exact .refl _

theorem digits?_takes_decimal {run : List Char} (read : digits? Char.isDigit s = some (run, left)) :
    Takes isNumeralCharacter s left := by
  refine (digits?_takes read).mono fun c known => ?_
  simp only [Bool.or_eq_true, beq_iff_eq] at known
  rcases known with digit | rfl
  · exact isNumeralCharacter_of_isDigit digit
  · decide

theorem finish_eq_some {token : Token} (read : finish token s = some (t, left)) :
    t = token ∧ left = s := by
  unfold finish at read
  split at read <;> cases read
  exact ⟨rfl, rfl⟩

theorem exponent?_takes {power : Int} (read : exponent? s = some (some (power, left))) :
    Takes isNumeralCharacter s left := by
  unfold exponent? at read
  split at read
  · rename_i e rest
    split at read
    · cases read
    · rename_i mark
      have known : isNumeralCharacter e = true := by
        simp only [bne_iff_ne, Bool.and_eq_true, not_and_or, not_not] at mark
        rcases mark with rfl | rfl <;> decide
      refine .cons known ?_
      split at read
      · rename_i sign d tail
        split at read
        · rename_i signed
          have known : isNumeralCharacter sign = true := by
            simp only [Bool.or_eq_true, beq_iff_eq] at signed
            rcases signed with rfl | rfl <;> decide
          split at read
          · obtain ⟨⟨run, behind⟩, digits, done⟩ := Option.bind_eq_some_iff.1 read
            cases done
            exact (digits?_takes_decimal digits).cons known
          · cases read
        · split at read
          · obtain ⟨⟨run, behind⟩, digits, done⟩ := Option.bind_eq_some_iff.1 read
            cases done
            exact digits?_takes_decimal digits
          · cases read
      · split at read
        · cases read
        · split at read
          · rename_i digit
            cases read
            exact .cons (isNumeralCharacter_of_isDigit digit) (.refl [])
          · cases read
      · cases read
  · cases read

/-- A number, real or imaginary. -/
def IsQuantity (t : Token) : Prop :=
  t = .imaginary ∨ ∃ l, t = .number l

theorem isNumeralCharacter_of_isImaginaryMark {c : Char} {s : List Char}
    (h : isImaginaryMark (c :: s) = true) : isNumeralCharacter c = true := by
  simp only [isImaginaryMark, Bool.or_eq_true, beq_iff_eq] at h
  rcases h with rfl | rfl <;> decide

theorem imaginary_takes (mark : isImaginaryMark s = true)
    (read : finish .imaginary (s.drop 1) = some (t, left)) :
    Takes isNumeralCharacter s left ∧ IsQuantity t := by
  obtain ⟨rfl, rfl⟩ := finish_eq_some read
  cases s with
  | nil => cases mark
  | cons c s => exact ⟨.cons (isNumeralCharacter_of_isImaginaryMark mark) (.refl _), .inl rfl⟩

theorem float?_takes {whole places : List Char} (read : float? whole places s = some (t, left)) :
    Takes isNumeralCharacter s left ∧ IsQuantity t := by
  unfold float? at read
  obtain ⟨exponent, found, read⟩ := Option.bind_eq_some_iff.1 read
  have behind : Takes isNumeralCharacter s (exponent.getD (0, s)).2 := by
    cases exponent with
    | none => exact .refl _
    | some e => exact exponent?_takes found
  dsimp only at read
  split at read
  · rename_i mark
    obtain ⟨taken, numeral⟩ := imaginary_takes mark read
    exact ⟨behind.trans taken, numeral⟩
  · obtain ⟨rfl, rfl⟩ := finish_eq_some read
    exact ⟨behind, .inr ⟨_, rfl⟩⟩

theorem fraction?_takes {places : List Char} (read : fraction? s = some (places, left)) :
    Takes isNumeralCharacter s left := by
  unfold fraction? at read
  split at read
  · split at read
    · exact digits?_takes_decimal read
    · cases read
      exact .refl _
  · cases read
    exact .refl _

theorem decimal?_takes {run : List Char} (read : decimal? run s = some (t, left)) :
    Takes isNumeralCharacter s left ∧ IsQuantity t := by
  unfold decimal? at read
  split at read
  · obtain ⟨⟨places, behind⟩, fraction, read⟩ := Option.bind_eq_some_iff.1 read
    obtain ⟨taken, numeral⟩ := float?_takes read
    exact ⟨.cons (by decide) ((fraction?_takes fraction).trans taken), numeral⟩
  · obtain ⟨exponent, found, read⟩ := Option.bind_eq_some_iff.1 read
    cases exponent with
    | some e => exact float?_takes read
    | none =>
      dsimp only at read
      split at read
      · exact imaginary_takes ‹_› read
      · split at read
        · obtain ⟨rfl, rfl⟩ := finish_eq_some read
          exact ⟨.refl _, .inr ⟨_, rfl⟩⟩
        · split at read
          · cases read
          · obtain ⟨rfl, rfl⟩ := finish_eq_some read
            exact ⟨.refl _, .inr ⟨_, rfl⟩⟩

theorem based?_takes {base : Nat} {ok : Char → Bool}
    (known : ∀ c, ok c = true → isNumeralCharacter c = true)
    (read : based? base ok s = some (t, left)) :
    Takes isNumeralCharacter s left ∧ IsQuantity t := by
  unfold based? at read
  obtain ⟨⟨run, behind⟩, digits, read⟩ := Option.bind_eq_some_iff.1 read
  have taken : Takes isNumeralCharacter s behind := by
    refine (digits?_takes digits).mono fun c mem => ?_
    simp only [Bool.or_eq_true, beq_iff_eq] at mem
    rcases mem with mem | rfl
    · exact known c mem
    · decide
  dsimp only at read
  split at read
  · cases read
  · split at read
    · cases read
    · obtain ⟨rfl, rfl⟩ := finish_eq_some read
      exact ⟨taken, .inr ⟨_, rfl⟩⟩
  · cases read
    exact ⟨taken, .inr ⟨_, rfl⟩⟩

/-- Digits of other bases are among the characters of numerals. -/
theorem isNumeralCharacter_of_between {low high c : Char}
    (all : ∀ n < 128, low ≤ Char.ofNat n ∧ Char.ofNat n ≤ high →
      isNumeralCharacter (Char.ofNat n) = true)
    (ascii : high.toNat < 128) (h : low ≤ c ∧ c ≤ high) : isNumeralCharacter c = true := by
  have small : c.toNat < 128 := Nat.lt_of_le_of_lt h.2 ascii
  exact ascii_induction (P := fun c => low ≤ c ∧ c ≤ high → isNumeralCharacter c = true) all small h

theorem isNumeralCharacter_of_isHexDigit {c : Char} (h : isHexDigit c = true) :
    isNumeralCharacter c = true := by
  simp only [isHexDigit, Bool.or_eq_true, Bool.and_eq_true, decide_eq_true_eq] at h
  rcases h with (digit | lower) | upper
  · exact isNumeralCharacter_of_isDigit digit
  · exact isNumeralCharacter_of_between (by decide) (by decide) lower
  · exact isNumeralCharacter_of_between (by decide) (by decide) upper

theorem isBlank_of_isNumeralCharacter {c : Char} (h : isNumeralCharacter c = true) :
    isBlank c = false := by
  simp only [isNumeralCharacter, Bool.or_eq_true, beq_iff_eq] at h
  rcases h with ((name | rfl) | rfl) | rfl
  · exact isBlank_of_name name
  all_goals decide

theorem digits?_decimal_takes {c : Char} (digit : c.isDigit = true)
    (read : (digits? Char.isDigit (c :: s)).bind (fun r => decimal? r.1 r.2) = some (t, left)) :
    Takes isNumeralCharacter s left ∧ IsQuantity t := by
  obtain ⟨⟨run, behind⟩, digits, read⟩ := Option.bind_eq_some_iff.1 read
  obtain ⟨taken, numeral⟩ := decimal?_takes read
  simp only [digits?, digit, if_true] at digits
  obtain ⟨⟨run', behind'⟩, inner, same⟩ := Option.map_eq_some_iff.1 digits
  cases same
  exact ⟨(digits?_takes_decimal inner).trans taken, numeral⟩

/-- A numeral in another base, with the mark that announces it. -/
theorem marked_based?_takes {base : Nat} {ok : Char → Bool} {mark : Char}
    (known : isNumeralCharacter mark = true) (all : ∀ c, ok c = true → isNumeralCharacter c = true)
    (read : based? base ok s = some (t, left)) :
    Takes isNumeralCharacter (mark :: s) left ∧ IsQuantity t := by
  obtain ⟨taken, numeral⟩ := based?_takes all read
  exact ⟨taken.cons known, numeral⟩

/-- A numeral takes at least one character, and all of them are those of numerals. -/
theorem scan?_takes {c : Char} (start : c.isDigit = true ∨ c = '.')
    (read : scan? (c :: s) = some (t, left)) : Takes isNumeralCharacter s left ∧ IsQuantity t := by
  unfold scan? at read
  split at read
  · -- a point first
    rename_i rest same
    cases same
    obtain ⟨⟨places, behind⟩, fraction, read⟩ := Option.bind_eq_some_iff.1 read
    obtain ⟨taken, numeral⟩ := float?_takes read
    exact ⟨(fraction?_takes fraction).trans taken, numeral⟩
  · -- a zero first, which a mark of another base can follow
    rename_i mark rest same
    cases same
    split at read
    · rename_i hex
      simp only [Bool.or_eq_true, beq_iff_eq] at hex
      refine marked_based?_takes ?_ (fun c => isNumeralCharacter_of_isHexDigit) read
      rcases hex with rfl | rfl <;> decide
    · split at read
      · rename_i octal
        simp only [Bool.or_eq_true, beq_iff_eq] at octal
        refine marked_based?_takes ?_ (fun c known => ?_) read
        · rcases octal with rfl | rfl <;> decide
        · have digits : '0' ≤ c ∧ c ≤ '7' := by simpa using known
          exact isNumeralCharacter_of_between (by decide) (by decide) digits
      · split at read
        · rename_i binary
          simp only [Bool.or_eq_true, beq_iff_eq] at binary
          refine marked_based?_takes ?_ (fun c known => ?_) read
          · rcases binary with rfl | rfl <;> decide
          · have digits : c = '0' ∨ c = '1' := by simpa using known
            rcases digits with rfl | rfl <;> decide
        · exact digits?_decimal_takes (by decide) read
  · -- another digit first
    rename_i noPoint _
    rcases start with digit | rfl
    · exact digits?_decimal_takes digit read
    · exact absurd rfl (noPoint s)

end Numeral

/-! ## Blanks -/

/-- The blanks that are not ASCII. -/
def wideBlanks : List Nat :=
  [0x85, 0xA0, 0x1680, 0x2028, 0x2029, 0x202F, 0x205F, 0x3000] ++ List.range' 0x2000 11

theorem mem_wideBlanks {c : Char} (h : isBlank c = true) (wide : ¬ c.toNat < 128) :
    c.toNat ∈ wideBlanks := by
  simp only [isBlank, Bool.or_eq_true, Bool.and_eq_true, decide_eq_true_eq, beq_iff_eq] at h
  simp only [wideBlanks, List.mem_append, List.mem_cons, List.not_mem_nil, or_false,
    List.mem_range'_1]
  omega

/-- No blank starts an identifier. -/
theorem isIdentifierStart_of_isBlank {c : Char} (h : isBlank c = true) :
    isIdentifierStart c = false := by
  have table : ∀ n ∈ wideBlanks, Ranges.mem identifierStartRanges n = false := by decide +kernel
  unfold isIdentifierStart
  split
  · rename_i ascii
    exact ascii_induction (P := fun c => isBlank c = true → (c.isAlpha || c == '_') = false)
      (by decide) ascii h
  · exact table _ (mem_wideBlanks h ‹_›)

/-- No blank belongs to an identifier. -/
theorem isIdentifierContinue_of_isBlank {c : Char} (h : isBlank c = true) :
    isIdentifierContinue c = false := by
  have table : ∀ n ∈ wideBlanks, Ranges.mem identifierContinueRanges n = false := by decide +kernel
  unfold isIdentifierContinue
  split
  · rename_i ascii
    exact ascii_induction (P := fun c => isBlank c = true → (c.isAlphanum || c == '_') = false)
      (by decide) ascii h
  · exact table _ (mem_wideBlanks h ‹_›)

/-! ## The text of a token -/

/-- A point, or a digit of any script. -/
def endsNumber (c : Char) : Bool :=
  isDigit c || c == '.'

/-- The characters of plain symbols. -/
def plainSigns : List Char := ['+', '-', '*', '(', ')', '[', ']', ',', '=']

/-- What the text of a plain token looks like. -/
structure Token.Shows (t : Token) (w : List Char) : Prop where
  filled : w ≠ []
  noBlank : ∀ c ∈ w, isBlank c = false
  times : w.count '*' = if t = .symbol "*" then 1 else 0
  letter : ∀ c ∈ w.head?, isNameLetter c = true → ∃ id, t = .word id
  numeral : ∀ c ∈ w.getLast?, endsNumber c = true → ∀ id, ¬ t.Admits (.word id)

namespace Token.Shows

variable {w : List Char} {c : Char}

theorem number (l : Literal) (start : c.isDigit = true ∨ c = '.')
    (all : ∀ d ∈ w, Numeral.isNumeralCharacter d = true) : (number l).Shows (c :: w) := by
  have first : Numeral.isNumeralCharacter c = true ∧ isNameLetter c = false := by
    rcases start with digit | rfl
    · refine ⟨Numeral.isNumeralCharacter_of_isDigit digit, ?_⟩
      rw [← Bool.not_eq_true]
      intro letter
      rw [not_isDigit_of_letter letter] at digit
      cases digit
    · decide
  have all : ∀ d ∈ c :: w, Numeral.isNumeralCharacter d = true :=
    List.forall_mem_cons.2 ⟨first.1, all⟩
  refine ⟨by simp, fun d mem => Numeral.isBlank_of_isNumeralCharacter (all d mem), ?_, ?_, ?_⟩
  · rw [if_neg (by simp), List.count_eq_zero]
    exact fun mem => absurd (all _ mem) (by decide)
  · rintro d ⟨rfl⟩ letter
    rw [first.2] at letter
    cases letter
  · exact fun _ _ _ _ => id

theorem word (id : String) (start : isIdentifierStart c = true)
    (others : ∀ d ∈ w, isIdentifierContinue d = true) : (word id).Shows (c :: w) := by
  have blank : ∀ d ∈ c :: w, isBlank d = false := by
    refine List.forall_mem_cons.2 ⟨?_, fun d mem => ?_⟩
    · rw [← Bool.not_eq_true]
      intro blank
      rw [isIdentifierStart_of_isBlank blank] at start
      cases start
    · rw [← Bool.not_eq_true]
      intro blank
      exact absurd (others d mem) (by simp [isIdentifierContinue_of_isBlank blank])
  refine ⟨by simp, blank, ?_, fun _ _ _ => ⟨id, rfl⟩, fun _ _ _ _ admits => admits⟩
  rw [if_neg (by simp), List.count_eq_zero, List.mem_cons, not_or]
  refine ⟨?_, fun mem => absurd (others _ mem) (by decide)⟩
  rintro rfl
  exact absurd start (by decide)

theorem symbol {w : String} (known : w ∈ plainSymbols) : (symbol w).Shows w.toList := by
  have signs : plainSymbols = plainSigns.map String.singleton := rfl
  have table : ∀ c ∈ plainSigns, isBlank c = false ∧ isNameLetter c = false ∧
      endsNumber c = false ∧ [c].count '*' = if String.singleton c = "*" then 1 else 0 :=
    forall_mem_of_all (by decide)
  rw [signs, List.mem_map] at known
  obtain ⟨c, known, rfl⟩ := known
  obtain ⟨blank, letter, numeral, times⟩ := table c known
  rw [String.toList_singleton]
  exact ⟨by simp, by simpa using blank, by simpa using times, by simp [letter], by simp [numeral]⟩

end Token.Shows

namespace Quotation

/-- Quoted texts are not plain. -/
theorem scan?_not_isPlain {marks : Marks} {s left : List Char} {t : Token}
    (read : scan? marks s = some (t, left)) : t.isPlain = false := by
  unfold scan? at read
  split at read
  · obtain ⟨⟨body, behind⟩, -, read⟩ := Option.bind_eq_some_iff.1 read
    dsimp only at read
    split at read
    · cases read
    · split at read
      · cases read
      · split at read
        · obtain ⟨⟨fields, unread⟩, -, read⟩ := Option.bind_eq_some_iff.1 read
          dsimp only at read
          split at read <;> cases read
          rfl
        · cases read
          split <;> rfl
  · cases read

end Quotation

namespace Lexer

variable {s left : List Char} {t : Token}

theorem symbol?_eq_some {w : String} (read : symbol? s = some (w, left)) :
    s = w.toList ++ left := by
  obtain ⟨w', found, same⟩ := Option.map_eq_some_iff.1 read
  cases same
  have first := List.find?_some found
  obtain ⟨rest, same⟩ := List.isPrefixOf_iff_prefix.1 first
  rw [← same, ← String.length_toList, List.drop_left]

theorem word?_shows (read : word? s = some (t, left)) (plain : t.isPlain = true) :
    ∃ w, s = w ++ left ∧ t.Shows w := by
  unfold word? at read
  dsimp only at read
  split at read
  · rw [Quotation.scan?_not_isPlain read] at plain
    cases plain
  · rename_i c others _ word
    split at read
    · rename_i known
      cases read
      simp only [Bool.and_eq_true, List.all_eq_true] at known
      refine ⟨s.takeWhile Numeral.continuesWord, List.takeWhile_append_dropWhile.symm, ?_⟩
      rw [word]
      exact .word _ known.1 known.2
    · cases read
  · cases read

/-- A plain token is taken off with its text. -/
theorem token?_shows (read : token? s = some (t, left)) (plain : t.isPlain = true) :
    ∃ w, s = w ++ left ∧ t.Shows w := by
  unfold token? at read
  split at read
  · cases read
  · rename_i c rest
    split at read
    · rename_i numeral
      have start : c.isDigit = true ∨ c = '.' := by
        simp only [Bool.or_eq_true, Bool.and_eq_true, beq_iff_eq] at numeral
        exact numeral.imp id And.left
      obtain ⟨⟨w, rfl, all⟩, rfl | ⟨l, rfl⟩⟩ := Numeral.scan?_takes start read
      · cases plain
      · exact ⟨c :: w, rfl, .number l start all⟩
    · split at read
      · rw [Quotation.scan?_not_isPlain read] at plain
        cases plain
      · split at read
        · exact word?_shows read plain
        · obtain ⟨⟨w, behind⟩, found, same⟩ := Option.map_eq_some_iff.1 read
          cases same
          exact ⟨w.toList, symbol?_eq_some found, .symbol (List.contains_iff_mem.1 plain)⟩

end Lexer

/-! ## The text of a row of tokens -/

/-- What may stand between tokens. -/
def isSeparator (c : Char) : Bool :=
  Lexer.isGap c || c == '\n' || c == '\\'

/-- A row of the texts of plain tokens, with separators between them. -/
inductive Spells : List Char → List Token → Prop
  | nil : Spells [] []
  | separator {c : Char} {s : List Char} {ts : List Token} (known : isSeparator c = true)
      (rest : Spells s ts) : Spells (c :: s) ts
  | token {t : Token} {w s : List Char} {ts : List Token} (shows : t.Shows w)
      (rest : Spells s ts) : Spells (w ++ s) (t :: ts)

/-- Between a number and a letter never stand blanks only. -/
def NoGap (s : List Char) : Prop :=
  ∀ before d blanks l behind, s = before ++ d :: (blanks ++ l :: behind) → endsNumber d = true →
    (∀ b ∈ blanks, isBlank b = true) → isNameLetter l = true → blanks = []

theorem NoGap.tail {c : Char} {s : List Char} (h : NoGap (c :: s)) : NoGap s := by
  intro before d blanks l behind split
  exact h (c :: before) d blanks l behind (by rw [split, List.cons_append])

/-- Without blanks there are no gaps. -/
theorem NoGap.of_noBlank {s : List Char} (h : ∀ c ∈ s, isBlank c = false) : NoGap s := by
  intro before d blanks l behind split _ all _
  cases blanks with
  | nil => rfl
  | cons b blanks =>
    have blank := h b (by simp [split])
    rw [all b (by simp)] at blank
    cases blank

namespace Spells

variable {s left : List Char} {ts : List Token}

theorem separators (h : Spells left ts) (taken : Takes isSeparator s left) : Spells s ts := by
  obtain ⟨w, rfl, all⟩ := taken
  induction w with
  | nil => exact h
  | cons c w ih => exact .separator (all c (by simp)) (ih fun c mem => all c (by simp [mem]))

/-- No separator is part of a number or a name. -/
theorem isSeparator_spec {c : Char} (h : isSeparator c = true) :
    isNameLetter c = false ∧ endsNumber c = false ∧ c ≠ '*' := by
  simp only [isSeparator, Lexer.isGap, Bool.or_eq_true, beq_iff_eq] at h
  rcases h with (((rfl | rfl) | rfl) | rfl) | rfl <;> decide

/-- The sign of a product stands only where it is a token. -/
theorem count_times (h : Spells s ts) : s.count '*' = ts.count (.symbol "*") := by
  induction h with
  | nil => rfl
  | separator known rest ih =>
    rw [List.count_cons_of_ne (isSeparator_spec known).2.2, ih]
  | token shows rest ih =>
    rw [List.count_append, shows.times, List.count_cons, ih, Nat.add_comm]
    simp

/-- A letter behind blanks starts a word. -/
theorem head_word {blanks behind : List Char} {l : Char} (h : Spells s ts)
    (split : s = blanks ++ l :: behind) (all : ∀ b ∈ blanks, isBlank b = true)
    (letter : isNameLetter l = true) : ∃ id ts', ts = .word id :: ts' := by
  induction h generalizing blanks with
  | nil => simp at split
  | @separator c s ts known rest ih =>
    cases blanks with
    | nil =>
      cases split
      rw [(isSeparator_spec known).1] at letter
      cases letter
    | cons b blanks =>
      cases split
      exact ih rfl fun b mem => all b (by simp [mem])
  | @token t w s ts shows rest ih =>
    have head : w.head? = (blanks ++ l :: behind).head? := by
      rw [← split, List.head?_append_of_ne_nil _ shows.filled]
    cases blanks with
    | nil =>
      obtain ⟨id, rfl⟩ := shows.letter l (by simpa using head) letter
      exact ⟨id, ts, rfl⟩
    | cons b blanks =>
      have mem : b ∈ w := List.mem_of_mem_head? (by simpa using head)
      exact absurd (all b (by simp)) (by simp [shows.noBlank b mem])

theorem noGap (h : Spells s ts) (apart : ts.IsChain Token.Admits) : NoGap s := by
  induction h with
  | nil =>
    intro before d blanks l behind split
    simp at split
  | @separator c s ts known rest ih =>
    intro before d blanks l behind split ends all letter
    cases before with
    | nil =>
      cases split
      rw [(isSeparator_spec known).2.1] at ends
      cases ends
    | cons c before =>
      cases split
      exact ih apart before d blanks l behind rfl ends all letter
  | @token t w s ts shows rest ih =>
    intro before d blanks l behind split ends all letter
    rcases List.append_eq_append_iff.1 split with ⟨more, rfl, same⟩ | ⟨more, rfl, same⟩
    · exact ih apart.tail more d blanks l behind same ends all letter
    · cases more with
      | nil => exact ih apart.tail [] d blanks l behind (by simpa using same.symm) ends all letter
      | cons e more =>
        obtain ⟨rfl, rest'⟩ := List.cons_eq_cons.1 same
        cases blanks with
        | nil => rfl
        | cons b blanks =>
          cases more with
          | nil =>
            -- the number is the last thing of its token, and a word follows
            obtain ⟨id, ts', rfl⟩ := head_word rest rest'.symm all letter
            have admits := (List.isChain_cons_cons.1 apart).1
            exact absurd admits (shows.numeral d (by simp) ends id)
          | cons b' more =>
            obtain ⟨rfl, -⟩ := List.cons_eq_cons.1 rest'
            exact absurd (all b (by simp)) (by simp [shows.noBlank b (by simp)])

end Spells

/-! ## Cutting a text into tokens -/

namespace Lexer

variable {s left : List Char} {ts : List Token}

/-- Blank lines are separators. -/
theorem skipBlankLines_takes {fuel : Nat} {indented : Bool} (noComment : '#' ∉ s)
    (read : skipBlankLines fuel indented s = some left) : Takes isSeparator s left := by
  induction fuel generalizing indented s with
  | zero => cases read
  | succ fuel ih =>
    have gap : Takes isSeparator s (s.dropWhile isGap) :=
      (Takes.dropWhile isGap s).mono fun c known => by simp [isSeparator, known]
    have noComment : '#' ∉ s.dropWhile isGap := fun mem =>
      noComment ((List.dropWhile_suffix isGap).subset mem)
    refine gap.trans ?_
    unfold skipBlankLines at read
    dsimp only at read
    split at read
    · rename_i more same
      rw [same] at noComment ⊢
      simp only [List.mem_cons, not_or] at noComment
      exact .cons (by decide) (ih noComment.2 read)
    · rename_i more same
      simp [same] at noComment
    · rename_i more same
      rw [same] at noComment ⊢
      simp only [List.mem_cons, not_or] at noComment
      split at read
      · cases read
      · exact .cons (by decide) (.cons (by decide) (ih noComment.2.2 read))
    · split at read
      · cases read
      · cases read
        exact .refl _

theorem takes_of_onlyBlank (noComment : '#' ∉ s) (blank : onlyBlank s = true) :
    Takes isSeparator s [] :=
  skipBlankLines_takes noComment (eq_of_beq blank)

/-- The tokens of a text without comments spell it. -/
theorem tokens?_spells {fuel : Nat} {brackets : List Char} (noComment : '#' ∉ s)
    (read : tokens? fuel brackets s = some ts) (plain : ∀ t ∈ ts, t.isPlain = true) :
    Spells s ts := by
  induction fuel generalizing brackets s ts with
  | zero => cases read
  | succ fuel ih =>
    unfold tokens? at read
    split at read
    · split at read <;> cases read
      exact .nil
    · rename_i c rest
      simp only [List.mem_cons, not_or] at noComment
      split at read
      -- a gap
      · rename_i gap
        exact .separator (by simp [isSeparator, gap]) (ih noComment.2 read plain)
      · split at read
        -- a comment, of which there are none
        · rename_i comment
          exact absurd (eq_of_beq comment).symm noComment.1
        · split at read
          -- the end of a line: of the formula, or within brackets
          · rename_i break'
            have known : isSeparator c = true := by simp [isSeparator, break']
            split at read
            · split at read <;> cases read
              exact .separator known (Spells.nil.separators (takes_of_onlyBlank noComment.2 ‹_›))
            · exact .separator known (ih noComment.2 read plain)
          · split at read
            -- a line that is continued
            · rename_i continuation
              have known : isSeparator c = true := by simp [isSeparator, continuation]
              split at read
              · split at read
                · cases read
                · simp only [List.mem_cons, not_or] at noComment
                  exact .separator known (.separator (by decide) (ih noComment.2.2 read plain))
              · cases read
            -- a token
            · obtain ⟨⟨t, behind⟩, first, read⟩ := Option.bind_eq_some_iff.1 read
              obtain ⟨after, -, read⟩ := Option.bind_eq_some_iff.1 read
              obtain ⟨others, tail, done⟩ := Option.bind_eq_some_iff.1 read
              cases done
              obtain ⟨w, same, shows⟩ := token?_shows first (plain t (by simp))
              have noComment : '#' ∉ behind := fun mem => by
                have inside : '#' ∈ c :: rest := by simp [same, mem]
                exact (List.mem_cons.1 inside).elim noComment.1 noComment.2
              rw [same]
              exact .token shows (ih noComment tail fun t mem => plain t (by simp [mem]))

theorem mem_unifyBreaks {c : Char} (h : c ∈ unifyBreaks s) : c ∈ s ∨ c = '\n' := by
  fun_induction unifyBreaks s <;> grind

theorem unifyBreaks_cons {c : Char} (h : c ≠ '\r') : unifyBreaks (c :: s) = c :: unifyBreaks s := by
  rw [unifyBreaks]
  · exact fun _ same _ => h same
  · exact h

/-- Line breaks are unified piece by piece. -/
theorem unifyBreaks_append {w : List Char} (next : s.head? ≠ some '\n') :
    unifyBreaks (w ++ s) = unifyBreaks w ++ unifyBreaks s := by
  fun_induction unifyBreaks w with
  | case1 => rfl
  | case2 rest ih => simp [unifyBreaks, ih]
  | case3 rest alone ih =>
    have alone : ∀ more, rest ++ s ≠ '\n' :: more := by
      cases rest with
      | nil => simpa [List.head?_eq_some_iff] using next
      | cons c rest => simpa using alone
    rw [List.cons_append, unifyBreaks, ih, List.cons_append]
    exact alone
  | case4 c rest _ single ih =>
    rw [List.cons_append, unifyBreaks_cons single, ih, List.cons_append]

theorem count_unifyBreaks {c : Char} (h : c ≠ '\n') (h' : c ≠ '\r') :
    (unifyBreaks s).count c = s.count c := by
  fun_induction unifyBreaks s with
  | case1 => rfl
  | case2 | case3 => simp [h.symm, h'.symm, *]
  | case4 => simp [List.count_cons, *]

theorem unifyBreaks_eq_nil (h : unifyBreaks s = []) : s = [] := by
  unfold unifyBreaks at h
  split at h <;> first | rfl | cases h

/-- The tokens of a text without comments spell it, up to the kind of its line breaks. -/
theorem run?_spells (noComment : '#' ∉ s) (read : run? s = some ts)
    (plain : ∀ t ∈ ts, t.isPlain = true) : Spells (unifyBreaks s) ts := by
  obtain ⟨text, skipped, read⟩ := Option.bind_eq_some_iff.1 read
  have noComment : '#' ∉ unifyBreaks s := fun mem =>
    (mem_unifyBreaks mem).elim noComment (by decide)
  have taken := skipBlankLines_takes noComment skipped
  have noComment : '#' ∉ text := fun mem => by
    obtain ⟨w, same, -⟩ := taken
    exact noComment (by simp [same, mem])
  exact (tokens?_spells noComment read plain).separators taken

end Lexer

/-- Gaps do not depend on the kind of line breaks. -/
theorem NoGap.of_unifyBreaks {s : List Char} (h : NoGap (Lexer.unifyBreaks s)) : NoGap s := by
  intro before d blanks l behind split ends all letter
  have digit : d ≠ '\n' ∧ d ≠ '\r' := by
    constructor <;> rintro rfl <;> exact absurd ends (by decide)
  have start : l ≠ '\n' ∧ l ≠ '\r' := by
    constructor <;> rintro rfl <;> exact absurd letter (by decide)
  have unified : Lexer.unifyBreaks s = Lexer.unifyBreaks before ++
      d :: (Lexer.unifyBreaks blanks ++ l :: Lexer.unifyBreaks behind) := by
    rw [split, Lexer.unifyBreaks_append (by simpa using digit.1), Lexer.unifyBreaks_cons digit.2,
      Lexer.unifyBreaks_append (by simpa using start.1), Lexer.unifyBreaks_cons start.2]
  refine Lexer.unifyBreaks_eq_nil (h _ _ _ _ _ unified ends (fun c mem => ?_) letter)
  rcases Lexer.mem_unifyBreaks mem with mem | rfl
  · exact all c mem
  · decide

end MathProg.Formula
