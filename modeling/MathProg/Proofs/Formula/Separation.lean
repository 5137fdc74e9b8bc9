import MathProg.Proofs.Formula.Soundness
import MathProg.Proofs.Formula.TokenText
import MathProg.Proofs.Formula.Lexeme
import MathProg.Proofs.Text.Cutting

/-!
# Numbers apart from letters

The sign of a product is written into a plain formula exactly where a number and a letter touch, as
in a number with an exponent, with the mark of another base or with grouped digits. A formula
without such a place is read as it stands; any other one is read as something else, for it gains a
product.
-/

namespace MathProg.Formula

open MathProg.Text Juxtaposition

/-- Whether a letter follows the number at the front of the text directly. -/
def touchesLetter (s : List Char) : Bool :=
  !(s.takeWhile isDigit).isEmpty && (fraction (s.dropWhile isDigit)).2.head?.any isNameLetter

/-- Whether no number is followed by a letter directly. `before` is the character in front of the
text. -/
def isSeparate (before : Option Char) : List Char → Bool
  | [] => true
  | c :: rest => (before.any joinsNumber || !touchesLetter (c :: rest)) && isSeparate (some c) rest

variable {s number rest : List Char} {l : Char}

/-! ## Products that are found -/

theorem letter?_eq_some (found : letter? s = some (l, rest)) :
    isNameLetter l = true ∧ ∃ blanks, s = blanks ++ l :: rest ∧ ∀ b ∈ blanks, isBlank b = true := by
  unfold letter? at found
  split at found
  · rename_i c behind same
    split at found <;> cases found
    refine ⟨‹_›, s.takeWhile isBlank, ?_, fun b mem => List.mem_takeWhile_imp mem⟩
    rw [← same, List.takeWhile_append_dropWhile]
  · cases found

theorem fraction_append (s : List Char) : (fraction s).1 ++ (fraction s).2 = s := by
  unfold fraction
  split
  · simp [List.takeWhile_append_dropWhile]
  · rfl

theorem sign_append (s : List Char) : (sign s).1 ++ (sign s).2 = s := by
  unfold sign
  split <;> rfl

/-- An exponent starts with a letter. -/
theorem exponent?_eq_some {exponent : List Char} (found : exponent? s = some (exponent, rest)) :
    s = exponent ++ rest ∧ s.head?.any isNameLetter = true := by
  unfold exponent? at found
  split at found
  · rename_i mark tail
    dsimp only at found
    split at found
    · rename_i known
      cases found
      refine ⟨?_, ?_⟩
      · rw [List.append_assoc, List.takeWhile_append_dropWhile, List.cons_append, sign_append]
      · simp only [Bool.and_eq_true, Bool.or_eq_true, beq_iff_eq] at known
        rcases known.1 with rfl | rfl
        · exact (by decide : isNameLetter 'e' = true)
        · exact (by decide : isNameLetter 'E' = true)
    · cases found
  · cases found

/-- Digits with a fraction end in a digit or a point. -/
theorem endsNumber_getLast {digits : List Char} (filled : digits ≠ [])
    (all : ∀ c ∈ digits, isDigit c = true) (s : List Char) :
    ∃ init d, digits ++ (fraction s).1 = init ++ [d] ∧ endsNumber d = true := by
  have digit : ∀ c, isDigit c = true → endsNumber c = true := fun c known => by
    simp [endsNumber, known]
  have known : ∀ c ∈ digits ++ (fraction s).1, endsNumber c = true := by
    intro c mem
    rcases List.mem_append.1 mem with mem | mem
    · exact digit c (all c mem)
    · unfold fraction at mem
      split at mem
      · rcases List.mem_cons.1 mem with rfl | mem
        · decide
        · exact digit c (List.mem_takeWhile_imp mem)
      · cases mem
  rcases List.eq_nil_or_concat (digits ++ (fraction s).1) with none | ⟨init, d, same⟩
  · exact absurd (List.append_eq_nil_iff.1 none).1 filled
  · rw [List.concat_eq_append] at same
    exact ⟨init, d, same, known d (by simp [same])⟩

/-- A product without a sign is a number, blanks and a letter; where no blanks separate the two,
they touch. -/
theorem product?_eq_some (found : product? s = some (number, l, rest)) :
    ∃ blanks, s = number ++ (blanks ++ l :: rest) ∧ (∀ b ∈ blanks, isBlank b = true) ∧
      (NoGap s → touchesLetter s = true) := by
  have split : s = s.takeWhile isDigit ++ ((fraction (s.dropWhile isDigit)).1 ++
      (fraction (s.dropWhile isDigit)).2) := by
    rw [fraction_append, List.takeWhile_append_dropWhile]
  have all : ∀ c ∈ s.takeWhile isDigit, isDigit c = true := fun c mem =>
    List.mem_takeWhile_imp mem
  unfold product? at found
  dsimp only at found
  unfold touchesLetter
  -- only how the text is split matters from here on
  generalize s.takeWhile isDigit = digits at *
  generalize s.dropWhile isDigit = tail at *
  split at found
  · cases found
  · rename_i filled
    simp only [filled, Bool.not_false, Bool.true_and]
    split at found
    · rename_i scientific
      cases found
      unfold scientificProduct? at scientific
      split at scientific
      · rename_i exponent behind mark
        obtain ⟨⟨c, after⟩, letter, same⟩ := Option.map_eq_some_iff.1 scientific
        cases same
        obtain ⟨written, touches⟩ := exponent?_eq_some mark
        obtain ⟨-, blanks, same, blank⟩ := letter?_eq_some letter
        refine ⟨blanks, ?_, blank, fun _ => touches⟩
        rw [split, written, same]
        simp
      · cases scientific
    · obtain ⟨⟨c, after⟩, letter, same⟩ := Option.map_eq_some_iff.1 found
      cases same
      obtain ⟨known, blanks, same, blank⟩ := letter?_eq_some letter
      refine ⟨blanks, by rw [split, same, List.append_assoc], blank, fun noGap => ?_⟩
      obtain ⟨init, d, last, ends⟩ := endsNumber_getLast (by simpa using filled) all tail
      -- a number and a letter with blanks between them would be a gap
      have none : blanks = [] := by
        refine noGap init d blanks c after ?_ ends blank known
        rw [split, same, ← List.append_assoc, last]
        simp
      rw [same, none]
      simpa using known

/-- The blanks that a product drops hold no sign of a product. -/
theorem count_of_product? (found : product? s = some (number, l, rest)) :
    s.count '*' = number.count '*' + (l :: rest).count '*' := by
  obtain ⟨blanks, same, blank, -⟩ := product?_eq_some found
  have none : blanks.count '*' = 0 :=
    List.count_eq_zero.2 fun mem => absurd (blank _ mem) (by decide)
  rw [same, List.count_append, List.count_append, none, Nat.zero_add]

theorem letter?_of_head (h : s.head?.any isNameLetter = true) : letter? s ≠ none := by
  cases s with
  | nil => cases h
  | cons c s =>
    have letter : isNameLetter c = true := h
    have blank : isBlank c = false := isBlank_of_name (isNameCharacter_of_letter letter)
    simp [letter?, blank, letter]

/-- Where a letter follows a number directly, a product is found. -/
theorem product?_of_touchesLetter (touches : touchesLetter s = true) : product? s ≠ none := by
  simp only [touchesLetter, Bool.and_eq_true, Bool.not_eq_true'] at touches
  unfold product?
  dsimp only
  rw [touches.1, if_neg Bool.false_ne_true]
  split
  · simp
  · simpa using letter?_of_head touches.2

/-! ## What is rewritten -/

/-- No sign of a product is lost. -/
theorem count_le_expand (before : Option Char) (s : List Char) :
    s.count '*' ≤ (expand before s).count '*' := by
  fun_induction expand before s with
  | case1 => rfl
  | case2 before c rest joined ih => simpa [List.count_cons] using ih
  | case3 before c rest joined number l behind found ih =>
    rw [count_of_product? found]
    simp only [List.count_append, List.count_cons]
    omega
  | case4 before c rest joined found ih => simpa [List.count_cons] using ih

theorem mem_expand {before : Option Char} {c : Char} (h : c ∈ expand before s) :
    c ∈ s ∨ c = '*' := by
  fun_induction expand before s with
  | case1 => cases h
  | case2 before d rest joined ih => grind
  | case3 before d rest joined number l behind found ih =>
    obtain ⟨blanks, same, -, -⟩ := product?_eq_some found
    grind
  | case4 before d rest joined found ih => grind

/-- A text whose numbers stand apart from letters is kept, any other one gains a product. -/
theorem expand_spec (before : Option Char) (noGap : NoGap s) :
    (isSeparate before s = true ∧ expand before s = s) ∨
      (isSeparate before s = false ∧ s.count '*' < (expand before s).count '*') := by
  fun_induction expand before s with
  | case1 => exact .inl ⟨rfl, rfl⟩
  | case2 before c rest joined ih =>
    have tail := noGap.tail
    have joined : before.any joinsNumber = true := joined
    have same : isSeparate before (c :: rest) = isSeparate (some c) rest := by
      simp [isSeparate, joined]
    rw [same]
    simpa [List.count_cons] using ih tail
  -- the number touches its letter, for in the text there are no gaps
  | case3 before c rest joined number l behind found ih =>
    have alone : before.any joinsNumber = false := eq_false_of_ne_true joined
    obtain ⟨-, -, -, touches⟩ := product?_eq_some found
    have le := count_le_expand (some l) behind
    refine .inr ⟨by simp [isSeparate, alone, touches noGap], ?_⟩
    rw [count_of_product? found]
    simp only [List.count_append, List.count_cons, beq_self_eq_true, if_true]
    omega
  | case4 before c rest joined found ih =>
    have tail := noGap.tail
    have apart : touchesLetter (c :: rest) = false := by
      rw [← Bool.not_eq_true]
      exact fun touches => product?_of_touchesLetter touches found
    have same : isSeparate before (c :: rest) = isSeparate (some c) rest := by
      simp [isSeparate, apart]
    rw [same]
    simpa [List.count_cons] using ih tail

/-! ## Plain formulas -/

section Plain

variable {t : Tree}

/-- In the text of a plain formula no blanks stand between a number and a letter, and every sign of
a product is one of the formula. -/
theorem text_of_read (noComment : '#' ∉ s) (read : Formula.read s = .ok t) (plain : t.IsPlain) :
    NoGap s ∧ s.count '*' = t.products := by
  obtain ⟨ts, cut, derived⟩ := tokens_of_read read plain
  have orderly := derived.areOrderly
  have spelled := Lexer.run?_spells noComment cut orderly.plain
  refine ⟨(spelled.noGap orderly.apart).of_unifyBreaks, ?_⟩
  rw [← Lexer.count_unifyBreaks (by decide) (by decide), spelled.count_times, derived.count_times]
  rfl

theorem readFormula_eq_ok (s : List Char) (t : Tree) :
    Reader.readFormula s = .ok t ↔ Formula.read (expand none (strip s)) = .ok t := by
  unfold Reader.readFormula
  cases Formula.read (expand none (strip s)) <;> simp [Except.mapError]

/-- What is read where a number and a letter touch has more products than were written. -/
theorem products_of_touching (noComment : '#' ∉ s) (noGap : NoGap (strip s))
    (touching : isSeparate none (strip s) = false) (read : Reader.readFormula s = .ok t)
    (plain : t.IsPlain) : (strip s).count '*' < t.products := by
  have noComment : '#' ∉ expand none (strip s) := fun mem =>
    (mem_expand mem).elim (fun mem => noComment (mem_strip mem)) (by decide)
  rw [← (text_of_read noComment ((readFormula_eq_ok s t).1 read) plain).2]
  rcases expand_spec none noGap with ⟨apart, -⟩ | ⟨-, more⟩
  · rw [apart] at touching
    cases touching
  · exact more

/-- A plain formula is read as it stands if and only if no number and letter touch in it. -/
theorem readFormula_eq_iff (noComment : '#' ∉ s) (read : Formula.read (strip s) = .ok t)
    (plain : t.IsPlain) : Reader.readFormula s = .ok t ↔ isSeparate none (strip s) = true := by
  obtain ⟨noGap, products⟩ := text_of_read (fun mem => noComment (mem_strip mem)) read plain
  constructor
  · intro same
    rw [← Bool.not_eq_false]
    intro touching
    -- both readings are of the same formula, so their texts hold as many signs of products
    have more := products_of_touching noComment noGap touching same plain
    omega
  · intro apart
    rcases expand_spec none noGap with ⟨-, same⟩ | ⟨touching, -⟩
    · rw [readFormula_eq_ok, same, read]
    · rw [apart] at touching
      cases touching

end Plain

end MathProg.Formula
