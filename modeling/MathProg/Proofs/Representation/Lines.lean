import MathProg.Proofs.ConstraintSet.Spelling
import MathProg.Proofs.Representation.Functions

/-!
# Lines

The lines that a representation is written in. What is left of a line without comment, blanks and
placeholders is cut at the right places: a label is split off where there is one, no line is taken
for a declaration, and the last ` in ` is the one before the set.
-/

namespace MathProg

open Formula Text

/-! ## Cleaning -/

/-- A line that has neither a comment nor outer blanks. -/
structure IsTrimmed (s : List Char) : Prop where
  first : ∀ c ∈ s.head?, isBlank c = false
  last : ∀ c ∈ s.getLast?, isBlank c = false
  plain : ∀ c ∈ s, isPlain c = true ∨ c = ':'

theorem IsTrimmed.cleanLine_eq {s : List Char} (h : IsTrimmed s) :
    Reader.cleanLine s = Reader.namePlaceholders s := by
  have noComment : ∀ c ∈ s, (c != '#') = true := by
    intro c mem
    rcases h.plain c mem with plain | rfl
    · exact plain_induction (P := fun c => (c != '#') = true) (by decide) plain
    · decide
  have whole : s.takeWhile (fun c => c != '#') = s := by
    simpa using takeWhile_append_of_stop (s := []) noComment (by simp)
  rw [Reader.cleanLine, whole, strip_eq_self h.first h.last]

theorem IsTrimmed.noBreak {s : List Char} (h : IsTrimmed s) : ∀ c ∈ s, isLineBreak c = false := by
  intro c mem
  rcases h.plain c mem with plain | rfl
  · exact plain_induction (P := fun c => isLineBreak c = false) (by decide) plain
  · decide

/-- Rows of lexemes without blanks at their ends. -/
structure IsPhrase (ls : List Lexeme) : Prop where
  spaced : Spaced ls
  filled : ls ≠ []
  first : ∀ l ∈ ls.head?, l.isTight = true
  last : ∀ l ∈ ls.getLast?, l.isTight = true

namespace IsPhrase

variable {ls : List Lexeme}

theorem head_notBlank (h : IsPhrase ls) : ∀ c ∈ (text ls).head?, isBlank c = false := by
  obtain ⟨l, ls, rfl⟩ := List.exists_cons_of_ne_nil h.filled
  obtain ⟨filled, blank⟩ := h.spaced.filled (by simp) (h.first l rfl)
  intro c mem
  rw [text_cons, List.head?_append_of_ne_nil _ filled] at mem
  exact blank c (List.mem_of_mem_head? mem)

theorem text_ne_nil (h : IsPhrase ls) : text ls ≠ [] := by
  obtain ⟨l, ls, rfl⟩ := List.exists_cons_of_ne_nil h.filled
  have := (h.spaced.filled (by simp) (h.first l rfl)).1
  simp [this]

theorem last_notBlank (h : IsPhrase ls) : ∀ c ∈ (text ls).getLast?, isBlank c = false := by
  have trimmed := h.spaced.strip_text h.first h.last
  obtain ⟨init, l, rfl⟩ : ∃ init l, ls = init ++ [l] := by
    rcases List.eq_nil_or_concat ls with none | ⟨init, l, rfl⟩
    · exact absurd none h.filled
    · exact ⟨init, l, by simp⟩
  obtain ⟨filled, blank⟩ := h.spaced.filled (by simp) (h.last l (by simp))
  intro c mem
  rw [text_append, text_cons, text_nil, List.append_nil, List.getLast?_append_of_ne_nil _ filled]
    at mem
  exact blank c (List.mem_of_mem_getLast? mem)

theorem plain (h : IsPhrase ls) : ∀ c ∈ text ls, isPlain c = true :=
  h.spaced.isPlain

theorem named (h : IsPhrase ls) : IsPhrase (ls.map Lexeme.named) where
  spaced := h.spaced.map_named
  filled := by simpa using h.filled
  first := by simpa [List.head?_map] using h.first
  last := by simpa [List.getLast?_map] using h.last

end IsPhrase

theorem isPhrase_expansion {e : Expansion} (h : e.IsWritten) : IsPhrase e.lexemes := by
  obtain ⟨init, l, same, operand⟩ := Expansion.ends h
  refine ⟨by simpa using Expansion.spaced h (by simp) Spaced.nil, by simp [same], ?_, ?_⟩
  · intro l mem
    rcases Expansion.head h [] l (by simpa using mem) with rfl | operand
    · rfl
    · exact operand.isTight
  · simpa [same] using operand.isTight

theorem isPhrase_listLexemes {es : List Expansion} (h : ∀ e ∈ es, e.IsWritten) :
    IsPhrase (listLexemes es) := by
  refine ⟨spaced_listLexemes h, by simp [listLexemes], by simp [listLexemes, Lexeme.isTight], ?_⟩
  rw [listLexemes, ← List.cons_append, List.getLast?_concat]
  simp [Lexeme.isTight]

/-- A function is written without blanks at its ends. -/
theorem Function.isPhrase_lexemes {names : List (Option String)} (naming : IsNaming names)
    {f : Function Float} (h : f.IsWritable names.length) : IsPhrase (f.lexemes names) := by
  cases f with
  | number | nonlinear => exact h.elim
  | var v => exact isPhrase_expansion (isWritten_variableExpansion naming v)
  | affine f => exact isPhrase_expansion (isWritten_expansion naming h)
  | quadratic f => exact isPhrase_expansion (isWritten_expansion naming h.2)
  | vars vs =>
    refine isPhrase_listLexemes fun e mem => ?_
    obtain ⟨v, -, rfl⟩ := List.mem_map.1 mem
    exact isWritten_variableExpansion naming v
  | rows fs =>
    refine isPhrase_listLexemes fun e mem => ?_
    obtain ⟨f, inside, rfl⟩ := List.mem_map.1 mem
    exact isWritten_expansion naming (h.2 f inside)

theorem ConstraintSet.isPhrase_lexemes {s : ConstraintSet Number}
    (h : ∀ n ∈ s.numbers, n.IsWritable) : IsPhrase s.lexemes := by
  refine ⟨spaced_callLexemes s.family.isName_name (fun a mem => (mem_namedArguments h a mem).1)
    (fun a mem => (mem_namedArguments h a mem).2), by simp [lexemes, callLexemes],
    by simp [lexemes, callLexemes, Lexeme.isTight], ?_⟩
  rw [lexemes, callLexemes, ← List.cons_append, ← List.cons_append, List.getLast?_concat]
  simp [Lexeme.isTight]

/-! ## The separator of function and set -/

/-- The characters between a function and its set. -/
def separator : List Char :=
  [' ', 'i', 'n', ' ']

/-- Between parts without blanks, joined by commas, no ` in ` is found. -/
theorem splitLast?_intercalate {parts : List (List Char)} (tight : ∀ w ∈ parts, ' ' ∉ w) :
    splitLast? separator ([',', ' '].intercalate parts ++ [')']) = none := by
  -- what follows a comma is a part without a blank, which is no `in` between blanks
  have apart : ∀ {w s : List Char} {c : Char}, ' ' ∉ w → c = ',' ∨ c = ')' →
      ['i', 'n', ' '].isPrefixOf (w ++ c :: s) = false := by
    intro w s c absent closing
    match w with
    | [] => rcases closing with rfl | rfl <;> rfl
    | [a] => rcases closing with rfl | rfl <;> simp [List.isPrefixOf]
    | [a, b] => rcases closing with rfl | rfl <;> simp [List.isPrefixOf]
    | a :: b :: d :: w =>
      have : ' ' ≠ d := by
        rintro rfl
        simp at absent
      simp [List.isPrefixOf, this]
  induction parts with
  | nil => exact splitLast?_eq_none (by decide)
  | cons w parts ih =>
    have single := tight w (by simp)
    cases parts with
    | nil =>
      refine splitLast?_eq_none ?_
      simpa using single
    | cons v parts =>
      have rest := ih fun u mem => tight u (List.mem_cons_of_mem _ mem)
      have next : ∃ c s, (c = ',' ∨ c = ')') ∧
          [',', ' '].intercalate (v :: parts) ++ [')'] = v ++ c :: s := by
        cases parts with
        | nil => exact ⟨')', [], .inr rfl, by simp⟩
        | cons u parts =>
          exact ⟨',', ' ' :: ([',', ' '].intercalate (u :: parts) ++ [')']), .inl rfl, by simp⟩
      obtain ⟨c, s, closing, same⟩ := next
      have cut : [',', ' '].intercalate (w :: v :: parts) ++ [')'] =
          (w ++ [',']) ++ ' ' :: ([',', ' '].intercalate (v :: parts) ++ [')']) := by
        simp
      rw [cut]
      refine splitLast?_append_eq_none (by simpa using single) ?_
      refine splitLast?_cons_eq_none ?_ rest
      rw [same]
      exact apart (tight v (by simp)) closing

/-- A number is written without a blank. -/
theorem notBlank_factor {f : Factor} (h : f.value.IsOperand) : ' ' ∉ text f.lexemes := by
  have digits : ∀ {w : List Char}, IsNumber w → ' ' ∉ w := by
    intro w number mem
    exact absurd (number.2 _ mem) (by decide)
  have value : ' ' ∉ f.value.chars := by
    generalize f.value = l at h
    cases l with
    | word w =>
      intro mem
      exact absurd (isNameCharacter_of_isIdentifier h.1 _ mem) (by decide)
    | placeholder number =>
      have := digits h
      simpa [Lexeme.chars] using this
    | decimal whole fraction =>
      have := digits h.1
      have := digits h.2
      simp [Lexeme.chars, *]
    | integer number => exact digits h.1
    | sign | plus | comma => exact h.elim
  unfold Factor.lexemes
  split <;> simpa [Lexeme.chars] using value

namespace ConstraintSet

variable {s : ConstraintSet Number}

omit s in
/-- A number holds no placeholder. -/
theorem named_numberFactor (n : Number) : ∀ l ∈ (numberFactor n).lexemes, l.named = l := by
  have magnitude : ∀ m e, (magnitudeLexeme m e).named = magnitudeLexeme m e := by
    intro m e
    unfold magnitudeLexeme
    split <;> rfl
  have value : (numberFactor n).value.named = (numberFactor n).value := by
    cases n with
    | integer n => rfl
    | real x =>
      change (floatFactor x).value.named = (floatFactor x).value
      unfold floatFactor
      split
      · exact magnitude _ _
      · exact magnitude 0 0
  have sign : (Lexeme.sign '-').named = .sign '-' := rfl
  unfold Factor.lexemes
  split <;> simp [value, sign]

/-- A set holds no placeholder. -/
theorem map_named_lexemes (s : ConstraintSet Number) : s.lexemes.map Lexeme.named = s.lexemes := by
  have argument : ∀ a ∈ s.namedArguments, ∀ l ∈ argumentLexemes a, l.named = l := by
    intro a mem l inside
    rw [namedArguments, ← List.map_uncurry_zip_eq_zipWith] at mem
    obtain ⟨⟨field, n⟩, -, rfl⟩ := List.mem_map.1 mem
    rcases List.mem_cons.1 inside with rfl | inside
    · rfl
    rcases List.mem_cons.1 inside with rfl | inside
    · rfl
    · refine named_numberFactor n l ?_
      simpa [numberExpansion, Expansion.lexemes, Summand.lexemes] using inside
  have all : ∀ l ∈ s.lexemes, l.named = l := by
    intro l mem
    simp only [lexemes, callLexemes, List.mem_cons, List.mem_append, List.not_mem_nil,
      or_false] at mem
    rcases mem with rfl | rfl | mem | rfl
    · rfl
    · rfl
    · exact forall_mem_separated (P := fun l => l.named = l) rfl argument l mem
    · rfl
  exact (List.map_congr_left all).trans (List.map_id _)

/-- No ` in ` occurs in the text of a set. -/
theorem splitLast?_lexemes (h : ∀ n ∈ s.numbers, n.IsWritable) :
    splitLast? separator (Formula.text s.lexemes) = none := by
  have noBlank : ∀ {w : List Char}, IsName w → ' ' ∉ w := fun name mem =>
    absurd (isNameCharacter_of_isIdentifier name.1 _ mem) (by decide)
  have arguments : ∀ w ∈ s.namedArguments.map (fun a => Formula.text (argumentLexemes a)),
      ' ' ∉ w := by
    intro w mem
    obtain ⟨a, inside, rfl⟩ := List.mem_map.1 mem
    rw [namedArguments, ← List.map_uncurry_zip_eq_zipWith] at inside
    obtain ⟨⟨field, n⟩, pair, rfl⟩ := List.mem_map.1 inside
    have name := noBlank (s.family.isName_field field (List.of_mem_zip pair).1)
    have number := notBlank_factor (isOperand_numberFactor (h n (List.of_mem_zip pair).2))
    simpa [argumentLexemes, numberExpansion, Expansion.lexemes, Summand.lexemes, Lexeme.chars,
      name] using number
  have split := splitLast?_intercalate arguments
  have spelled : Formula.text s.lexemes = (s.family.name.toList ++ ['(']) ++
      ([',', ' '].intercalate (s.namedArguments.map (fun a => Formula.text (argumentLexemes a)))
        ++ [')']) := by
    simp [lexemes, callLexemes, text_separated, Lexeme.chars]
  rw [spelled]
  refine splitLast?_append_eq_none ?_ split
  simpa using noBlank s.family.isName_name

end ConstraintSet

end MathProg
