import Mathlib
import MathProg.Formula.Juxtaposition
import MathProg.Proofs.Text.Ascii
import MathProg.Proofs.Text.Cutting
import MathProg.Representation.Reader

/-!
# Lexemes

Functions and sets are written as a row of names, numbers and signs, with blanks in a few places
only. Of such a row, placeholders of variables become names and nothing else does, and no product
without a sign is found in it.
-/

namespace MathProg.Formula

open MathProg.Text

/-- A piece of written text. -/
inductive Lexeme where
  | word (w : List Char)
  /-- The placeholder of an unnamed variable. -/
  | placeholder (digits : List Char)
  /-- A number with a point. -/
  | decimal (whole fraction : List Char)
  | integer (digits : List Char)
  /-- A sign without blanks around it. -/
  | sign (c : Char)
  /-- The sign of a sum, between blanks. -/
  | plus
  /-- A comma and a blank. -/
  | comma
deriving DecidableEq, Repr

namespace Lexeme

def chars : Lexeme → List Char
  | word w => w
  | placeholder digits => '_' :: '[' :: (digits ++ [']'])
  | decimal whole fraction => whole ++ '.' :: fraction
  | integer digits => digits
  | sign c => [c]
  | plus => [' ', '+', ' ']
  | comma => [',', ' ']

/-- Whether a lexeme is written without blanks. -/
def isTight : Lexeme → Bool
  | plus => false
  | comma => false
  | _ => true

/-- A placeholder as the name that stands for it. -/
def named : Lexeme → Lexeme
  | placeholder digits => word (Reader.placeholderName digits)
  | l => l

/-- The signs that stand without blanks. -/
def signs : List Char := ['-', '*', '(', ')', '[', ']', '=']

/-- Whether a lexeme may stand behind a name or a number. -/
def breaks : Lexeme → Bool
  | sign c => c != '[' && c != '-'
  | plus => true
  | comma => true
  | _ => false

/-- Whether a lexeme would make one sign of two. -/
def joins : Lexeme → Bool
  | sign c => c == '*' || c == '='
  | _ => false

end Lexeme

open Lexeme

/-- The text of a row of lexemes. -/
def text (ls : List Lexeme) : List Char :=
  ls.flatMap chars

/-- Decimal digits, at least one. -/
def IsNumber (digits : List Char) : Prop :=
  digits ≠ [] ∧ ∀ c ∈ digits, c.isDigit = true

/-- Digits without leading zeros, not more than an integer may have. -/
def IsPlain (digits : List Char) : Prop :=
  digits = ['0'] ∨ digits.head? ≠ some '0' ∧ digits.length ≤ 4300

/-- Rows of lexemes as they are written: no two of them run together. -/
inductive Spaced : List Lexeme → Prop
  | nil : Spaced []
  | word {w ls} (name : isIdentifier w = true) (next : ∀ l ∈ ls.head?, l.breaks = true)
      (rest : Spaced ls) : Spaced (.word w :: ls)
  | placeholder {digits ls} (number : IsNumber digits) (next : ∀ l ∈ ls.head?, l.breaks = true)
      (rest : Spaced ls) : Spaced (.placeholder digits :: ls)
  | decimal {whole fraction ls} (number : IsNumber whole) (places : IsNumber fraction)
      (next : ∀ l ∈ ls.head?, l.breaks = true) (rest : Spaced ls) :
      Spaced (.decimal whole fraction :: ls)
  | integer {digits ls} (number : IsNumber digits) (plain : IsPlain digits)
      (next : ∀ l ∈ ls.head?, l.breaks = true) (rest : Spaced ls) : Spaced (.integer digits :: ls)
  | sign {c ls} (known : c ∈ signs) (next : ∀ l ∈ ls.head?, l.joins = false)
      (rest : Spaced ls) : Spaced (.sign c :: ls)
  | plus {ls} (rest : Spaced ls) : Spaced (.plus :: ls)
  | comma {ls} (rest : Spaced ls) : Spaced (.comma :: ls)

@[simp] theorem text_nil : text [] = [] := rfl

@[simp] theorem text_cons (l : Lexeme) (ls : List Lexeme) : text (l :: ls) = l.chars ++ text ls :=
  rfl

@[simp] theorem text_append (ls ls' : List Lexeme) : text (ls ++ ls') = text ls ++ text ls' := by
  simp [text]

variable {ls : List Lexeme}

/-- A row that starts with a lexeme that may stand there. -/
theorem head_breaks {l : Lexeme} (h : l.breaks = true) (ls : List Lexeme) :
    ∀ k ∈ (l :: ls).head?, k.breaks = true := by
  rintro _ ⟨rfl⟩
  exact h

/-- What may stand behind a name starts with a character that ends the name. -/
theorem Spaced.stops (h : Spaced ls) (next : ∀ l ∈ ls.head?, l.breaks = true) :
    Stops (text ls) := by
  cases h with
  | nil => simp [Stops]
  | word | placeholder | decimal | integer => cases next _ rfl
  | plus => simp [Stops, Lexeme.chars, Text.stops]
  | comma => simp [Stops, Lexeme.chars, Text.stops]
  | sign known =>
    have next : (Lexeme.sign _).breaks = true := next _ rfl
    revert next
    simp only [Stops, text_cons, Lexeme.chars, List.singleton_append, List.head?_cons,
      Option.mem_some_iff, forall_eq']
    revert known
    exact (forall_mem_of_all (by decide) :
      ∀ c ∈ signs, (c != '[' && c != '-') = true → c ∈ Text.stops) _

/-- What may stand behind a sign makes no longer sign with it. -/
theorem Spaced.head_of_joins (h : Spaced ls) (next : ∀ l ∈ ls.head?, l.joins = false) :
    ∀ c ∈ (text ls).head?, c ∉ ['*', '=', '>'] := by
  have letters : ∀ c, isNameCharacter c = true → c ∉ ['*', '=', '>'] := fun c name =>
    name_induction (P := fun c => c ∉ ['*', '=', '>']) (by decide) name
  have first : ∀ {w : List Char} {s : List Char}, w ≠ [] → (∀ c ∈ w, isNameCharacter c = true) →
      ∀ c ∈ (w ++ s).head?, c ∉ ['*', '=', '>'] := by
    intro w s filled all c mem
    cases w with
    | nil => exact absurd rfl filled
    | cons d w =>
      obtain rfl : d = c := by simpa using mem
      exact letters d (all d (by simp))
  cases h with
  | nil => simp
  | word name => exact first (ne_nil_of_isIdentifier name) (isNameCharacter_of_isIdentifier name)
  | placeholder => simp [Lexeme.chars]
  | decimal number =>
    rw [text_cons, Lexeme.chars, List.append_assoc]
    exact first number.1 fun c mem => isNameCharacter_of_digit (number.2 c mem)
  | integer number => exact first number.1 fun c mem => isNameCharacter_of_digit (number.2 c mem)
  | plus => simp [Lexeme.chars]
  | comma => simp [Lexeme.chars]
  | sign known =>
    simp only [List.head?_cons, Option.mem_some_iff, forall_eq', joins] at next
    simp only [text_cons, Lexeme.chars, List.singleton_append, List.head?_cons,
      Option.mem_some_iff, forall_eq']
    revert next known
    exact (forall_mem_of_all (by decide) :
      ∀ c ∈ signs, (c == '*' || c == '=') = false → c ∉ ['*', '=', '>']) _

/-! ## Characters -/

/-- Only printable characters are written, and none that starts a comment or ends a label. -/
theorem Spaced.isPlain (h : Spaced ls) : ∀ c ∈ text ls, isPlain c = true := by
  have digits : ∀ {w : List Char}, IsNumber w → ∀ c ∈ w, Text.isPlain c = true :=
    fun number c mem => isPlain_of_name (isNameCharacter_of_digit (number.2 c mem))
  have joined : ∀ {w s : List Char}, (∀ c ∈ w, Text.isPlain c = true) →
      (∀ c ∈ s, Text.isPlain c = true) → ∀ c ∈ w ++ s, Text.isPlain c = true :=
    fun left right c mem => (List.mem_append.1 mem).elim (left c) (right c)
  induction h with
  | nil => simp
  | word name next rest ih =>
    exact joined (fun c mem => isPlain_of_name (isNameCharacter_of_isIdentifier name c mem)) ih
  | placeholder number next rest ih =>
    refine joined (w := '_' :: '[' :: (_ ++ [']'])) ?_ ih
    refine List.forall_mem_cons.2 ⟨by decide, List.forall_mem_cons.2 ⟨by decide, ?_⟩⟩
    exact joined (digits number) (forall_mem_of_all (by decide))
  | decimal number places next rest ih =>
    exact joined (joined (digits number) (List.forall_mem_cons.2 ⟨by decide, digits places⟩)) ih
  | integer number plain next rest ih => exact joined (digits number) ih
  | @sign c ls known next rest ih =>
    refine joined (w := [c]) ?_ ih
    simpa using (forall_mem_of_all (by decide) : ∀ c ∈ signs, Text.isPlain c = true) c known
  | plus rest ih => exact joined (w := [' ', '+', ' ']) (forall_mem_of_all (by decide)) ih
  | comma rest ih => exact joined (w := [',', ' ']) (forall_mem_of_all (by decide)) ih

/-- Blanks stand only at signs of sums and commas. -/
theorem Spaced.filled (h : Spaced ls) {l : Lexeme} (mem : l ∈ ls) (tight : l.isTight = true) :
    l.chars ≠ [] ∧ ∀ c ∈ l.chars, isBlank c = false := by
  have digits : ∀ {w : List Char}, IsNumber w → ∀ c ∈ w, isBlank c = false :=
    fun number c mem => isBlank_of_name (isNameCharacter_of_digit (number.2 c mem))
  have joined : ∀ {w s : List Char}, (∀ c ∈ w, isBlank c = false) →
      (∀ c ∈ s, isBlank c = false) → ∀ c ∈ w ++ s, isBlank c = false :=
    fun left right c mem => (List.mem_append.1 mem).elim (left c) (right c)
  suffices all : ∀ l ∈ ls, l.isTight = true → l.chars ≠ [] ∧ ∀ c ∈ l.chars, isBlank c = false from
    all l mem tight
  clear mem tight
  induction h with
  | nil => simp
  | word name next rest ih =>
    refine List.forall_mem_cons.2 ⟨fun _ => ⟨ne_nil_of_isIdentifier name, fun c mem => ?_⟩, ih⟩
    exact isBlank_of_name (isNameCharacter_of_isIdentifier name c mem)
  | placeholder number next rest ih =>
    refine List.forall_mem_cons.2 ⟨fun _ => ⟨by simp [Lexeme.chars], ?_⟩, ih⟩
    refine List.forall_mem_cons.2 ⟨by decide, List.forall_mem_cons.2 ⟨by decide, ?_⟩⟩
    exact joined (digits number) (forall_mem_of_all (by decide))
  | decimal number places next rest ih =>
    refine List.forall_mem_cons.2 ⟨fun _ => ⟨by simp [Lexeme.chars], ?_⟩, ih⟩
    exact joined (digits number) (List.forall_mem_cons.2 ⟨by decide, digits places⟩)
  | integer number plain next rest ih =>
    exact List.forall_mem_cons.2 ⟨fun _ => ⟨number.1, digits number⟩, ih⟩
  | @sign c ls known next rest ih =>
    refine List.forall_mem_cons.2 ⟨fun _ => ⟨by simp [Lexeme.chars], ?_⟩, ih⟩
    simpa [Lexeme.chars] using (forall_mem_of_all (by decide) : ∀ c ∈ signs, isBlank c = false) c
      known
  | plus rest ih => exact List.forall_mem_cons.2 ⟨fun tight => by simp [isTight] at tight, ih⟩
  | comma rest ih => exact List.forall_mem_cons.2 ⟨fun tight => by simp [isTight] at tight, ih⟩

/-- A row whose ends are tight has no blanks at its ends. -/
theorem Spaced.strip_text (h : Spaced ls) (first : ∀ l ∈ ls.head?, l.isTight = true)
    (last : ∀ l ∈ ls.getLast?, l.isTight = true) : strip (text ls) = text ls := by
  refine strip_eq_self ?_ ?_
  · cases ls with
    | nil => simp
    | cons l ls =>
      obtain ⟨filled, blank⟩ := h.filled (by simp) (first l rfl)
      intro c mem
      rw [text_cons, List.head?_append_of_ne_nil _ filled] at mem
      exact blank c (List.mem_of_mem_head? mem)
  · rcases List.eq_nil_or_concat ls with rfl | ⟨init, l, rfl⟩
    · simp
    · obtain ⟨filled, blank⟩ := h.filled (by simp) (last l (by simp))
      intro c mem
      have same : text (init ++ [l]) = text init ++ l.chars := by simp
      rw [List.concat_eq_append, same, List.getLast?_append_of_ne_nil _ filled] at mem
      exact blank c (List.mem_of_mem_getLast? mem)

/-! ## Placeholders -/

theorem bracketedNumber?_eq_none {s : List Char} (h : ∀ c ∈ s.head?, c ≠ '[') :
    Reader.bracketedNumber? s = none := by
  unfold Reader.bracketedNumber?
  split
  · simp at h
  · rfl

theorem namePlaceholders_cons {c : Char} {s : List Char} (h : c ≠ '_') :
    Reader.namePlaceholders (c :: s) = c :: Reader.namePlaceholders s := by
  rw [Reader.namePlaceholders]
  simp [h]

/-- Nothing is replaced before a bracket. -/
theorem namePlaceholders_append {w s : List Char} (all : ∀ c ∈ w, c ≠ '[')
    (next : ∀ c ∈ s.head?, c ≠ '[') :
    Reader.namePlaceholders (w ++ s) = w ++ Reader.namePlaceholders s := by
  induction w with
  | nil => rfl
  | cons c w ih =>
    have more := ih fun c mem => all c (List.mem_cons_of_mem _ mem)
    have head : ∀ c ∈ (w ++ s).head?, c ≠ '[' := by
      cases w with
      | nil => exact next
      | cons d w => simpa using all d (by simp)
    rw [List.cons_append, Reader.namePlaceholders, bracketedNumber?_eq_none head, more]
    simp

theorem namePlaceholders_placeholder {digits s : List Char} (number : IsNumber digits) :
    Reader.namePlaceholders (Lexeme.chars (.placeholder digits) ++ s) =
      Reader.placeholderName digits ++ Reader.namePlaceholders s := by
  have all : ∀ c ∈ digits, isDigit c = true := fun c mem => by
    rw [isDigit_of_name (isNameCharacter_of_digit (number.2 c mem)), number.2 c mem]
  have stop : ∀ c ∈ (']' :: s).head?, isDigit c = false := by
    simp only [List.head?_cons, Option.mem_some_iff, forall_eq']
    decide
  have found : Reader.bracketedNumber? ('[' :: (digits ++ ']' :: s)) = some (digits, s) := by
    simp [Reader.bracketedNumber?, takeWhile_append_of_stop all stop,
      dropWhile_append_of_stop all stop, number.1]
  simp only [Lexeme.chars, List.cons_append, List.append_assoc, List.nil_append]
  rw [Reader.namePlaceholders, found]
  simp

/-- Reading placeholders as names turns the written lexemes into named ones. -/
theorem namePlaceholders_text (h : Spaced ls) {s : List Char} (end' : ∀ c ∈ s.head?, c ≠ '[') :
    Reader.namePlaceholders (text ls ++ s) =
      text (ls.map named) ++ Reader.namePlaceholders s := by
  have digit : ∀ {c : Char}, c.isDigit = true → c ≠ '[' := fun digit =>
    ne_bracket_of_name (isNameCharacter_of_digit digit)
  -- only a bracket makes a placeholder of what stands before it, and no lexeme begins with one
  have stop : ∀ {ls : List Lexeme}, Spaced ls → (∀ l ∈ ls.head?, l.breaks = true) →
      ∀ c ∈ (text ls ++ s).head?, c ≠ '[' := by
    intro ls rest next c mem
    rw [List.head?_append, Option.mem_def, Option.or_eq_some_iff] at mem
    rcases mem with mem | ⟨-, mem⟩
    · exact (rest.stops next).head_ne (by decide) c mem
    · exact end' c mem
  induction h with
  | nil => rfl
  | @word w ls name next rest ih =>
    change Reader.namePlaceholders ((w ++ text ls) ++ s) = (w ++ text (ls.map named)) ++ _
    rw [List.append_assoc, List.append_assoc, ← ih]
    exact namePlaceholders_append
      (fun c mem => ne_bracket_of_name (isNameCharacter_of_isIdentifier name c mem))
      (stop rest next)
  | placeholder number next rest ih =>
    rw [text_cons, List.append_assoc, namePlaceholders_placeholder number, ih]
    exact (List.append_assoc _ _ _).symm
  | @decimal whole fraction ls number places next rest ih =>
    change Reader.namePlaceholders (((whole ++ '.' :: fraction) ++ text ls) ++ s) =
      ((whole ++ '.' :: fraction) ++ text (ls.map named)) ++ _
    rw [List.append_assoc (whole ++ '.' :: fraction), List.append_assoc (whole ++ '.' :: fraction),
      ← ih]
    refine namePlaceholders_append (fun c mem => ?_) (stop rest next)
    rcases List.mem_append.1 mem with mem | mem
    · exact digit (number.2 c mem)
    · rcases List.mem_cons.1 mem with rfl | mem
      · decide
      · exact digit (places.2 c mem)
  | @integer digits ls number plain next rest ih =>
    change Reader.namePlaceholders ((digits ++ text ls) ++ s) = (digits ++ text (ls.map named)) ++ _
    rw [List.append_assoc, List.append_assoc, ← ih]
    exact namePlaceholders_append (fun c mem => digit (number.2 c mem)) (stop rest next)
  | sign known next rest ih =>
    have other := (forall_mem_of_all (by decide) : ∀ c ∈ signs, c ≠ '_') _ known
    simpa [named, Lexeme.chars, namePlaceholders_cons other] using ih
  | plus rest ih => simpa [named, Lexeme.chars, namePlaceholders_cons] using ih
  | comma rest ih => simpa [named, Lexeme.chars, namePlaceholders_cons] using ih

theorem isIdentifier_placeholderName {digits : List Char} (h : ∀ c ∈ digits, c.isDigit = true) :
    isIdentifier (Reader.placeholderName digits) = true := by
  have spelled : Reader.placeholderName digits =
      ['_', 'u', 'n', 'n', 'a', 'm', 'e', 'd', '_'] ++ digits := rfl
  have start : Juxtaposition.isNameLetter '_' = true := by decide
  have mark : ['u', 'n', 'n', 'a', 'm', 'e', 'd', '_'].all isNameCharacter = true := by decide
  have names : digits.all isNameCharacter = true :=
    List.all_eq_true.2 fun c mem => isNameCharacter_of_digit (h c mem)
  rw [spelled, List.cons_append, isIdentifier, List.all_append, start, mark, names]
  rfl

@[simp] theorem breaks_named (l : Lexeme) : l.named.breaks = l.breaks := by
  cases l <;> rfl

@[simp] theorem isTight_named (l : Lexeme) : l.named.isTight = l.isTight := by
  cases l <;> rfl

@[simp] theorem joins_named (l : Lexeme) : l.named.joins = l.joins := by
  cases l <;> rfl

/-- Naming the placeholders keeps the lexemes apart. -/
theorem Spaced.map_named (h : Spaced ls) : Spaced (ls.map named) := by
  have next_breaks : ∀ {ls : List Lexeme}, (∀ l ∈ ls.head?, l.breaks = true) →
      ∀ l ∈ (ls.map named).head?, l.breaks = true := fun next => by
    simpa [List.head?_map] using next
  induction h with
  | nil => exact .nil
  | word name next rest ih => exact .word name (next_breaks next) ih
  | placeholder number next rest ih =>
    exact .word (isIdentifier_placeholderName number.2) (next_breaks next) ih
  | decimal number places next rest ih => exact .decimal number places (next_breaks next) ih
  | integer number plain next rest ih => exact .integer number plain (next_breaks next) ih
  | sign known next rest ih =>
    refine .sign known ?_ ih
    simpa [List.head?_map] using next
  | plus rest ih => exact .plus ih
  | comma rest ih => exact .comma ih

/-! ## Products without a sign -/

section Juxtaposition

open MathProg.Formula.Juxtaposition (expand product? letter? exponent? scientificProduct?)

/-- Behind such a character no number starts. -/
def joinsNumber (c : Char) : Bool :=
  isWord c || c == '.'

theorem expand_cons_of_joined {before : Option Char} {c : Char} {s : List Char}
    (h : before.any joinsNumber = true) : expand before (c :: s) = c :: expand (some c) s := by
  rw [expand]
  exact if_pos h

theorem expand_cons_of_none {before : Option Char} {c : Char} {s : List Char}
    (h : product? (c :: s) = none) : expand before (c :: s) = c :: expand (some c) s := by
  rw [expand, h]
  simp

/-- Within a word or a number no product is found. -/
theorem expand_append {s : List Char} (same : ∀ b, expand b s = s) {w : List Char}
    (all : ∀ c ∈ w, joinsNumber c = true) {before : Option Char}
    (joined : before.any joinsNumber = true) : expand before (w ++ s) = w ++ s := by
  induction w generalizing before with
  | nil => exact same before
  | cons c w ih =>
    have more : expand (some c) (w ++ s) = w ++ s :=
      ih (fun c mem => all c (List.mem_cons_of_mem _ mem)) (all c (by simp))
    rw [List.cons_append, expand_cons_of_joined joined, more]

/-- A word or a number whose start makes no product is kept as it is. -/
theorem expand_append_of_none {s : List Char} (same : ∀ b, expand b s = s) {w : List Char}
    (all : ∀ c ∈ w, joinsNumber c = true) (filled : w ≠ []) (none : product? (w ++ s) = none)
    (before : Option Char) : expand before (w ++ s) = w ++ s := by
  cases w with
  | nil => exact absurd rfl filled
  | cons c w =>
    have more : expand (some c) (w ++ s) = w ++ s :=
      expand_append same (fun c mem => all c (List.mem_cons_of_mem _ mem)) (all c (by simp))
    rw [List.cons_append] at none ⊢
    rw [expand_cons_of_none none, more]

theorem product?_eq_none_of_head {c : Char} {s : List Char} (h : isDigit c = false) :
    product? (c :: s) = none := by
  simp [product?, h]

theorem Spaced.letter?_eq_none (h : Spaced ls) (next : ∀ l ∈ ls.head?, l.breaks = true) :
    letter? (text ls) = none := by
  cases h with
  | nil => rfl
  | word | placeholder | decimal | integer => cases next _ rfl
  | plus => simp [letter?, Lexeme.chars, isBlank, Juxtaposition.isNameLetter]
  | comma => simp [letter?, Lexeme.chars, isBlank, Juxtaposition.isNameLetter]
  | sign known =>
    have unknown : ∀ c ∈ signs, isBlank c = false ∧ Juxtaposition.isNameLetter c = false :=
      forall_mem_of_all (by decide)
    simp [letter?, Lexeme.chars, unknown _ known]

theorem exponent?_eq_none {s : List Char} (h : Stops s) : exponent? s = none := by
  cases s with
  | nil => rfl
  | cons c s =>
    have mark := h.head_eq_false (p := fun c => c == 'e' || c == 'E') (by decide) c rfl
    simp only [exponent?, mark, Bool.false_and]
    rfl

/-- A number makes no product with what is written behind it. -/
theorem Spaced.product?_eq_none (h : Spaced ls) (next : ∀ l ∈ ls.head?, l.breaks = true)
    {whole decimals : List Char} (number : IsNumber whole)
    (places : decimals = [] ∨ ∃ fraction, decimals = '.' :: fraction ∧ IsNumber fraction) :
    product? (whole ++ decimals ++ text ls) = none := by
  have all : ∀ {digits : List Char}, IsNumber digits → ∀ c ∈ digits, isDigit c = true :=
    fun number c mem => by
      rw [isDigit_of_name (isNameCharacter_of_digit (number.2 c mem)), number.2 c mem]
  have stops := h.stops next
  have noDigit : ∀ c ∈ (text ls).head?, isDigit c = false := stops.head_eq_false (by decide)
  have stop : ∀ c ∈ (decimals ++ text ls).head?, isDigit c = false := by
    rcases places with rfl | ⟨fraction, rfl, -⟩
    · exact noDigit
    · simp only [List.cons_append, List.head?_cons, Option.mem_some_iff, forall_eq']
      decide
  have cut : Juxtaposition.fraction (decimals ++ text ls) = (decimals, text ls) := by
    rcases places with rfl | ⟨fraction, rfl, places⟩
    · rw [List.nil_append]
      have noPoint := stops.head_ne (by decide : '.' ∉ Text.stops)
      cases same : text ls with
      | nil => rfl
      | cons c s =>
        rw [same] at noPoint
        simp [Juxtaposition.fraction, noPoint c rfl]
    · simp [Juxtaposition.fraction, takeWhile_append_of_stop (all places) noDigit,
        dropWhile_append_of_stop (all places) noDigit]
  rw [List.append_assoc]
  simp [product?, takeWhile_append_of_stop (all number) stop,
    dropWhile_append_of_stop (all number) stop, cut, number.1, scientificProduct?,
    exponent?_eq_none stops, h.letter?_eq_none next]

/-- No product is found in an identifier. -/
theorem expand_identifier {w s : List Char} (found : isIdentifier w = true)
    (same : ∀ b, expand b s = s) (before : Option Char) : expand before (w ++ s) = w ++ s := by
  have all : ∀ c ∈ w, joinsNumber c = true := fun c mem => by
    simp [joinsNumber, isWord_of_name (isNameCharacter_of_isIdentifier found c mem)]
  refine expand_append_of_none same all (ne_nil_of_isIdentifier found) ?_ before
  cases w with
  | nil => simp [isIdentifier] at found
  | cons c w =>
    rw [isIdentifier, Bool.and_eq_true] at found
    refine product?_eq_none_of_head ?_
    rw [isDigit_of_name (isNameCharacter_of_letter found.1), not_isDigit_of_letter found.1]

/-- Named lexemes hold no product without a sign. -/
theorem expand_text (h : Spaced ls) (before : Option Char) :
    expand before (text (ls.map named)) = text (ls.map named) := by
  have digit : ∀ {c : Char}, c.isDigit = true → joinsNumber c = true := fun digit => by
    simp [joinsNumber, isWord_of_name (isNameCharacter_of_digit digit)]
  have other : ∀ {c : Char} {s : List Char} {before : Option Char}, isDigit c = false →
      (∀ b, expand b s = s) → expand before (c :: s) = c :: s := fun noDigit same => by
    rw [expand_cons_of_none (product?_eq_none_of_head noDigit), same]
  have next_breaks : ∀ {ls : List Lexeme}, (∀ l ∈ ls.head?, l.breaks = true) →
      ∀ l ∈ (ls.map named).head?, l.breaks = true := fun next => by
    simpa [List.head?_map] using next
  induction h generalizing before with
  | nil => simp [expand]
  | word name next rest ih => exact expand_identifier name ih before
  | placeholder number next rest ih =>
    exact expand_identifier (isIdentifier_placeholderName number.2) ih before
  | @decimal whole fraction ls number places next rest ih =>
    refine expand_append_of_none ih (fun c mem => ?_) (by simp)
      (rest.map_named.product?_eq_none (next_breaks next) number (.inr ⟨fraction, rfl, places⟩))
      before
    rcases List.mem_append.1 mem with mem | mem
    · exact digit (number.2 c mem)
    · rcases List.mem_cons.1 mem with rfl | mem
      · rfl
      · exact digit (places.2 c mem)
  | @integer digits ls number plain next rest ih =>
    have none := rest.map_named.product?_eq_none (next_breaks next) number (.inl rfl)
    rw [List.append_nil] at none
    exact expand_append_of_none ih (fun c mem => digit (number.2 c mem)) number.1 none before
  | sign known next rest ih =>
    exact other ((forall_mem_of_all (by decide) : ∀ c ∈ signs, isDigit c = false) _ known) ih
  | plus rest ih =>
    exact other (by decide) fun b => other (by decide) fun b => other (by decide) ih
  | comma rest ih => exact other (by decide) fun b => other (by decide) ih

end Juxtaposition

end MathProg.Formula
