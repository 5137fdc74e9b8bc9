import Mathlib
import MathProg.Formula.Juxtaposition
import MathProg.Formula.Lexer
import MathProg.Text.NormalForm

/-!
# ASCII characters

The lexer, the reader of placeholders and the rewriting of products each sort characters in their
own way. On the characters of an ASCII identifier and on those that end one they agree, which can be
checked one character at a time.
-/

namespace MathProg.Text

open MathProg.Formula (Numeral.continuesWord Juxtaposition.isNameLetter)

/-- What holds of the first 128 characters holds of every ASCII character. -/
theorem ascii_induction {P : Char → Prop} (h : ∀ n < 128, P (Char.ofNat n)) {c : Char}
    (ascii : c.toNat < 128) : P c := by
  have := h c.toNat ascii
  rwa [Char.ofNat_toNat] at this

/-- What can be decided of every character of a text can be decided by going through the text. -/
theorem forall_mem_of_all {P : Char → Prop} [DecidablePred P] {s : List Char}
    (h : s.all (fun c => decide (P c)) = true) : ∀ c ∈ s, P c :=
  fun c mem => of_decide_eq_true (List.all_eq_true.1 h c mem)

/-! ## Identifiers -/

/-- A character of an ASCII identifier. -/
def isNameCharacter (c : Char) : Bool :=
  c.isAlphanum || c == '_'

/-- An ASCII identifier. -/
def isIdentifier : List Char → Bool
  | [] => false
  | c :: rest => Juxtaposition.isNameLetter c && rest.all isNameCharacter

theorem ascii_of_isNameCharacter {c : Char} (h : isNameCharacter c = true) : c.toNat < 128 := by
  rw [isNameCharacter, Bool.or_eq_true, beq_iff_eq] at h
  rcases h with h | rfl
  · have value : c.val.toNat = c.toNat := rfl
    simp only [Char.isAlphanum, Char.isAlpha, Char.isUpper, Char.isLower, Char.isDigit,
      Bool.or_eq_true, Bool.and_eq_true, decide_eq_true_eq, ge_iff_le, UInt32.le_iff_toNat_le,
      value] at h
    simp at h
    omega
  · decide

/-- What holds of the 63 characters of identifiers can be checked one by one. -/
theorem name_induction {P : Char → Prop}
    (h : ∀ n < 128, isNameCharacter (Char.ofNat n) = true → P (Char.ofNat n)) {c : Char}
    (name : isNameCharacter c = true) : P c :=
  ascii_induction (P := fun c => isNameCharacter c = true → P c) h
    (ascii_of_isNameCharacter name) name

section NameCharacter

variable {c : Char}

theorem isWord_of_name (h : isNameCharacter c = true) : isWord c = true :=
  name_induction (P := fun c => isWord c = true) (by decide) h

theorem continuesWord_of_name (h : isNameCharacter c = true) : Numeral.continuesWord c = true :=
  name_induction (P := fun c => Numeral.continuesWord c = true) (by decide) h

theorem isIdentifierContinue_of_name (h : isNameCharacter c = true) :
    isIdentifierContinue c = true :=
  name_induction (P := fun c => isIdentifierContinue c = true) (by decide) h

theorem isBlank_of_name (h : isNameCharacter c = true) : isBlank c = false :=
  name_induction (P := fun c => isBlank c = false) (by decide) h

theorem ne_bracket_of_name (h : isNameCharacter c = true) : c ≠ '[' :=
  name_induction (P := fun c => c ≠ '[') (by decide) h

theorem isNameCharacter_of_letter (h : Juxtaposition.isNameLetter c = true) :
    isNameCharacter c = true := by
  simp only [Juxtaposition.isNameLetter, isNameCharacter, Char.isAlphanum, Bool.or_eq_true] at h ⊢
  exact h.imp_left .inl

theorem isNameCharacter_of_digit (h : c.isDigit = true) : isNameCharacter c = true := by
  simp [isNameCharacter, Char.isAlphanum, h]

theorem not_isDigit_of_letter (h : Juxtaposition.isNameLetter c = true) : c.isDigit = false :=
  name_induction (P := fun c => Juxtaposition.isNameLetter c = true → c.isDigit = false)
    (by decide) (isNameCharacter_of_letter h) h

theorem isIdentifierStart_of_letter (h : Juxtaposition.isNameLetter c = true) :
    isIdentifierStart c = true :=
  name_induction (P := fun c => Juxtaposition.isNameLetter c = true → isIdentifierStart c = true)
    (by decide) (isNameCharacter_of_letter h) h

/-- On name characters the digits of all scripts are the ASCII digits. -/
theorem isDigit_of_name (h : isNameCharacter c = true) : isDigit c = c.isDigit :=
  name_induction (P := fun c => isDigit c = c.isDigit) (by decide) h

end NameCharacter

theorem ne_nil_of_isIdentifier {w : List Char} (h : isIdentifier w = true) : w ≠ [] := by
  rintro rfl
  simp [isIdentifier] at h

theorem isNameCharacter_of_isIdentifier {w : List Char} (h : isIdentifier w = true) :
    ∀ c ∈ w, isNameCharacter c = true := by
  cases w with
  | nil => simp [isIdentifier] at h
  | cons c rest =>
    simp only [isIdentifier, Bool.and_eq_true, List.all_eq_true] at h
    exact List.forall_mem_cons.2 ⟨isNameCharacter_of_letter h.1, h.2⟩

/-- An ASCII text is its own normal form. -/
theorem normalForm_of_isIdentifier {w : List Char} (h : isIdentifier w = true) :
    normalForm (String.ofList w) = String.ofList w := by
  have ascii : (((String.ofList w).toList.map Char.toNat).all (· < 0x80)) = true := by
    simpa using fun c mem => ascii_of_isNameCharacter (isNameCharacter_of_isIdentifier h c mem)
  simp only [normalForm, ascii, if_true]

/-! ## Characters of written lines -/

/-- A printable ASCII character that does not start a comment, continue a line or end a label. -/
def isPlain (c : Char) : Bool :=
  ' ' ≤ c && c ≤ '~' && c != '#' && c != '\\' && c != ':'

theorem isPlain_of_name {c : Char} (h : isNameCharacter c = true) : isPlain c = true :=
  name_induction (P := fun c => isPlain c = true) (by decide) h

/-- What holds of the plain characters can be checked one by one. -/
theorem plain_induction {P : Char → Prop}
    (h : ∀ n < 128, isPlain (Char.ofNat n) = true → P (Char.ofNat n)) {c : Char}
    (plain : isPlain c = true) : P c := by
  have ascii : c.toNat < 128 := by
    simp only [isPlain, Bool.and_eq_true, decide_eq_true_eq, Char.le_def,
      UInt32.le_iff_toNat_le] at plain
    have bound : c.val.toNat ≤ 126 := plain.1.1.1.2
    change c.val.toNat < 128
    omega
  exact ascii_induction (P := fun c => isPlain c = true → P c) h ascii plain

/-! ## Characters that end a name or a number -/

/-- The characters that stand behind names and numbers in written text. -/
def stops : List Char := [' ', ',', '*', '(', ')', ']', '=']

/-- Whether a text is at its end or goes on with a character that ends names and numbers. -/
def Stops (s : List Char) : Prop :=
  ∀ c ∈ s.head?, c ∈ stops

section Stops

variable {p : Char → Bool} {w s : List Char}

theorem Stops.head_eq_false (h : Stops s) (stop : stops.all (fun c => !p c) = true) :
    ∀ c ∈ s.head?, p c = false :=
  fun c mem => by simpa using List.all_eq_true.1 stop c (h c mem)

theorem Stops.head_ne {d : Char} (h : Stops s) (stop : d ∉ stops) : ∀ c ∈ s.head?, c ≠ d := by
  rintro c mem rfl
  exact stop (h c mem)

theorem takeWhile_append_of_stop (all : ∀ c ∈ w, p c = true) (stop : ∀ c ∈ s.head?, p c = false) :
    (w ++ s).takeWhile p = w := by
  rw [List.takeWhile_append_of_pos all]
  cases s with
  | nil => simp
  | cons c s => simp [stop c rfl]

theorem dropWhile_append_of_stop (all : ∀ c ∈ w, p c = true) (stop : ∀ c ∈ s.head?, p c = false) :
    (w ++ s).dropWhile p = s := by
  rw [List.dropWhile_append_of_pos all]
  cases s with
  | nil => rfl
  | cons c s => simp [stop c rfl]

end Stops

end MathProg.Text
