import MathProg.Text.Cutting
import MathProg.Text.Word

/-!
# Products without a sign

A number directly before a letter is a product, so `2x` and `2 x` are read as `2*x`. A number is a
run of digits that no word character and no point precedes, with an optional point and more digits,
and with an exponent if a letter still follows it. What stands between number and letter is dropped.
-/

namespace MathProg.Formula.Juxtaposition

open MathProg.Text

/-- A letter of an ASCII name. -/
def isNameLetter (c : Char) : Bool :=
  c.isAlpha || c == '_'

/-- Splits off a letter behind blanks. -/
def letter? (s : List Char) : Option (Char × List Char) :=
  match s.dropWhile isBlank with
  | c :: rest => if isNameLetter c then some (c, rest) else none
  | [] => none

/-- Splits off a sign. -/
def sign (s : List Char) : List Char × List Char :=
  match s with
  | '+' :: rest => (['+'], rest)
  | '-' :: rest => (['-'], rest)
  | _ => ([], s)

/-- Splits off a point and the digits after it. -/
def fraction (s : List Char) : List Char × List Char :=
  match s with
  | '.' :: rest => ('.' :: rest.takeWhile isDigit, rest.dropWhile isDigit)
  | _ => ([], s)

/-- Splits off an exponent: its mark, a sign and at least one digit. -/
def exponent? (s : List Char) : Option (List Char × List Char) :=
  match s with
  | mark :: rest =>
    let (signs, rest) := sign rest
    if (mark == 'e' || mark == 'E') && !(rest.takeWhile isDigit).isEmpty then
      some (mark :: signs ++ rest.takeWhile isDigit, rest.dropWhile isDigit)
    else none
  | [] => none

/-- A number with an exponent and the letter after it. -/
def scientificProduct? (s : List Char) : Option (List Char × Char × List Char) :=
  match exponent? s with
  | some (exponent, rest) => (letter? rest).map (fun (c, rest) => (exponent, c, rest))
  | none => none

/-- A number with the letter after it: the number, the letter and the rest. -/
def product? (s : List Char) : Option (List Char × Char × List Char) :=
  let digits := s.takeWhile isDigit
  let (decimals, rest) := fraction (s.dropWhile isDigit)
  if digits.isEmpty then none
  else
    match scientificProduct? rest with
    | some (exponent, c, rest) => some (digits ++ decimals ++ exponent, c, rest)
    | none => (letter? rest).map (fun (c, rest) => (digits ++ decimals, c, rest))

/-! ## What is split off leaves a shorter rest -/

theorem length_dropWhile_le (p : Char → Bool) (s : List Char) :
    (s.dropWhile p).length ≤ s.length := by
  induction s with
  | nil => simp
  | cons c s ih =>
    rw [List.dropWhile_cons]
    split <;> simp
    omega

theorem length_letter? {s rest : List Char} {c : Char} (h : letter? s = some (c, rest)) :
    rest.length < s.length := by
  have bound := length_dropWhile_le isBlank s
  unfold letter? at h
  split at h
  · rename_i heq
    simp only [Option.ite_none_right_eq_some, Option.some.injEq, Prod.mk.injEq] at h
    rw [heq, h.2.2] at bound
    simp at bound
    omega
  · simp at h

theorem length_sign (s : List Char) : (sign s).2.length ≤ s.length := by
  unfold sign
  split <;> simp

theorem length_fraction (s : List Char) : (fraction s).2.length ≤ s.length := by
  unfold fraction
  split
  · rename_i rest
    have := length_dropWhile_le isDigit rest
    simp
    omega
  · simp

theorem length_exponent? {s exponent rest : List Char} (h : exponent? s = some (exponent, rest)) :
    rest.length ≤ s.length := by
  unfold exponent? at h
  split at h
  · rename_i mark tail
    simp only [Option.ite_none_right_eq_some, Option.some.injEq, Prod.mk.injEq] at h
    have signed := length_sign tail
    have dropped := length_dropWhile_le isDigit (sign tail).2
    rw [← h.2.2]
    simp
    omega
  · simp at h

theorem length_scientificProduct? {s number rest : List Char} {c : Char}
    (h : scientificProduct? s = some (number, c, rest)) : rest.length < s.length := by
  unfold scientificProduct? at h
  split at h
  · rename_i exponent tail found
    obtain ⟨⟨d, after⟩, letter, same⟩ := Option.map_eq_some_iff.1 h
    simp only [Prod.mk.injEq] at same
    rw [← same.2.2]
    exact Nat.lt_of_lt_of_le (length_letter? letter) (length_exponent? found)
  · simp at h

theorem length_product? {s number rest : List Char} {c : Char}
    (h : product? s = some (number, c, rest)) : rest.length < s.length := by
  have dropped := length_dropWhile_le isDigit s
  have cut := length_fraction (s.dropWhile isDigit)
  unfold product? at h
  simp only at h
  split at h
  · simp at h
  · split at h
    · rename_i found
      have shorter := length_scientificProduct? found
      simp only [Option.some.injEq, Prod.mk.injEq] at h
      rw [← h.2.2]
      omega
    · obtain ⟨⟨d, after⟩, letter, same⟩ := Option.map_eq_some_iff.1 h
      simp only [Prod.mk.injEq] at same
      have shorter := length_letter? letter
      rw [← same.2.2]
      omega

/-! ## Expansion -/

/-- Writes the sign into every product of a number and a letter. `before` is the character in front
of the text. -/
def expand (before : Option Char) (s : List Char) : List Char :=
  match s with
  | [] => []
  | c :: rest =>
    if before.any (fun b => isWord b || b == '.') then c :: expand (some c) rest
    else
      match _found : product? (c :: rest) with
      | some (number, letter, rest) => number ++ '*' :: letter :: expand (some letter) rest
      | none => c :: expand (some c) rest
termination_by s.length
decreasing_by
  · simp
  · exact length_product? _found
  · simp

end MathProg.Formula.Juxtaposition
