import MathProg.Text.NormalForm.Tables

/-!
# Compatibility normal form

Texts that differ only in how their characters are encoded have one normal form: every character is
replaced by its full decomposition, marks are brought into the order of their classes, and what can
be joined again is joined. The tables cover the characters of identifiers.
-/

namespace MathProg.Text

namespace NormalForm

/-- The entry of a table of ranges for a code point, with the start of its range. -/
def found? {α : Type} (table : Array (Nat × Nat × α)) (n : Nat) : Option (Nat × α) :=
  go (table.size + 1) 0 table.size
where
  /-- Searches the ranges from `low` up to but not including `high`. -/
  go : Nat → Nat → Nat → Option (Nat × α)
    | 0, _, _ => none
    | fuel + 1, low, high =>
      if high ≤ low then none
      else
        let middle := (low + high) / 2
        match table[middle]? with
        | none => none
        | some (first, last, x) =>
          if n < first then go fuel low middle
          else if last < n then go fuel (middle + 1) high
          else some (first, x)

/-! ## Hangul syllables -/

def syllableBase : Nat := 0xAC00
def initialBase : Nat := 0x1100
def vowelBase : Nat := 0x1161
/-- The code point before that of the first final consonant. -/
def finalBase : Nat := 0x11A7
def initialCount : Nat := 19
def vowelCount : Nat := 21
def finalCount : Nat := 28

/-- The letters of a syllable. -/
def letters? (n : Nat) : Option (List Nat) :=
  if syllableBase ≤ n && n < syllableBase + initialCount * vowelCount * finalCount then
    let place := n - syllableBase
    let initial := initialBase + place / (vowelCount * finalCount)
    let vowel := vowelBase + place / finalCount % vowelCount
    let final := finalBase + place % finalCount
    some (if place % finalCount = 0 then [initial, vowel] else [initial, vowel, final])
  else none

/-- A consonant with a vowel, or an open syllable with a final consonant, as one syllable. -/
def syllable? (a b : Nat) : Option Nat :=
  let place := a - syllableBase
  if initialBase ≤ a && a < initialBase + initialCount && vowelBase ≤ b &&
      b < vowelBase + vowelCount then
    some (syllableBase + ((a - initialBase) * vowelCount + (b - vowelBase)) * finalCount)
  else if syllableBase ≤ a && place < initialCount * vowelCount * finalCount &&
      place % finalCount = 0 && finalBase < b && b < finalBase + finalCount then
    some (a + (b - finalBase))
  else none

/-! ## The three steps -/

/-- The full decomposition of a character. In a range, single targets run along with it. -/
def decompose (n : Nat) : List Nat :=
  if n < 0x80 then [n]
  else
    match letters? n with
    | some letters => letters
    | none =>
      match found? decompositions n with
      | some (first, [target]) => [target + (n - first)]
      | some (_, targets) => targets
      | none => [n]

/-- The class of a mark; zero for a character that starts anew. -/
def markClass (n : Nat) : Nat :=
  if n < 0x300 then 0 else ((found? markClasses n).map (·.2)).getD 0

/-- Puts a mark in front of the marks of higher classes at the end. The text is given backwards. -/
def insertMark (n : Nat) : List Nat → List Nat
  | [] => [n]
  | m :: rest => if markClass n < markClass m then m :: insertMark n rest else n :: m :: rest

/-- The text with runs of marks in the order of their classes, marks of one class as they were. -/
def reorder (text : List Nat) : List Nat :=
  (text.foldl (fun done n => if markClass n = 0 then n :: done else insertMark n done) []).reverse

/-- The character that joins two. -/
def join? (a b : Nat) : Option Nat :=
  (syllable? a b).or (compositions.lookup (a, b))

/-- Joins each character with the marks behind it that it can take. `start` is the last character
that marks may join, `marks` are those behind it that stayed, backwards, and `last` is the class of
the latest of them. A mark is out of reach behind another of no lower class. -/
def compose (start : Nat) (marks : List Nat) (last : Nat) : List Nat → List Nat
  | [] => start :: marks.reverse
  | n :: rest =>
    let level := markClass n
    let joined := if marks.isEmpty || last < level then join? start n else none
    match joined with
    | some whole => compose whole marks last rest
    | none =>
      if level = 0 then (start :: marks.reverse) ++ compose n [] 0 rest
      else compose start (n :: marks) level rest

end NormalForm

open NormalForm in
/-- The normal form of a text. -/
def normalForm (s : String) : String :=
  let points := s.toList.map Char.toNat
  if points.all (· < 0x80) then s
  else
    match reorder (points.flatMap decompose) with
    | [] => ""
    | n :: rest => String.ofList ((compose n [] 0 rest).map Char.ofNat)

end MathProg.Text
