import MathProg.Expression.Shape
import MathProg.Text.Cutting

/-!
# Arrays as text

An array is written in brackets, one pair for every axis, from the texts of its entries. The
entries of a row are parted by commas and go on below the first one when the line is full; an entry
of several lines keeps them under one another. Of a large array only the first and the last entries
of each axis are written.
-/

namespace MathProg.ArrayText

/-- The widest line, in characters. -/
def lineWidth : Nat := 75

/-- The most entries that an array may have to be written in full. -/
def threshold : Nat := 1000

/-- How many entries of an axis are written at each end of it. -/
def edge : Nat := 3

/-- What is written of a text: the lines that are full, and the last one. -/
structure Page where
  done : List Char
  line : List Char

def Page.all (p : Page) : List Char :=
  p.done ++ p.line

/-- The page with a new last line. -/
def Page.turn (p : Page) (line : List Char) : Page :=
  ⟨p.done ++ Text.stripRight p.line ++ ['\n'], line⟩

/-- Adds a word of one line, on a new line if it would reach beyond the width and that helps. -/
def Page.addWord (width : Nat) (indent : List Char) (p : Page) (word : List Char) : Page :=
  let turns := width < p.line.length + word.length && indent.length < p.line.length
  let p := if turns then p.turn indent else p
  { p with line := p.line ++ word }

/-- Adds the lines of an entry under one another; the last one is filled up to the longest. -/
def Page.addLines (width : Nat) (indent : List Char) (p : Page) (first : List Char)
    (others : List (List Char)) : Page :=
  let longest := ((first :: others).map List.length).foldl max 0
  let turns := width < p.line.length + longest && indent.length < p.line.length
  let p := if turns then p.turn indent else p
  let below := if turns then indent else List.replicate p.line.length ' '
  let started := { p with line := p.line ++ first }
  let written := others.foldl (fun p line => p.turn (below ++ line)) started
  let filled := longest - ((others.getLast?.getD first)).length
  { written with line := written.line ++ List.replicate filled ' ' }

/-- Adds an entry. -/
def Page.add (width : Nat) (indent : List Char) (p : Page) (entry : List Char) : Page :=
  match Text.lines entry with
  | first :: second :: others => p.addLines width indent first (second :: others)
  | _ => p.addWord width indent entry

/-- The entries of a row, with a comma and a blank between them. -/
def row (width : Nat) (indent : List Char) : Page → List (List Char) → Page
  | p, [] => p
  | p, [entry] => p.add width indent entry
  | p, entry :: others =>
    let p := p.add width indent entry
    row width indent { p with line := p.line ++ [',', ' '] } others

/-- The parts of an axis that are written; dots stand for those that are left out. -/
def shown {α : Type} (isShort : Bool) (dots : α) (parts : List α) : List α :=
  if isShort && 2 * edge < parts.length then
    parts.take edge ++ dots :: parts.drop (parts.length - edge)
  else parts

/-- The text of an array with the given axes behind an indentation. -/
def brackets (isShort : Bool) : List Nat → Nat → List Char → List (List Char) → List Char
  | [], _, _, entries => entries.flatten
  | [_], width, indent, entries =>
    let text := (row (width - 1) indent ⟨[], indent⟩ (shown isShort ['.', '.', '.'] entries)).all
    '[' :: text.drop indent.length ++ [']']
  | _ :: rest, width, indent, entries =>
    let parts := (Shape.pieces (Shape.size rest) (entries.length / Shape.size rest) entries).map
      (brackets isShort rest (width - 1) (indent ++ [' ']))
    let between := ',' :: List.replicate rest.length '\n' ++ indent
    '[' :: between.intercalate (shown isShort ['.', '.', '.'] parts) ++ [']']

/-- A shape in round brackets. -/
def shapeText (shape : List Nat) : String :=
  match shape with
  | [n] => s!"({n},)"
  | shape => "(" ++ ", ".intercalate (shape.map toString) ++ ")"

/-- What is told of an array behind its entries: its shape if they do not show it, and that they may
be of any kind. -/
def remarks (shape : List Nat) : String :=
  let size := Shape.size shape
  let isHidden := threshold < size || (size = 0 && shape != [0])
  (if isHidden then "shape=" ++ shapeText shape ++ ", " else "") ++ "dtype=object)"

/-- An array from the texts of its entries. The remarks go to a new line if they do not fit. -/
def text (shape : List Nat) (entries : List (List Char)) : String :=
  let start := "array(".toList
  let size := Shape.size shape
  let indent := List.replicate (start.length + 1) ' '
  let written := if size = 0 then ['[', ']']
    else brackets (threshold < size) shape (lineWidth - 1) indent entries
  let body := start ++ written ++ [',']
  let last := (body.reverse.takeWhile (· != '\n')).length
  let remarks := remarks shape
  let gap := if lineWidth < last + remarks.length + 1 then "\n      " else " "
  String.ofList body ++ gap ++ remarks

end MathProg.ArrayText
