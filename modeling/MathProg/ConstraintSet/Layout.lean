import MathProg.ConstraintSet.Basic
import MathProg.Function.Evaluation

/-!
# Vectors and matrices

A value of a constraint is a number, a vector or a matrix, as its set says. Both matrix layouts go
column by column; the triangle stops at the diagonal and stands for a symmetric matrix.
-/

namespace MathProg

namespace MatrixLayout

/-- The positions of a matrix of side `n` in the order in which the layout writes them. -/
def positions (layout : MatrixLayout) (n : Nat) : List (Nat × Nat) :=
  (List.range n).flatMap (fun j =>
    let height := match layout with
      | triangle => j + 1
      | square => n
    (List.range height).map (fun i => (i, j)))

/-- The place of an entry in the written list. -/
def place (layout : MatrixLayout) (n i j : Nat) : Nat :=
  match layout with
  | triangle => max i j * (max i j + 1) / 2 + min i j
  | square => j * n + i

/-- The written entries of a matrix; `none` if a row is too short. -/
def flatten? {α : Type} (layout : MatrixLayout) (rows : List (List α)) : Option (List α) :=
  (layout.positions rows.length).mapM (fun (i, j) => (rows[i]?).bind (fun row => row[j]?))

/-- The matrix of side `n` with the given written entries; `none` if they do not suffice. -/
def unflatten? {α : Type} (layout : MatrixLayout) (n : Nat) (entries : List α) :
    Option (List (List α)) :=
  (List.range n).mapM (fun i => (List.range n).mapM (fun j => entries[layout.place n i j]?))

end MatrixLayout

/-- Why there is no square matrix with a side. -/
inductive SideError where
  /-- The side is negative, or so long that the entries could not even be counted. -/
  | impossible
  /-- There is no room for so many entries. -/
  | noRoom
deriving DecidableEq, Repr

/-- Checks the side of a square matrix with entries of eight bytes: the bytes must be fewer than
`2 ^ 63`, and there is no room for `2 ^ 41` of them. -/
def checkSide (side : Int) : Except SideError Unit :=
  if side < 0 || 1073741824 ≤ side then .error .impossible
  else if 524288 ≤ side then .error .noRoom
  else .ok ()

/-- Why a value does not fit a set. -/
inductive ReshapeError where
  /-- A list for a scalar set, a number for another one, or a matrix whose side is no integer. -/
  | wrongShape
  /-- The triangle needs more entries. -/
  | tooShort
  /-- The number of entries is not that of the square. -/
  | wrongLength
  | side (e : SideError)
  | number (e : NumberError)
deriving DecidableEq, Repr

namespace ConstraintSet

variable {N C V K : Type}

/-- Brings a written value into the shape of the members of the set. A triangle takes as many
entries as it needs, a square exactly its number of entries. -/
def reshape [Numeral N C] (read : V → Except NumberError K) (values : Shaped V)
    (s : ConstraintSet N) : Except ReshapeError (Shaped K) :=
  let readAll (xs : List V) : Except ReshapeError (List K) := (xs.mapM read).mapError .number
  match s, values with
  | .vector _ _, .vector xs => do return .vector (← readAll xs)
  | .matrix .triangle side, values =>
    match side.bind Numeral.integer? with
    | none => .error .wrongShape
    | some side => do
      (checkSide side).mapError .side
      let n := side.toNat
      let size := n * (n + 1) / 2
      match values with
      | .vector xs =>
        let entries ← readAll (xs.take size)
        if entries.length < size then .error .tooShort
        else
          match MatrixLayout.triangle.unflatten? n entries with
          | some rows => return .matrix rows
          | none => .error .tooShort
      | _ => if n = 0 then return .matrix [] else .error .wrongShape
  | .matrix .square side, .vector xs => do
    let entries ← readAll xs
    match side.bind Numeral.integer? with
    | none => .error .wrongShape
    | some side =>
      if side < 0 then .error .wrongLength
      else if entries.length = side.toNat * side.toNat then
        match MatrixLayout.square.unflatten? side.toNat entries with
        | some rows => return .matrix rows
        | none => .error .wrongLength
      else .error .wrongLength
  | .vector _ _, _ => .error .wrongShape
  | .matrix _ _, _ => .error .wrongShape
  | _, .scalar x => do return .scalar (← (read x).mapError .number)
  | _, _ => .error .wrongShape

/-- The written entries of a matrix that is to be a member of the set. -/
def vectorize [Numeral N C] {α : Type} (rows : List (List α)) (s : ConstraintSet N) :
    Except DimensionError (List α) :=
  match s with
  | .matrix layout side =>
    if rows.any (fun row => row.length != rows.length) then .error .notSquare
    else
      match side.filter (fun side => !Numeral.isInt side rows.length) with
      | some side => .error (.sideMismatch s.family rows.length (Numeral.text side))
      | none =>
        match layout.flatten? rows with
        | some entries => .ok entries
        | none => .error .notSquare
  | _ => .error (.noMatrix s.family)

end ConstraintSet

end MathProg
