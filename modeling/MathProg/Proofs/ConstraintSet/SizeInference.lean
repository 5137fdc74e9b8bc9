import MathProg.ErrorReport
import MathProg.Proofs.ConstraintSet.Size

/-!
# Open sizes

A set whose size is open takes exactly the lengths that it can have: a cone any length, the triangle
the triangular numbers and the square the square numbers. What it takes settles its size, so that its
dimension is the length, and every other length is refused as a mismatch of dimensions.
-/

namespace MathProg.ConstraintSet

variable {n : Nat}

/-- The side that a matrix set finds is that of a matrix with so many written entries. -/
theorem withDimension_matrix_none_eq_ok_iff {layout : MatrixLayout} {t : ConstraintSet Number} :
    (matrix layout none).withDimension n = .ok t
      ↔ ∃ side : Nat, layout.size side = n ∧ t = .matrix layout (some (.integer side)) := by
  rw [withDimension_eq_ok_iff (by simp [kind])]
  constructor
  · intro sized
    cases sized with
    | given _ size _ => cases size
    | side _ side size => exact ⟨side, size, rfl⟩
  · rintro ⟨side, size, rfl⟩
    exact .side layout side size

theorem exists_withDimension_matrix_none_iff {layout : MatrixLayout} :
    (∃ t, (matrix layout none : ConstraintSet Number).withDimension n = .ok t)
      ↔ ∃ side, layout.size side = n := by
  constructor
  · rintro ⟨t, h⟩
    obtain ⟨side, size, -⟩ := withDimension_matrix_none_eq_ok_iff.1 h
    exact ⟨side, size⟩
  · rintro ⟨side, size⟩
    exact ⟨_, withDimension_matrix_none_eq_ok_iff.2 ⟨side, size, rfl⟩⟩

/-- A size that has been filled in makes the length the dimension. -/
theorem SizedFor.dimension?_eq {s t : ConstraintSet Number} (sized : SizedFor n s t)
    (unsized : s.dimension? = none) : t.dimension? = some (.integer n) := by
  cases sized with
  | given _ size _ =>
    rw [unsized] at size
    cases size
  | cone cone => rfl
  | side layout side size =>
    rw [← size]
    exact dimension?_integer layout side

/-- A refusal of a length is a mismatch of dimensions. -/
theorem kind_report_of_withDimension {s : ConstraintSet Number} {e : DimensionError}
    (h : s.withDimension n = .error e) (labels : Labels) :
    (Reported.report labels e).kind = .dimension := by
  cases e with
  | negativeLength => exact absurd h (withDimension_ne_negativeLength s n)
  | _ => rfl

/-- Open sizes are found exactly. The triangle takes a length that is triangular and finds its only
side, the square takes a square number and finds its root, and a cone takes every length. In each
case the dimension is the length then, and a length that is not taken is a mismatch of dimensions. -/
theorem withDimension_infers (n : Nat) :
    let triangle : ConstraintSet Number := .matrix .triangle none
    let square : ConstraintSet Number := .matrix .square none
    ((∃ t, triangle.withDimension n = .ok t) ↔ ∃ side : Nat, n = side * (side + 1) / 2) ∧
    (∀ side : Nat, n = side * (side + 1) / 2 →
      triangle.withDimension n = .ok (.matrix .triangle (some (.integer side))) ∧
      ∀ other : Nat, n = other * (other + 1) / 2 → other = side) ∧
    ((∃ t, square.withDimension n = .ok t) ↔ IsSquare n) ∧
    (IsSquare n → square.withDimension n = .ok (.matrix .square (some (.integer n.sqrt)))) ∧
    (∀ cone, ∃ t, (.vector cone none : ConstraintSet Number).withDimension n = .ok t) ∧
    ∀ s : ConstraintSet Number, s.kind ≠ .scalar → s.dimension? = none →
      (∀ t, s.withDimension n = .ok t →
        t.family = s.family ∧ t.dimension? = some (.integer n)) ∧
      ∀ e, s.withDimension n = .error e →
        ∀ labels, (Reported.report labels e).kind = .dimension := by
  refine ⟨?_, ?_, ?_, ?_, fun cone => ⟨_, rfl⟩, ?_⟩
  · rw [exists_withDimension_matrix_none_iff]
    exact exists_congr fun side => eq_comm
  · rintro side rfl
    refine ⟨withDimension_matrix_none_eq_ok_iff.2 ⟨side, rfl, rfl⟩, fun other same => ?_⟩
    have sizes : MatrixLayout.triangle.size side = MatrixLayout.triangle.size other := same
    exact (MatrixLayout.size_injective sizes).symm
  · rw [exists_withDimension_matrix_none_iff]
    exact exists_congr fun side => eq_comm
  · rintro ⟨root, rfl⟩
    rw [Nat.sqrt_eq]
    exact withDimension_matrix_none_eq_ok_iff.2 ⟨root, rfl, rfl⟩
  · intro s vector unsized
    refine ⟨fun t h => ?_, fun e h => kind_report_of_withDimension h⟩
    have sized := (withDimension_eq_ok_iff vector).1 h
    exact ⟨sized.family_eq, sized.dimension?_eq unsized⟩

/-- Thirty-six entries are a triangle of side eight or a square of side six, and thirty-five are
neither. -/
theorem withDimension_infers_thirtySix :
    (matrix .triangle none : ConstraintSet Number).withDimension 36
      = .ok (.matrix .triangle (some (.integer 8))) ∧
    (matrix .square none : ConstraintSet Number).withDimension 36
      = .ok (.matrix .square (some (.integer 6))) ∧
    (matrix .triangle (some (.integer 8)) : ConstraintSet Number).dimension?
      = some (.integer 36) ∧
    ∃ e, (matrix .square none : ConstraintSet Number).withDimension 35 = .error e ∧
      ∀ labels, (Reported.report labels e).kind = .dimension := by
  obtain ⟨-, triangular, -, square, -, sized⟩ := withDimension_infers 36
  obtain ⟨-, -, squares, -, -, refused⟩ := withDimension_infers 35
  have side := (triangular 8 (by decide)).1
  have root := square ⟨6, rfl⟩
  have six : Nat.sqrt 36 = 6 := Nat.sqrt_eq 6
  rw [six] at root
  refine ⟨side, root, ((sized _ (by simp [kind]) rfl).1 _ side).2, ?_⟩
  have noRoot : ¬ IsSquare 35 := by
    rintro ⟨root, same⟩
    have small : root < 6 := by nlinarith
    interval_cases root <;> omega
  cases taken : (matrix .square none : ConstraintSet Number).withDimension 35 with
  | ok t => exact absurd (squares.1 ⟨t, taken⟩) noRoot
  | error e => exact ⟨e, rfl, (refused _ (by simp [kind]) rfl).2 e taken⟩

end MathProg.ConstraintSet
