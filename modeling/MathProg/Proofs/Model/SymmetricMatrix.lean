import MathProg.Proofs.ConstraintSet.Reshape
import MathProg.Proofs.Model.Accepted
import MathProg.Proofs.Model.Atomic
import MathProg.Proofs.Model.Invariant

/-!
# Symmetric matrices of variables

A symmetric matrix gets one variable for every entry on and above the diagonal, in the order in which
the triangle is written. Hence its triangle is the list of the new variables, and a constraint on it
stores what its layout writes.
-/

namespace MathProg

/-! ## Arrays -/

namespace Shape

theorem pieces_flatten {α : Type} {length : Nat} {rows : List (List α)}
    (h : ∀ row ∈ rows, row.length = length) : pieces length rows.length rows.flatten = rows := by
  induction rows with
  | nil => rfl
  | cons row rows ih =>
    obtain ⟨first, others⟩ := List.forall_mem_cons.1 h
    simp only [List.length_cons, pieces, List.flatten_cons]
    rw [List.take_left' first, List.drop_left' first, ih others]

/-- An array is cut into the rows that it is made of. -/
theorem slices_flatten {α : Type} {length : Nat} {rows : List (List α)}
    (h : ∀ row ∈ rows, row.length = length) :
    slices [rows.length, length] rows.flatten = rows := by
  have size : Shape.size [length] = length := Nat.one_mul length
  rw [slices, size]
  exact pieces_flatten h

end Shape

variable {N K : Type}

/-- The rows of a square matrix have the length that its array notes. -/
theorem Operand.ofRows_of_square {rows : List (List (Operand N K))}
    (square : ∀ row ∈ rows, row.length = rows.length) :
    Operand.ofRows rows = .array [rows.length, rows.length] rows.flatten := by
  cases rows with
  | nil => rfl
  | cons row rows =>
    have first := square row List.mem_cons_self
    simp only [Operand.ofRows, List.head?_cons, Option.map_some, Option.getD_some, first]

/-! ## New variables -/

namespace Model

section Variables

variable [Zero K] [One K] [Add K] [Mul K] [Neg K] [BEq K] [Numeral N K]

/-- The model with variables that have nothing but names. -/
def withVariables (names : List (Option String)) (m : Model N K) : Model N K :=
  { m with vars := m.vars ++ names.map (⟨·, []⟩), revision := m.revision + names.length }

/-- Variables with nothing but names are added one behind the other. -/
theorem addVariables_spec (zero : ((0 : K) == 0) = true) (names : List (Option String))
    (m : Model N K) :
    Leaves (names.mapM (fun name => addVariable (.named name : VariableOptions N))) m
      (fun result t =>
        result = .ok ((List.range' m.vars.length names.length).map (⟨m.id, ·⟩)) ∧
        t = m.withVariables names) := by
  induction names generalizing m with
  | nil =>
    refine ⟨rfl, ?_⟩
    change m = _
    simp [withVariables]
  | cons name names ih =>
    rw [List.mapM_cons, Leaves.bind_iff, addVariable_iff zero]
    change Leaves _ (m.withVariable name) _
    rw [Leaves.bind_iff]
    refine (ih (m.withVariable name)).mono fun result t left => ?_
    obtain ⟨rfl, rfl⟩ := left
    have length : (m.withVariable name).vars.length = m.vars.length + 1 := by simp [withVariable]
    refine ⟨?_, ?_⟩
    · simp only [List.length_cons, List.range'_succ, List.map_cons, length]
      rfl
    · simp only [withVariables, withVariable, List.map_cons, List.append_assoc, List.length_cons,
        List.cons_append, List.nil_append]
      rw [Nat.add_right_comm]
      rfl

/-- What a symmetric matrix adds, and the matrix: its triangle is the list of the new variables. -/
theorem addSymmetricMatrix_spec (zero : ((0 : K) == 0) = true) (side : Int)
    (name : Option String) (m : Model N K) :
    Leaves (addSymmetricMatrix side name : Edit N K (List (List VariableRef))) m
      (fun result t =>
        match checkSide side with
        | .error e => result = .error (.side e) ∧ t = m
        | .ok _ => ∃ rows, result = .ok rows ∧ rows.length = side.toNat ∧
            MatrixLayout.triangle.Holds rows ∧
            MatrixLayout.triangle.flatten? rows = some ((List.range' m.vars.length
              (MatrixLayout.triangle.size side.toNat)).map (⟨m.id, ·⟩)) ∧
            t = m.withVariables ((MatrixLayout.triangle.positions side.toNat).map
              (fun p => entryName name p.1 p.2))) := by
  unfold addSymmetricMatrix
  rw [Leaves.bind_iff, Leaves.ofExcept_iff]
  cases checkSide side with
  | error e => exact ⟨rfl, rfl⟩
  | ok _ =>
    change Leaves _ m _
    rw [Leaves.bind_iff]
    have added := addVariables_spec (N := N) zero
      ((MatrixLayout.triangle.positions side.toNat).map (fun p => entryName name p.1 p.2)) m
    rw [List.mapM_map, List.length_map, MatrixLayout.length_positions] at added
    refine added.mono fun result t left => ?_
    obtain ⟨rfl, rfl⟩ := left
    have length : ((List.range' m.vars.length (MatrixLayout.triangle.size side.toNat)).map
        (VariableRef.mk m.id)).length = MatrixLayout.triangle.size side.toNat := by simp
    obtain ⟨rows, read⟩ := MatrixLayout.exists_unflatten length
    refine ⟨rows, ?_, MatrixLayout.length_of_unflatten read, MatrixLayout.holds_unflatten read,
      MatrixLayout.flatten_unflatten read length, rfl⟩
    simp only [read]
    rfl

end Variables

end Model

/-! ## Constraints on matrices -/

namespace ConstraintSet

variable {layout : MatrixLayout} {side : Option Number} {n : Nat}

/-- A set takes the side of a matrix, or has it already. -/
theorem withDimension_size (same : side = none ∨ side = some (.integer n)) :
    (matrix layout side).withDimension (layout.size n : Nat)
      = .ok (matrix layout (some (.integer n))) := by
  have vector : (matrix layout side).kind ≠ .scalar := by simp [kind]
  rw [withDimension_eq_ok_iff vector]
  rcases same with rfl | rfl
  · exact .side layout n rfl
  · exact .given vector (dimension?_integer layout n) (Number.isInt_integer_iff.2 rfl)

/-- A constraint on a matrix stores what the layout writes of it. -/
theorem fit_ofRows {rows : List (List (Expression Number Float))}
    {es : List (Expression Number Float)} (square : ∀ row ∈ rows, row.length = rows.length)
    (entries : ∀ e ∈ es, e.isEntry) (written : layout.flatten? rows = some es)
    (same : side = none ∨ side = some (.integer rows.length)) :
    (matrix layout side).fit (.ofRows (rows.map (List.map .expression)))
      = .ok (.vector es, matrix layout (some (.integer rows.length))) := by
  have square' : ∀ row ∈ rows.map (List.map Operand.expression),
      row.length = (rows.map (List.map Operand.expression)).length := by
    simpa using square
  have vectorized : (matrix layout side).vectorize (rows.map (List.map Operand.expression))
      = .ok (es.map Operand.expression) := by
    refine vectorize_of_flatten square' (fun k given => ?_) (MatrixLayout.flatten_map _ written)
    rcases same with none | some
    · rw [none] at given
      cases given
    · rw [some] at given
      cases given
      rw [List.length_map]
      exact Number.isInt_integer_iff.2 rfl
  have flat : (matrix layout side).flatEntries
      (.ofRows (rows.map (List.map Operand.expression))) = .ok (es.map Operand.expression) := by
    rw [Operand.ofRows_of_square square']
    simp only [flatEntries, Operand.entries, bind, Except.bind,
      Shape.slices_flatten square', Operand.mapM_row]
    simp only [Operand.isMatrix, Bool.not_true, Bool.and_false, Bool.false_eq_true, ↓reduceIte,
      vectorized]
    rfl
  have length : es.length = layout.size rows.length := MatrixLayout.length_of_flatten written
  unfold fit
  simp only [kind, flat, bind, Except.bind, Operand.mapM_vectorEntry entries, length,
    withDimension_size same]
  rfl

end ConstraintSet

end MathProg
