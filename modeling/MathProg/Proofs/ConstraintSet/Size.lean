import MathProg.Proofs.ConstraintSet.Layout

/-!
# Sizes of sets

A set of vectors or matrices takes the length of a function that it meets. A size that the set has
must agree with the length, and an open one is filled in: the dimension is the length itself, and the
side is the one whose matrices have so many written entries, if there is one.
-/

namespace MathProg

/-- An integer that is written as a size is that integer. -/
theorem Number.isInt_integer_iff {k l : Int} :
    Numeral.isInt (Number.integer k) l = true ↔ k = l :=
  beq_iff_eq (a := k) (b := l)

namespace MatrixLayout

variable {layout : MatrixLayout} {n side : Nat}

/-- A side is found exactly if its matrices have so many written entries. -/
theorem side?_eq_some_iff : layout.side? n = some side ↔ layout.size side = n := by
  constructor
  · exact side?_size
  · rintro rfl
    exact side?_of_size layout side

end MatrixLayout

namespace ConstraintSet

variable {N K : Type} [Numeral N K] {s t : ConstraintSet N} {n : Nat}

/-- The dimension of a matrix set whose side is a natural number. -/
theorem sizeOf_ofInt (layout : MatrixLayout) (side : Nat) :
    layout.sizeOf (Numeral.ofInt side : Number) = .integer (layout.size side) := by
  cases layout with
  | triangle =>
    show Number.integer ((side : Int) * (side + 1) / 2) = .integer (side * (side + 1) / 2 : Nat)
    push_cast
    rfl
  | square =>
    show Number.integer ((side : Int) * side) = .integer (side * side : Nat)
    push_cast
    rfl

theorem dimension?_integer (layout : MatrixLayout) (side : Nat) :
    (matrix layout (some (.integer side)) : ConstraintSet Number).dimension?
      = some (.integer (layout.size side)) :=
  congrArg some (sizeOf_ofInt layout side)

/-- What a set of vectors or matrices is for functions of length `n`: a size that it has agrees with
the length, and an open size is filled in. -/
inductive SizedFor (n : Nat) : ConstraintSet N → ConstraintSet N → Prop where
  | given {s : ConstraintSet N} {d : N} (vector : s.kind ≠ .scalar) (size : s.dimension? = some d)
      (agrees : Numeral.isInt d n = true) : SizedFor n s s
  | cone (cone : Cone) :
      SizedFor n (.vector cone none) (.vector cone (some (Numeral.ofInt n)))
  | side (layout : MatrixLayout) (side : Nat) (size : layout.size side = n) :
      SizedFor n (.matrix layout none) (.matrix layout (some (Numeral.ofInt side)))

theorem SizedFor.family_eq (sized : SizedFor n s t) : t.family = s.family := by
  cases sized <;> rfl

/-- A set of numbers takes a length of one and stays as it is. -/
theorem withDimension_scalar (scalar : s.kind = .scalar) (n : Int) :
    s.withDimension n = if n = 1 then .ok s else .error (.scalarSet s.family n) := by
  cases s with
  | vector | matrix => cases scalar
  | lessThan | greaterThan | equalTo | interval | integer | zeroOne => rfl

/-- A length is compared with a size that the set has. -/
theorem withDimension_of_some {d : N} (vector : s.kind ≠ .scalar) (size : s.dimension? = some d) :
    s.withDimension n = if Numeral.isInt d n then .ok s
      else .error (.mismatch s.family n (Numeral.text d)) := by
  cases s with
  | vector cone dimension =>
    obtain rfl : dimension = some d := size
    rfl
  | matrix layout side =>
    obtain ⟨side, rfl, rfl⟩ := Option.map_eq_some_iff.1 size
    rfl
  | _ => exact absurd rfl vector

/-- A set without a size holds vectors of any length, or matrices of any side. -/
theorem exists_of_dimension?_eq_none (size : s.dimension? = none) :
    (∃ cone, s = .vector cone none) ∨ ∃ layout, s = .matrix layout none := by
  cases s with
  | vector cone dimension =>
    obtain rfl : dimension = none := size
    exact .inl ⟨cone, rfl⟩
  | matrix layout side =>
    obtain rfl := Option.map_eq_none_iff.1 size
    exact .inr ⟨layout, rfl⟩
  | _ => cases size

/-- The side of a matrix is found from the length. -/
theorem withDimension_matrix_none (layout : MatrixLayout) (n : Nat) :
    (matrix layout none : ConstraintSet N).withDimension n
      = match layout.side? n with
        | some side => .ok (.matrix layout (some (Numeral.ofInt side)))
        | none =>
          match layout with
          | .triangle => .error (.notTriangular n)
          | .square => .error (.notSquareNumber n) := by
  unfold withDimension
  simp only [Int.not_ofNat_neg, ↓reduceIte]
  rfl

/-- A set takes a length exactly as its size says. -/
theorem withDimension_eq_ok_iff (vector : s.kind ≠ .scalar) :
    s.withDimension n = .ok t ↔ SizedFor n s t := by
  constructor
  · intro h
    cases size : s.dimension? with
    | some d =>
      rw [withDimension_of_some vector size] at h
      split at h
      next agrees =>
        cases h
        exact .given vector size agrees
      next => cases h
    | none =>
      rcases exists_of_dimension?_eq_none size with ⟨cone, rfl⟩ | ⟨layout, rfl⟩
      · cases h
        exact .cone cone
      · rw [withDimension_matrix_none] at h
        split at h
        next side found =>
          cases h
          exact .side layout side (MatrixLayout.side?_size found)
        next => split at h <;> cases h
  · intro sized
    cases sized with
    | given vector size agrees => rw [withDimension_of_some vector size, if_pos agrees]
    | cone cone => rfl
    | side layout side size =>
      rw [withDimension_matrix_none, MatrixLayout.side?_eq_some_iff.2 size]

/-- The length of a function is a natural number, so no set takes offence at its sign. -/
theorem withDimension_ne_negativeLength (s : ConstraintSet N) (n : Nat) :
    s.withDimension n ≠ .error .negativeLength := by
  intro h
  by_cases scalar : s.kind = .scalar
  · rw [withDimension_scalar scalar] at h
    split at h <;> cases h
  cases size : s.dimension? with
  | some d =>
    rw [withDimension_of_some scalar size] at h
    split at h <;> cases h
  | none =>
    rcases exists_of_dimension?_eq_none size with ⟨cone, rfl⟩ | ⟨layout, rfl⟩
    · cases h
    · rw [withDimension_matrix_none] at h
      split at h
      next => cases h
      next => split at h <;> cases h

end ConstraintSet

end MathProg
