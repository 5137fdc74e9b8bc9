import Mathlib
import MathProg.Proofs.ConstraintSet.Size
import MathProg.Proofs.Number.Exact

/-!
# Members of sets

What it means that a number, a vector or a matrix lies in a set. A shifted set holds a number exactly
if the set holds the number with its constant, a set that has taken its size from a vector holds
that vector as before, and a matrix lies in a set exactly if its written entries do.
-/

namespace MathProg

open Finset (range)

variable {N K : Type} [CommRing K] [LinearOrder K]

/-- A symmetric matrix whose quadratic form is never negative. -/
def IsPositiveSemidefinite (n : Nat) (entry : Nat → Nat → K) : Prop :=
  (∀ i < n, ∀ j < n, entry i j = entry j i) ∧
    ∀ x : Nat → K, 0 ≤ ∑ i ∈ range n, ∑ j ∈ range n, x i * entry i j * x j

theorem IsPositiveSemidefinite.congr {n : Nat} {entry entry' : Nat → Nat → K}
    (h : IsPositiveSemidefinite n entry) (same : ∀ i < n, ∀ j < n, entry i j = entry' i j) :
    IsPositiveSemidefinite n entry' := by
  refine ⟨fun i hi j hj => ?_, fun x => ?_⟩
  · rw [← same i hi j hj, ← same j hj i hi]
    exact h.1 i hi j hj
  · refine le_of_le_of_eq (h.2 x) (Finset.sum_congr rfl fun i hi => Finset.sum_congr rfl fun j hj => ?_)
    rw [same i (Finset.mem_range.1 hi) j (Finset.mem_range.1 hj)]

/-- The vectors of a cone. -/
def Cone.Contains : Cone → List K → Prop
  | zeros, xs => ∀ x ∈ xs, x = 0
  | nonnegatives, xs => ∀ x ∈ xs, 0 ≤ x
  | nonpositives, xs => ∀ x ∈ xs, x ≤ 0
  | secondOrder, t :: xs => 0 ≤ t ∧ (xs.map (fun x => x * x)).sum ≤ t * t
  | rotatedSecondOrder, t :: u :: xs =>
    0 ≤ t ∧ 0 ≤ u ∧ (xs.map (fun x => x * x)).sum ≤ 2 * t * u
  | _, _ => False

namespace ConstraintSet

variable [Numeral N K]

/-- The numbers of a scalar set. -/
def HasNumber : ConstraintSet N → K → Prop
  | lessThan upper, x => x ≤ Numeral.value upper
  | greaterThan lower, x => Numeral.value lower ≤ x
  | equalTo value, x => x = Numeral.value value
  | interval lower upper, x => Numeral.value lower ≤ x ∧ x ≤ Numeral.value upper
  | integer, x => ∃ k : Int, x = k
  | zeroOne, x => x = 0 ∨ x = 1
  | _, _ => False

/-- Whether a size is open or the given one. -/
def Fits (size : Option N) (n : Nat) : Prop :=
  ∀ s ∈ size, (Numeral.value s : K) = n

/-- The vectors of a set; those of a matrix set are the written entries of its matrices. -/
def HasVector : ConstraintSet N → List K → Prop
  | vector cone dimension, xs => Fits dimension xs.length ∧ cone.Contains xs
  | matrix layout side, xs => ∃ n, Fits side n ∧ xs.length = layout.size n ∧
    IsPositiveSemidefinite n (fun i j => xs.getD (layout.place n i j) 0)
  | _, _ => False

/-- Whether a set holds an object whose entries are read. Of a matrix only those entries count that
the layout of the set reads. -/
def Contains {α : Type} (read : α → Option K) (s : ConstraintSet N) : Shaped α → Prop
  | .scalar a => ∃ x, read a = some x ∧ s.HasNumber x
  | .vector as => ∃ xs, as.mapM read = some xs ∧ s.HasVector xs
  | .matrix rows =>
    match s with
    | matrix layout side => Fits side rows.length ∧ (∀ row ∈ rows, row.length = rows.length) ∧
      ∃ entry : Nat → Nat → K,
        (∀ i < rows.length, ∀ j < rows.length,
          (layout.entry? rows i j).bind read = some (entry i j)) ∧
        IsPositiveSemidefinite rows.length entry
    | _ => False
  | .stack _ => False

variable [ExactNumeral N K]

/-! ## Shifted sets -/

theorem hasNumber_shifted [IsOrderedAddMonoid K] {s t : ConstraintSet N} {c : N}
    (h : s.shifted c = .ok t) (shiftable : s.isShiftable) (x : K) :
    t.HasNumber (x - Numeral.value c) ↔ s.HasNumber x := by
  cases s with
  | lessThan upper =>
    obtain ⟨d, hd, h⟩ := Fallible.bind_eq_ok.1 h
    cases h
    simp only [HasNumber, Numeral.value_sub hd, sub_le_sub_iff_right]
  | greaterThan lower =>
    obtain ⟨d, hd, h⟩ := Fallible.bind_eq_ok.1 h
    cases h
    simp only [HasNumber, Numeral.value_sub hd, sub_le_sub_iff_right]
  | equalTo value =>
    obtain ⟨d, hd, h⟩ := Fallible.bind_eq_ok.1 h
    cases h
    simp only [HasNumber, Numeral.value_sub hd, sub_left_inj]
  | interval lower upper =>
    obtain ⟨d, hd, h⟩ := Fallible.bind_eq_ok.1 h
    obtain ⟨d', hd', h⟩ := Fallible.bind_eq_ok.1 h
    cases h
    simp only [HasNumber, Numeral.value_sub hd, Numeral.value_sub hd', sub_le_sub_iff_right]
  | _ => cases shiftable

/-! ## Sizes -/

omit [LinearOrder K] [ExactNumeral N K] in
theorem fits_none (n : Nat) : Fits (none : Option N) n := by
  simp [Fits]

omit [LinearOrder K] in
theorem fits_ofInt (n : Nat) : Fits (some (Numeral.ofInt n : N)) n := by
  simp [Fits]

/-- A set that takes its size from a vector holds that vector as before. -/
theorem hasVector_withDimension {s t : ConstraintSet N} {xs : List K} (vector : s.kind ≠ .scalar)
    (h : s.withDimension xs.length = .ok t) : t.HasVector xs ↔ s.HasVector xs := by
  cases (withDimension_eq_ok_iff vector).1 h with
  | given => rfl
  | cone cone => simp only [HasVector, fits_none, fits_ofInt]
  | side layout side size =>
    simp only [HasVector, fits_none, true_and]
    constructor
    · rintro ⟨n, -, same, semidefinite⟩
      exact ⟨n, same, semidefinite⟩
    · rintro ⟨n, same, semidefinite⟩
      obtain rfl := MatrixLayout.size_injective (size.trans same)
      exact ⟨side, fits_ofInt side, same, semidefinite⟩

/-! ## Matrices -/

omit [LinearOrder K] in
/-- What it takes for a matrix to be written. -/
theorem vectorize_eq_ok {α : Type} {rows : List (List α)} {s : ConstraintSet N} {items : List α}
    (h : s.vectorize rows = .ok items) :
    ∃ layout side, s = .matrix layout side ∧ (∀ row ∈ rows, row.length = rows.length) ∧
      Fits side rows.length ∧ layout.flatten? rows = some items := by
  cases s with
  | matrix layout side =>
    unfold vectorize at h
    simp only at h
    split at h
    next => cases h
    next square =>
      split at h
      next => cases h
      next fits =>
        split at h
        next entries written =>
          cases h
          refine ⟨layout, side, rfl, by simpa using square, fun n hn => ?_, written⟩
          have size : Numeral.isInt n rows.length := by
            simpa using Option.filter_eq_none_iff.1 fits n hn
          simpa using Numeral.value_of_isInt size
        next => cases h
  | _ => cases h

/-- A matrix lies in a set exactly if its written entries do. -/
theorem contains_matrix {α : Type} {read : α → Option K} {rows : List (List α)}
    {s : ConstraintSet N} {items : List α} {xs : List K} (h : s.vectorize rows = .ok items)
    (values : items.mapM read = some xs) : s.Contains read (.matrix rows) ↔ s.HasVector xs := by
  obtain ⟨layout, side, rfl, square, fits, written⟩ := vectorize_eq_ok h
  have length : xs.length = layout.size rows.length := by
    rw [← MatrixLayout.length_of_flatten written]
    exact (Fallible.mapM_eq_some.1 values).length_eq.symm
  have entry_at {i j : Nat} (hi : i < rows.length) (hj : j < rows.length) :
      (layout.entry? rows i j).bind read
        = some (xs.getD (layout.place rows.length i j) 0) := by
    obtain ⟨inside, -⟩ := List.getElem?_eq_some_iff.1 (layout.positions_place hi hj)
    rw [layout.length_positions, ← length] at inside
    rw [← MatrixLayout.getElem?_flatten written hi hj, ← Fallible.getElem?_mapM values,
      List.getElem?_eq_getElem inside, List.getD_eq_getElem?_getD,
      List.getElem?_eq_getElem inside, Option.getD_some]
  simp only [Contains, HasVector]
  constructor
  · rintro ⟨-, -, entry, reads, semidefinite⟩
    refine ⟨rows.length, fits, length, semidefinite.congr fun i hi j hj => ?_⟩
    exact Option.some.inj ((reads i hi j hj).symm.trans (entry_at hi hj))
  · rintro ⟨n, -, same, semidefinite⟩
    obtain rfl := MatrixLayout.size_injective (length.symm.trans same)
    exact ⟨fits, square, _, fun i hi j hj => entry_at hi hj, semidefinite⟩

end ConstraintSet

end MathProg
