import Mathlib
import MathProg.ConstraintSet.Layout
import MathProg.Proofs.Fallible

/-!
# Places of matrix entries

A layout writes a matrix column by column, so a column starts where the entries of all columns
before it end. Hence every entry is found at its place among the written ones; the triangle keeps
one of two mirrored entries, the one above the diagonal.
-/

namespace MathProg.MatrixLayout

variable {α : Type} (layout : MatrixLayout) (n : Nat)

/-- How many entries of a column are written. -/
def height (j : Nat) : Nat :=
  match layout with
  | triangle => j + 1
  | square => n

/-- The place of the first entry of a column. -/
def start (j : Nat) : Nat :=
  match layout with
  | triangle => j * (j + 1) / 2
  | square => j * n

/-- Where an entry is read: the triangle reads mirrored entries above the diagonal. -/
def source (i j : Nat) : Nat × Nat :=
  match layout with
  | triangle => (min i j, max i j)
  | square => (i, j)

/-- The entry of a matrix that the layout reads. -/
def entry? (rows : List (List α)) (i j : Nat) : Option α :=
  (rows[(layout.source i j).1]?).bind (fun row => row[(layout.source i j).2]?)

@[simp] theorem start_zero : layout.start n 0 = 0 := by
  cases layout <;> simp [start]

theorem start_succ (j : Nat) : layout.start n (j + 1) = layout.start n j + layout.height n j := by
  cases layout with
  | triangle =>
    have even : j * (j + 1) % 2 = 0 := Nat.even_iff.1 (Nat.even_mul_succ_self j)
    have next : (j + 1) * (j + 1 + 1) = j * (j + 1) + 2 * (j + 1) := by ring
    simp only [start, height, next]
    omega
  | square => simp only [start, height, Nat.succ_mul]

theorem start_mono {j k : Nat} (h : j < k) :
    layout.start n j + layout.height n j ≤ layout.start n k := by
  induction k with
  | zero => omega
  | succ k ih =>
    rw [start_succ]
    rcases Nat.lt_succ_iff_lt_or_eq.1 h with h | rfl
    · have := ih h
      omega
    · exact Nat.le_refl _

theorem size_eq_start : layout.size n = layout.start n n := by
  cases layout <;> rfl

/-! ## Columns -/

/-- The positions in the first columns. -/
private def columns (count : Nat) : List (Nat × Nat) :=
  (List.range count).flatMap (fun j => (List.range (layout.height n j)).map (fun i => (i, j)))

private theorem columns_succ (count : Nat) : layout.columns n (count + 1)
    = layout.columns n count
      ++ (List.range (layout.height n count)).map (fun i => (i, count)) := by
  simp [columns, List.range_succ]

private theorem length_columns (count : Nat) :
    (layout.columns n count).length = layout.start n count := by
  induction count with
  | zero => simp [columns]
  | succ count ih => simp [columns_succ, ih, start_succ]

private theorem columns_getElem? {count i j : Nat} (hj : j < count) (hi : i < layout.height n j) :
    (layout.columns n count)[layout.start n j + i]? = some (i, j) := by
  induction count with
  | zero => omega
  | succ count ih =>
    rw [columns_succ]
    rcases Nat.lt_succ_iff_lt_or_eq.1 hj with before | rfl
    · have inside := layout.start_mono n before
      rw [List.getElem?_append_left (by rw [length_columns]; omega)]
      exact ih before
    · rw [List.getElem?_append_right (by rw [length_columns]; omega), length_columns]
      simp [hi]

/-- The entries of a column follow its first one. -/
theorem place_eq {i j : Nat} (hi : i < layout.height n j) :
    layout.place n i j = layout.start n j + i := by
  cases layout with
  | triangle =>
    have above : i ≤ j := Nat.lt_succ_iff.1 hi
    simp only [place, start, max_eq_right above, min_eq_left above]
  | square => rfl

private theorem map_place_columns (count : Nat) :
    (layout.columns n count).map (fun p => layout.place n p.1 p.2)
      = List.range (layout.start n count) := by
  induction count with
  | zero => simp [columns]
  | succ count ih =>
    have column : (List.range (layout.height n count)).map (fun i => layout.place n i count)
        = (List.range (layout.height n count)).map (layout.start n count + ·) :=
      List.map_congr_left fun i hi => layout.place_eq n (List.mem_range.1 hi)
    rw [columns_succ, List.map_append, ih, List.map_map, start_succ, List.range_add]
    exact congrArg _ column

/-- The positions are listed in the order of their places. -/
theorem map_place_positions :
    (layout.positions n).map (fun p => layout.place n p.1 p.2) = List.range (layout.size n) := by
  rw [size_eq_start, ← map_place_columns]
  cases layout <;> rfl

theorem lt_of_mem_positions {p : Nat × Nat} (h : p ∈ layout.positions n) : p.1 < n ∧ p.2 < n := by
  obtain ⟨j, hj, h⟩ := List.mem_flatMap.1 h
  obtain ⟨i, hi, rfl⟩ := List.mem_map.1 h
  rw [List.mem_range] at hj
  refine ⟨?_, hj⟩
  cases layout with
  | triangle => exact Nat.lt_of_lt_of_le (List.mem_range.1 hi) hj
  | square => exact List.mem_range.1 hi

theorem length_positions : (layout.positions n).length = layout.size n := by
  rw [size_eq_start, ← length_columns]
  cases layout <;> rfl

variable {n}

/-- Every entry is written at its place. -/
theorem positions_place {i j : Nat} (hi : i < n) (hj : j < n) :
    (layout.positions n)[layout.place n i j]? = some (layout.source i j) := by
  cases layout with
  | triangle =>
    exact triangle.columns_getElem? n (i := min i j) (j := max i j) (by omega)
      (by simp only [height]; omega)
  | square => exact square.columns_getElem? n hj hi

/-! ## Written entries -/

variable {layout} {rows : List (List α)} {entries : List α}

theorem length_of_flatten (h : layout.flatten? rows = some entries) :
    entries.length = layout.size rows.length := by
  rw [← length_positions]
  exact (Fallible.mapM_eq_some.1 h).length_eq.symm

/-- The entries that a layout writes are those that it reads. -/
theorem getElem?_flatten (h : layout.flatten? rows = some entries) {i j : Nat}
    (hi : i < rows.length) (hj : j < rows.length) :
    entries[layout.place rows.length i j]? = layout.entry? rows i j := by
  have written := Fallible.mapM_eq_some.1 h
  have position := layout.positions_place hi hj
  obtain ⟨inside, position⟩ := List.getElem?_eq_some_iff.1 position
  have inside' : layout.place rows.length i j < entries.length := written.length_eq ▸ inside
  have entry := written.get inside inside'
  simp only [List.get_eq_getElem, position] at entry
  rw [List.getElem?_eq_getElem inside', entry?, ← entry]

/-- The number of entries tells the side. -/
theorem size_injective : Function.Injective layout.size := by
  cases layout with
  | triangle =>
    refine StrictMono.injective (strictMono_nat_of_lt_succ fun n => ?_)
    rw [size_eq_start, size_eq_start, start_succ]
    simp only [start, height]
    omega
  | square => exact fun m n same => Nat.mul_self_inj.1 same

theorem side?_size {side : Nat} (h : layout.side? n = some side) : layout.size side = n := by
  simp only [side?, Option.ite_none_right_eq_some, Option.some.injEq] at h
  obtain ⟨fits, rfl⟩ := h
  exact fits

/-- The root is made of the root of a quarter. -/
theorem squareRoot_eq_sqrt (n : Nat) : squareRoot n = Nat.sqrt n := by
  induction n using Nat.strong_induction_on with
  | _ n ih =>
    rw [squareRoot]
    split
    next zero => simp [zero]
    next positive =>
      have root := Nat.eq_sqrt.1 (ih (n / 4) (by omega))
      rw [ih (n / 4) (by omega)] at root ⊢
      generalize Nat.sqrt (n / 4) = r at root ⊢
      have below : 2 * r * (2 * r) ≤ n := by
        have := root.1
        rw [Nat.le_div_iff_mul_le (by omega)] at this
        calc 2 * r * (2 * r) = r * r * 4 := by ring
          _ ≤ n := this
      have above : n < (2 * r + 2) * (2 * r + 2) := by
        have := root.2
        rw [Nat.div_lt_iff_lt_mul (by omega)] at this
        calc n < (r + 1) * (r + 1) * 4 := this
          _ = (2 * r + 2) * (2 * r + 2) := by ring
      simp only
      split
      next fits => exact Nat.eq_sqrt.2 ⟨fits, above⟩
      next short => exact Nat.eq_sqrt.2 ⟨below, not_le.1 short⟩

/-- A side is found again from the number of its entries. -/
theorem side?_of_size (layout : MatrixLayout) (side : Nat) :
    layout.side? (layout.size side) = some side := by
  cases layout with
  | triangle =>
    have even : 2 * triangle.size side = side * (side + 1) :=
      Nat.mul_div_cancel' (Nat.even_mul_succ_self side).two_dvd
    have root : squareRoot (2 * triangle.size side) = side := by
      rw [squareRoot_eq_sqrt, even]
      exact (Nat.eq_sqrt.2 ⟨Nat.mul_le_mul_left _ (Nat.le_succ _), by nlinarith⟩).symm
    simp only [side?, root, ↓reduceIte]
  | square =>
    have root : squareRoot (square.size side) = side :=
      (squareRoot_eq_sqrt _).trans (Nat.sqrt_eq side)
    simp only [side?, root, ↓reduceIte]

end MathProg.MatrixLayout
