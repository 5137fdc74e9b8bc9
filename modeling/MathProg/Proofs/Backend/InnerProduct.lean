import MathProg.Backend.InMemory
import MathProg.Proofs.ConstraintSet.Reshape
import MathProg.Proofs.Number.Exact

/-!
# Inner products of matrices

The in-memory backend multiplies two members of a matrix set by their written entries. The triangle
writes one of two mirrored entries and counts it twice, so in both layouts the product is the sum
over all entries of the two matrices that are read from the lists.
-/

namespace MathProg

open Finset (range)

namespace MatrixLayout

variable {K : Type} [CommRing K] (layout : MatrixLayout) (n : Nat)

/-! ## Sums over the written positions -/

/-- How many entries of the matrix a written one stands for. -/
def weight (i j : Nat) : K :=
  match layout with
  | triangle => if i = j then 1 else 1 + 1
  | square => 1

/-- A column of a symmetric matrix down to the diagonal has the weight of the column and the row
that meet there. -/
theorem sum_column {f : Nat → Nat → K} (symmetric : ∀ i j, f i j = f j i) :
    ∑ i ∈ range (n + 1), triangle.weight i n * f i n
      = ∑ i ∈ range n, f i n + ∑ j ∈ range n, f n j + f n n := by
  have above : ∀ i ∈ range n, triangle.weight i n * f i n = f i n + f n i := by
    intro i hi
    have off : i ≠ n := by
      have := Finset.mem_range.1 hi
      omega
    rw [weight, if_neg off, symmetric n i]
    ring
  rw [Finset.sum_range_succ, Finset.sum_congr rfl above, Finset.sum_add_distrib, weight,
    if_pos rfl, one_mul]

/-- A square of entries grows by a column, a row and the entry where they meet. -/
theorem sum_square_succ (f : Nat → Nat → K) :
    ∑ i ∈ range (n + 1), ∑ j ∈ range (n + 1), f i j
      = ∑ i ∈ range n, ∑ j ∈ range n, f i j
        + (∑ i ∈ range n, f i n + ∑ j ∈ range n, f n j + f n n) := by
  have rows : ∀ i ∈ range (n + 1),
      ∑ j ∈ range (n + 1), f i j = ∑ j ∈ range n, f i j + f i n := by
    intro i _
    rw [Finset.sum_range_succ]
  rw [Finset.sum_congr rfl rows, Finset.sum_range_succ, Finset.sum_add_distrib]
  ring

/-- The sum over the written positions, column by column. -/
theorem sum_positions (g : Nat × Nat → K) :
    ((layout.positions n).map g).sum
      = ∑ j ∈ range n, ∑ i ∈ range (layout.height n j), g (i, j) := by
  have columns : layout.positions n = ((List.range n).map fun j =>
      (List.range (layout.height n j)).map fun i => (i, j)).flatten := by
    cases layout <;> rfl
  rw [columns, List.map_flatten, List.sum_flatten, List.map_map, List.map_map]
  simp only [Function.comp_def, List.map_map]
  rfl

/-- The weighted sum over the written positions is the sum over all of them. -/
theorem sum_weight {f : Nat → Nat → K} (symmetric : layout = .triangle → ∀ i j, f i j = f j i) :
    ((layout.positions n).map fun p => layout.weight p.1 p.2 * f p.1 p.2).sum
      = ∑ i ∈ range n, ∑ j ∈ range n, f i j := by
  rw [sum_positions]
  cases layout with
  | triangle =>
    show ∑ j ∈ range n, ∑ i ∈ range (j + 1), triangle.weight i j * f i j = _
    -- a triangle grows by a column, where the square that it stands for grows by a row as well
    induction n with
    | zero => rfl
    | succ n ih =>
      rw [Finset.sum_range_succ, ih, sum_column n (symmetric rfl), sum_square_succ]
  | square =>
    simp only [height, weight, one_mul]
    exact Finset.sum_comm

/-! ## Matrices that are read -/

/-- The entry of the matrix that a list of written entries stands for. -/
def readEntry (xs : List K) (i j : Nat) : K :=
  xs.getD (layout.place n i j) 0

/-- The matrix that a list of written entries stands for. -/
def toMatrix (xs : List K) : Matrix (Fin n) (Fin n) K :=
  Matrix.of fun i j => layout.readEntry n xs i j

/-- The rows of a matrix. -/
def rowsOf {n : Nat} (A : Matrix (Fin n) (Fin n) K) : List (List K) :=
  List.ofFn fun i => List.ofFn (A i)

theorem readEntry_comm (xs : List K) (i j : Nat) :
    triangle.readEntry n xs i j = triangle.readEntry n xs j i := by
  simp only [readEntry, place, max_comm, min_comm]

variable {layout n} {xs ys : List K}

theorem getElem?_place (length : xs.length = layout.size n) {i j : Nat} (hi : i < n) (hj : j < n) :
    xs[layout.place n i j]? = some (layout.readEntry n xs i j) := by
  obtain ⟨inside, -⟩ := List.getElem?_eq_some_iff.1 (layout.positions_place hi hj)
  rw [layout.length_positions, ← length] at inside
  rw [readEntry, List.getD_eq_getElem?_getD, List.getElem?_eq_getElem inside, Option.getD_some]

/-- A list is made of its entries at the written positions, in their order. -/
theorem eq_map_readEntry (length : xs.length = layout.size n) :
    xs = (layout.positions n).map fun p => layout.readEntry n xs p.1 p.2 := by
  have entries : xs = (List.range (layout.size n)).map (xs.getD · 0) := by
    refine List.ext_getElem (by simp [length]) fun k hk _ => ?_
    rw [List.getElem_map, List.getElem_range, List.getD_eq_getElem xs 0 hk]
  rw [← map_place_positions, List.map_map] at entries
  exact entries

/-- The written positions with their places. -/
theorem zipIdx_positions : (layout.positions n).zipIdx
    = (layout.positions n).map fun p => (p, layout.place n p.1 p.2) := by
  have places : List.range' 0 (layout.positions n).length
      = (layout.positions n).map fun p => layout.place n p.1 p.2 := by
    rw [← List.range_eq_range', layout.length_positions, map_place_positions]
  rw [List.zipIdx_eq_zip_range', places]
  simpa using List.zip_map' (f := id) (g := fun p => layout.place n p.1 p.2)
    (l := layout.positions n)

/-- A list of the right length is read as its matrix. -/
theorem unflatten_eq_rowsOf (length : xs.length = layout.size n) :
    layout.unflatten? n xs = some (rowsOf (layout.toMatrix n xs)) := by
  have row (i : Fin n) : (List.range n).mapM (fun j => xs[layout.place n i j]?)
      = some (List.ofFn (layout.toMatrix n xs i)) := by
    rw [Fallible.mapM_eq_some, List.forall₂_iff_get]
    refine ⟨by simp, fun j hj _ => ?_⟩
    rw [List.length_range] at hj
    simp only [List.get_eq_getElem, List.getElem_range, List.getElem_ofFn]
    exact getElem?_place length i.isLt hj
  unfold unflatten?
  rw [Fallible.mapM_eq_some, List.forall₂_iff_get]
  refine ⟨by simp [rowsOf], fun i hi _ => ?_⟩
  rw [List.length_range] at hi
  simp only [List.get_eq_getElem, List.getElem_range, rowsOf, List.getElem_ofFn]
  exact row ⟨i, hi⟩

end MatrixLayout

/-! ## Products -/

namespace InMemory

open MatrixLayout

variable {N K : Type} [CommRing K] {layout : MatrixLayout} {n : Nat} {xs ys : List K}

theorem dot_eq_sum (xs ys : List K) : dot xs ys = ((xs.zip ys).map fun p => p.1 * p.2).sum := by
  rw [List.sum_eq_foldl, List.foldl_map]
  rfl

/-- The product of two lists, entry by entry. -/
theorem dot_eq_sum_positions (hx : xs.length = layout.size n) (hy : ys.length = layout.size n) :
    dot xs ys = ((layout.positions n).map fun p =>
      layout.readEntry n xs p.1 p.2 * layout.readEntry n ys p.1 p.2).sum := by
  have pairs : xs.zip ys = (layout.positions n).map fun p =>
      (layout.readEntry n xs p.1 p.2, layout.readEntry n ys p.1 p.2) := by
    rw [← List.zip_map', ← eq_map_readEntry hx, ← eq_map_readEntry hy]
  rw [dot_eq_sum, pairs, List.map_map]
  rfl

theorem triangleDot_eq_sum_positions (hx : xs.length = triangle.size n)
    (hy : ys.length = triangle.size n) :
    triangleDot n xs ys = .ok ((triangle.positions n).map fun p => triangle.weight p.1 p.2
      * (triangle.readEntry n xs p.1 p.2 * triangle.readEntry n ys p.1 p.2)).sum := by
  unfold triangleDot
  rw [zipIdx_positions, List.foldlM_map, Fallible.foldlM_add, zero_add]
  intro p mem total
  obtain ⟨hi, hj⟩ := lt_of_mem_positions _ n mem
  simp only [getElem?_place hx hi hj, getElem?_place hy hi hj, weight, mul_assoc]

variable [Numeral N K]

/-- The inner product of two lists of entries is the sum over all entries of the matrices that they
stand for, which are those that are read from them where there is room. -/
theorem setDot_eq_sum {side : Option N} (natural : side.bind Numeral.integer? = some (n : Int))
    (hx : xs.length = layout.size n) (hy : ys.length = layout.size n) :
    let s : ConstraintSet N := .matrix layout side
    let A := layout.toMatrix n xs
    let B := layout.toMatrix n ys
    s.reshape Except.ok (.vector xs)
      = ((layout.room n).mapError .side >>= fun _ => .ok (.matrix (rowsOf A))) ∧
    s.reshape Except.ok (.vector ys)
      = ((layout.room n).mapError .side >>= fun _ => .ok (.matrix (rowsOf B))) ∧
    setDot s xs ys = .ok (∑ i, ∑ j, A i j * B i j) := by
  intro s A B
  refine ⟨ConstraintSet.reshape_matrix natural hx (unflatten_eq_rowsOf hx),
    ConstraintSet.reshape_matrix natural hy (unflatten_eq_rowsOf hy), ?_⟩
  let product (i j : Nat) : K := layout.readEntry n xs i j * layout.readEntry n ys i j
  have symmetric : layout = .triangle → ∀ i j, product i j = product j i := by
    rintro rfl i j
    simp only [product, readEntry_comm n xs i j, readEntry_comm n ys i j]
  -- in both layouts the product is the weighted sum over the written positions
  have written : ∑ i, ∑ j, A i j * B i j
      = ((layout.positions n).map fun p => layout.weight p.1 p.2 * product p.1 p.2).sum := by
    rw [sum_weight layout n symmetric]
    simp only [Finset.sum_range]
    rfl
  rw [written]
  cases layout with
  | triangle =>
    simp only [s, setDot, natural, Int.toNat_natCast]
    exact triangleDot_eq_sum_positions hx hy
  | square =>
    simp only [s, setDot, hx, hy, ↓reduceIte, weight, one_mul]
    rw [dot_eq_sum_positions hx hy]

/-- Two symmetric matrices, of which the triangle writes three entries each, and two matrices that
the square writes in full. -/
theorem setDot_eq_sum_two :
    let s (layout : MatrixLayout) : ConstraintSet ℚ := .matrix layout (some 2)
    ((s .triangle).reshape Except.ok (.vector [1, 2, 3]) = .ok (.matrix [[1, 2], [2, (3 : ℚ)]]) ∧
      (s .triangle).reshape Except.ok (.vector [4, 5, 6]) = .ok (.matrix [[4, 5], [5, (6 : ℚ)]]) ∧
      setDot (s .triangle) [1, 2, 3] [4, 5, 6]
        = .ok (1 * 4 + 2 * 5 + (2 * 5 + 3 * 6) : ℚ)) ∧
    (s .square).reshape Except.ok (.vector [1, 2, 3, 4]) = .ok (.matrix [[1, 3], [2, (4 : ℚ)]]) ∧
      (s .square).reshape Except.ok (.vector [5, 6, 7, 8]) = .ok (.matrix [[5, 7], [6, (8 : ℚ)]]) ∧
      setDot (s .square) [1, 2, 3, 4] [5, 6, 7, 8]
        = .ok (1 * 5 + 3 * 7 + (2 * 6 + 4 * 8) : ℚ) := by
  intro s
  have natural : (some (2 : ℚ)).bind Numeral.integer? = some ((2 : Nat) : Int) := rfl
  constructor
  · have hx : [(1 : ℚ), 2, 3].length = MatrixLayout.triangle.size 2 := rfl
    have hy : [(4 : ℚ), 5, 6].length = MatrixLayout.triangle.size 2 := rfl
    obtain ⟨left, right, product⟩ := setDot_eq_sum natural hx hy
    simp only [Fin.sum_univ_two] at product
    exact ⟨left, right, product⟩
  · have hx : [(1 : ℚ), 2, 3, 4].length = MatrixLayout.square.size 2 := rfl
    have hy : [(5 : ℚ), 6, 7, 8].length = MatrixLayout.square.size 2 := rfl
    obtain ⟨left, right, product⟩ := setDot_eq_sum natural hx hy
    simp only [Fin.sum_univ_two] at product
    exact ⟨left, right, product⟩

end InMemory

end MathProg
