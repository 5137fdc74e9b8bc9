import MathProg.Proofs.ConstraintSet.Layout

/-!
# Writing and reading matrices

A layout writes a matrix as a list and reads a list as a matrix. The two undo each other: a square
matrix comes back from what the square layout writes, a symmetric one also from the triangle, and a
list of the right length is what is written of the matrix that is read from it. Reading a list that
was given for a set follows the side that the set has kept.
-/

namespace MathProg

namespace MatrixLayout

variable {α : Type} {layout : MatrixLayout} {n : Nat} {rows : List (List α)} {entries : List α}

/-! ## Matrices -/

/-- The entry in a row and a column. -/
def entryAt? (rows : List (List α)) (i j : Nat) : Option α :=
  (rows[i]?).bind (fun row => row[j]?)

/-- Whether a layout writes all that there is to a matrix: a square one, which the triangle needs to
be symmetric. -/
structure Holds (layout : MatrixLayout) (rows : List (List α)) : Prop where
  square : ∀ row ∈ rows, row.length = rows.length
  symmetric : layout = .triangle →
    ∀ i < rows.length, ∀ j < rows.length, entryAt? rows i j = entryAt? rows j i

theorem Holds.entry_eq (holds : layout.Holds rows) {i j : Nat} (hi : i < rows.length)
    (hj : j < rows.length) : layout.entry? rows i j = entryAt? rows i j := by
  cases layout with
  | triangle =>
    rcases Nat.le_total i j with above | below
    · simp only [source, MatrixLayout.entry?, min_eq_left above, max_eq_right above]
      rfl
    · simp only [source, MatrixLayout.entry?, min_eq_right below, max_eq_left below]
      exact (holds.symmetric rfl i hi j hj).symm
  | square => rfl

theorem exists_flatten (layout : MatrixLayout)
    (square : ∀ row ∈ rows, row.length = rows.length) :
    ∃ entries, layout.flatten? rows = some entries := by
  have found : ∀ p ∈ layout.positions rows.length, ∃ x, entryAt? rows p.1 p.2 = some x := by
    intro p mem
    obtain ⟨hi, hj⟩ := layout.lt_of_mem_positions _ mem
    have inside : p.2 < rows[p.1].length := by rwa [square _ (List.getElem_mem hi)]
    exact ⟨rows[p.1][p.2], by simp [entryAt?, hi, inside]⟩
  exact Fallible.exists_mapM_some found

theorem flatten_map {β : Type} (f : α → β) (written : layout.flatten? rows = some entries) :
    layout.flatten? (rows.map (List.map f)) = some (entries.map f) := by
  have each := Fallible.mapM_eq_some.1 written
  unfold flatten?
  rw [List.length_map, Fallible.mapM_eq_some, List.forall₂_map_right_iff]
  refine each.imp fun p x found => ?_
  obtain ⟨row, hrow, entry⟩ := Option.bind_eq_some_iff.1 found
  simp [hrow, entry]

theorem mem_of_flatten (written : layout.flatten? rows = some entries) {x : α}
    (mem : x ∈ entries) : ∃ row ∈ rows, x ∈ row := by
  obtain ⟨p, -, found⟩ := Fallible.exists_of_mem_right (Fallible.mapM_eq_some.1 written) mem
  obtain ⟨row, hrow, hx⟩ := Option.bind_eq_some_iff.1 found
  exact ⟨row, List.mem_of_getElem? hrow, List.mem_of_getElem? hx⟩

/-- Nothing of a matrix is left out. -/
theorem Holds.mem_flatten (holds : layout.Holds rows)
    (written : layout.flatten? rows = some entries) {row : List α} (hrow : row ∈ rows) {x : α}
    (hx : x ∈ row) : x ∈ entries := by
  obtain ⟨i, hi, rfl⟩ := List.mem_iff_getElem.1 hrow
  obtain ⟨j, hj, rfl⟩ := List.mem_iff_getElem.1 hx
  have inside : j < rows.length := holds.square _ (List.getElem_mem hi) ▸ hj
  refine List.mem_of_getElem? (i := layout.place rows.length i j) ?_
  rw [getElem?_flatten written hi inside, holds.entry_eq hi inside]
  simp [entryAt?, hi, hj]

/-- What a layout writes of a matrix is read as that matrix. -/
theorem Holds.unflatten_flatten (holds : layout.Holds rows)
    (written : layout.flatten? rows = some entries) :
    layout.unflatten? rows.length entries = some rows := by
  have row {i : Nat} (hi : i < rows.length) : (List.range rows.length).mapM
      (fun j => entries[layout.place rows.length i j]?) = some rows[i] := by
    have length := holds.square _ (List.getElem_mem hi)
    rw [Fallible.mapM_eq_some, List.forall₂_iff_get]
    refine ⟨by simp [length], fun j _ hj => ?_⟩
    have inside : j < rows.length := length ▸ hj
    simp only [List.get_eq_getElem, List.getElem_range]
    rw [getElem?_flatten written hi inside, holds.entry_eq hi inside]
    simp [entryAt?, hi, length ▸ inside]
  unfold unflatten?
  rw [Fallible.mapM_eq_some, List.forall₂_iff_get]
  refine ⟨by simp, fun i _ hi => ?_⟩
  simp only [List.get_eq_getElem, List.getElem_range]
  exact row hi

/-! ## Lists that are read -/

theorem exists_unflatten (length : entries.length = layout.size n) :
    ∃ rows, layout.unflatten? n entries = some rows := by
  refine Fallible.exists_mapM_some fun i hi => Fallible.exists_mapM_some fun j hj => ?_
  have position := layout.positions_place (List.mem_range.1 hi) (List.mem_range.1 hj)
  have inside := (List.getElem?_eq_some_iff.1 position).1
  rw [layout.length_positions, ← length] at inside
  exact ⟨_, List.getElem?_eq_getElem inside⟩

section Read

variable (read : layout.unflatten? n entries = some rows)
include read

theorem length_of_unflatten : rows.length = n := by
  simpa using (Fallible.mapM_eq_some.1 read).length_eq.symm

/-- The rows that are read, one by one. -/
theorem row_of_unflatten {i : Nat} (hi : i < rows.length) :
    (List.range n).mapM (fun j => entries[layout.place n i j]?) = some rows[i] := by
  have row := Fallible.getElem?_mapM read i
  rw [List.getElem?_range (length_of_unflatten read ▸ hi), List.getElem?_eq_getElem hi] at row
  exact row.symm

theorem entryAt?_unflatten {i j : Nat} (hi : i < n) (hj : j < n) :
    entryAt? rows i j = entries[layout.place n i j]? := by
  have inside : i < rows.length := (length_of_unflatten read).symm ▸ hi
  have entry := Fallible.getElem?_mapM (row_of_unflatten read inside) j
  rw [List.getElem?_range hj] at entry
  rw [entryAt?, List.getElem?_eq_getElem inside]
  exact entry

theorem holds_unflatten : layout.Holds rows where
  square row mem := by
    obtain ⟨i, hi, rfl⟩ := List.mem_iff_getElem.1 mem
    have length := (Fallible.mapM_eq_some.1 (row_of_unflatten read hi)).length_eq
    rw [List.length_range] at length
    rw [← length, length_of_unflatten read]
  symmetric triangle i hi j hj := by
    subst triangle
    rw [length_of_unflatten read] at hi hj
    rw [entryAt?_unflatten read hi hj, entryAt?_unflatten read hj hi, place, place, max_comm,
      min_comm]

/-- A list of the right length is what is written of the matrix that is read from it. -/
theorem flatten_unflatten (length : entries.length = layout.size n) :
    layout.flatten? rows = some entries := by
  have each : layout.flatten? rows
      = ((layout.positions n).map (fun p => layout.place n p.1 p.2)).mapM (entries[·]?) := by
    unfold flatten?
    rw [length_of_unflatten read, List.mapM_map]
    refine Fallible.mapM_congr (List.forall₂_same.2 fun p mem => ?_)
    obtain ⟨hi, hj⟩ := layout.lt_of_mem_positions n mem
    exact entryAt?_unflatten read hi hj
  -- the places of the written entries are `0, 1, 2, …`, so that the list comes out in its order
  rw [each, map_place_positions, ← length, Fallible.mapM_eq_some, List.forall₂_iff_get]
  exact ⟨by simp, fun k _ hk => by simp⟩

end Read

/-- Whether a matrix of some side can be made where the set has the layout. -/
def room : MatrixLayout → Nat → Except SideError Unit
  | triangle, n => checkSide n
  | square, _ => .ok ()

theorem room_eq_ok : layout.room n = .ok () ↔ (layout = .triangle → n < 524288) := by
  cases layout with
  | triangle =>
    change checkSide n = .ok () ↔ _
    unfold checkSide
    constructor
    · intro h _
      split at h
      · cases h
      · split at h
        · cases h
        · omega
    · intro small
      have small := small rfl
      rw [if_neg (by simp; omega), if_neg (by omega)]
  | square => exact ⟨fun _ => nofun, fun _ => rfl⟩

/-- A side that is checked is a natural number, and there is room in both layouts. -/
theorem room_of_checkSide (layout : MatrixLayout) {side : Int} (h : checkSide side = .ok ()) :
    (side.toNat : Int) = side ∧ layout.room side.toNat = .ok () := by
  have natural : 0 ≤ side := by
    by_contra negative
    rw [checkSide, if_pos (by simp; omega)] at h
    cases h
  refine ⟨Int.toNat_of_nonneg natural, ?_⟩
  cases layout with
  | triangle =>
    change checkSide side.toNat = .ok ()
    rw [Int.toNat_of_nonneg natural, h]
  | square => rfl

end MatrixLayout

/-! ## Sets -/

namespace ConstraintSet

variable {N K : Type} {layout : MatrixLayout}

/-- Whether lists can be read as members of the set. A matrix needs a side that is written as a
natural number, and a triangle needs room for its square. -/
def IsReadable [Numeral N K] : ConstraintSet N → Prop
  | .matrix layout side => ∃ n : Nat, side.bind Numeral.integer? = some (n : Int) ∧
      (layout = .triangle → n < 524288)
  | _ => True

/-- Whether `y` is what `x` is written of: a matrix of whose entries `x` is the list, or `x`
itself. -/
def Restores : ConstraintSet N → Shaped K → Shaped K → Prop
  | .matrix layout _, x, y => ∃ rows xs, y = .matrix rows ∧ x = .vector xs ∧ layout.Holds rows ∧
      layout.flatten? rows = some xs
  | _, x, y => y = x

variable [Numeral N K] {side : Option N} {n : Nat} {xs : List K} {rows : List (List K)}

omit [Numeral N K] in
private theorem readAll (xs : List K) :
    (xs.mapM Except.ok).mapError ReshapeError.number = .ok xs := by
  have read : xs.mapM (Except.ok : K → Except NumberError K) = .ok (xs.map id) :=
    Fallible.mapM_ok fun _ _ => rfl
  rw [read, List.map_id]
  rfl

theorem reshape_vector (cone : Cone) (dimension : Option N) (xs : List K) :
    (vector cone dimension).reshape Except.ok (.vector xs) = .ok (.vector xs) := by
  unfold reshape
  simp only [readAll]
  rfl

/-- A list of the right length is read as soon as there is room. -/
theorem reshape_matrix (hn : side.bind Numeral.integer? = some (n : Int))
    (length : xs.length = layout.size n) (read : layout.unflatten? n xs = some rows) :
    (matrix layout side).reshape Except.ok (.vector xs)
      = (layout.room n).mapError ReshapeError.side >>= fun _ => .ok (.matrix rows) := by
  unfold reshape
  cases layout with
  | triangle =>
    have size : xs.length = n * (n + 1) / 2 := length
    have taken : xs.take (n * (n + 1) / 2) = xs := List.take_of_length_le (by omega)
    simp only [hn, Int.toNat_natCast, taken, readAll, MatrixLayout.room]
    refine congrArg (((checkSide n).mapError ReshapeError.side).bind ·) (funext fun _ => ?_)
    simp only [bind, Except.bind, size, Nat.lt_irrefl, ↓reduceIte, read]
    rfl
  | square =>
    have size : xs.length = n * n := length
    simp only [hn, readAll]
    simp only [bind, Except.bind, Int.toNat_natCast, size, ↓reduceIte, read]
    rw [if_neg (by omega)]
    rfl

/-- Nothing is read where the side is no natural number. -/
theorem reshape_matrix_of_no_side (none : ∀ n : Nat, side.bind Numeral.integer? ≠ some (n : Int))
    (xs : List K) : ∃ e, (matrix layout side).reshape Except.ok (.vector xs) = .error e := by
  unfold reshape
  cases integer : side.bind Numeral.integer? with
  | none =>
    cases layout with
    | triangle => exact ⟨_, by simp only [integer]; rfl⟩
    | square => exact ⟨_, by simp only [integer, readAll]; rfl⟩
  | some k =>
    have negative : k < 0 := by
      by_contra natural
      exact none k.toNat (by rw [integer]; congr 1; omega)
    cases layout with
    | triangle =>
      have refused : checkSide k = .error .impossible := by
        rw [checkSide, if_pos (by simp [negative])]
      exact ⟨_, by simp only [integer, refused]; rfl⟩
    | square =>
      refine ⟨.wrongLength, ?_⟩
      simp only [integer, readAll]
      simp only [bind, Except.bind, negative, ↓reduceIte]

/-- A square matrix is written where the set has its side or none. -/
theorem vectorize_of_flatten {α : Type} {rows : List (List α)} {entries : List α}
    (square : ∀ row ∈ rows, row.length = rows.length)
    (fits : ∀ k, side = some k → Numeral.isInt k rows.length = true)
    (written : layout.flatten? rows = some entries) :
    (matrix layout side).vectorize rows = .ok entries := by
  have whole : rows.any (fun row => row.length != rows.length) = false := by simpa using square
  have agrees : side.filter (fun side => !Numeral.isInt side rows.length) = none := by
    cases side with
    | none => rfl
    | some k => simp [Option.filter, fits k rfl]
  simp only [vectorize, whole, agrees, written, Bool.false_eq_true, ↓reduceIte]

end ConstraintSet

end MathProg
