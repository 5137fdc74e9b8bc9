import MathProg.Proofs.Attachment.ReadBack
import MathProg.Proofs.Model.SymmetricMatrix

/-!
# Values of matrices

Making a symmetric matrix of variables, writing a matrix for a set and reading the written entries
all go through the entries in one order. So the value of a constraint on a matrix is the matrix of
the values of its entries.
-/

namespace MathProg

open Fallible

namespace MatrixLayout

variable {α β : Type} {layout : MatrixLayout} {rows : List (List α)}

theorem entryAt?_map (f : α → β) (i j : Nat) :
    entryAt? (rows.map (List.map f)) i j = (entryAt? rows i j).map f := by
  simp only [entryAt?, List.getElem?_map]
  cases rows[i]? <;> simp

/-- Changing the entries one by one keeps a matrix square and symmetric. -/
theorem Holds.map (holds : layout.Holds rows) (f : α → β) :
    layout.Holds (rows.map (List.map f)) where
  square := by simpa using holds.square
  symmetric triangle i hi j hj := by
    rw [List.length_map] at hi hj
    rw [entryAt?_map, entryAt?_map, holds.symmetric triangle i hi j hj]

/-- A symmetric matrix can be written in both layouts. -/
theorem Holds.square_of (holds : layout.Holds rows) : MatrixLayout.square.Holds rows :=
  ⟨holds.square, nofun⟩

end MatrixLayout

namespace ConstraintSet

variable {N K : Type} [Numeral N K] {layout : MatrixLayout} {side : Option N}

/-- What a layout has written of a matrix is read as the matrix. -/
theorem reshape_of_flatten {rows : List (List K)} {xs : List K} (holds : layout.Holds rows)
    (written : layout.flatten? rows = some xs)
    (hn : side.bind Numeral.integer? = some (rows.length : Int)) :
    (matrix layout side).reshape Except.ok (.vector xs)
      = (layout.room rows.length).mapError ReshapeError.side >>= fun _ => .ok (.matrix rows) :=
  reshape_matrix hn (MatrixLayout.length_of_flatten written) (holds.unflatten_flatten written)

end ConstraintSet

namespace ResultSlot

variable {N K : Type} [Numeral N K] [OperatorMeaning K] [Add K] [Mul K] [Zero K]
variable {slot : ResultSlot K} {m : Model N K}

/-- The values of variables, one by one. -/
theorem IsComplete.valuesOf_vars (complete : slot.IsComplete m) (result : Int)
    {vs : List VariableRef} (owned : ∀ v ∈ vs, m.owns v) :
    slot.valuesOf m result (vs.map fun v => .expression (.var v))
      = .ok (vs.map fun v => .scalar (slot.numberOf v)) := by
  induction vs with
  | nil => rw [List.map_nil, ResultSlot.valuesOf, List.map_nil]
  | cons v vs ih =>
    obtain ⟨first, others⟩ := List.forall_mem_cons.1 owned
    have value :
        slot.valueOf m result (.expression (.var v)) = .ok (.scalar (slot.numberOf v)) := by
      rw [Results.valueOf_expression]
      change Shaped.scalar <$> slot.primalOf m result v = _
      rw [complete.primalOf result first]
      rfl
    rw [List.map_cons, ResultSlot.valuesOf, value, ih others]
    rfl

/-- The value of an array of variables is the array of their values. -/
theorem IsComplete.valueOf_ofRows (complete : slot.IsComplete m) (result : Int)
    {rows : List (List VariableRef)} (square : ∀ row ∈ rows, row.length = rows.length)
    (owned : ∀ row ∈ rows, ∀ v ∈ row, m.owns v) :
    slot.valueOf m result (.ofRows (rows.map (List.map fun v => .expression (.var v))))
      = .ok (.matrix (rows.map (List.map slot.numberOf))) := by
  have square' {β : Type} (f : VariableRef → β) : ∀ row ∈ rows.map (List.map f),
      row.length = (rows.map (List.map f)).length := by
    simpa using square
  have all : ∀ v ∈ rows.flatten, m.owns v := by
    intro v mem
    obtain ⟨row, hrow, hv⟩ := List.mem_flatten.1 mem
    exact owned row hrow v hv
  have numbers : (rows.flatten.map fun v => Shaped.scalar (slot.numberOf v)).mapM
      (entryValue (N := N)) = .ok (rows.flatten.map slot.numberOf) := by
    rw [mapM_eq_ok, List.forall₂_map_left_iff, List.forall₂_map_right_iff, List.forall₂_same]
    exact fun v _ => rfl
  rw [Operand.ofRows_of_square (square' _), ResultSlot.valueOf, ← List.map_flatten,
    complete.valuesOf_vars result all]
  have cut := Shape.slices_flatten (square' slot.numberOf)
  rw [List.length_map, ← List.map_flatten] at cut
  simp only [bind, Except.bind, numbers, List.length_map]
  change Except.ok (Shaped.matrix (Shape.slices [rows.length, rows.length] _)) = _
  rw [cut]

/-- The value of a vector of variables. -/
theorem IsComplete.functionValue_vars (complete : slot.IsComplete m) (result : Int)
    {vs : List VariableRef} (owned : ∀ v ∈ vs, m.owns v) :
    slot.functionValue m result (.vector (vs.map .var)) = .ok (.vector (vs.map slot.numberOf)) := by
  have numbers : (vs.map Expression.var).mapM (·.evaluate (slot.valuation m result))
      = .ok (vs.map slot.numberOf) := by
    rw [mapM_eq_ok, List.forall₂_map_left_iff, List.forall₂_map_right_iff, List.forall₂_same]
    exact fun v mem => complete.primalOf result (owned v mem)
  rw [functionValue, numbers]
  rfl

end ResultSlot

/-! ## Constraints on matrices -/

namespace Model

/-- A matrix of variables as an operand. -/
def operandOf (rows : List (List VariableRef)) : Operand Number Float :=
  .ofRows (rows.map (List.map fun v => .expression (.var v)))

variable {m : Model Number Float} {rows : List (List VariableRef)} {layout : MatrixLayout}
  {side : Option Number}

theorem fit_operandOf {vs : List VariableRef} (holds : layout.Holds rows)
    (written : layout.flatten? rows = some vs)
    (same : side = none ∨ side = some (.integer rows.length)) :
    (ConstraintSet.matrix layout side).fit (operandOf rows)
      = .ok (.vector (vs.map .var), .matrix layout (some (.integer rows.length))) := by
  let entries : List (List (Expression Number Float)) := rows.map (List.map .var)
  have square : ∀ row ∈ entries, row.length = entries.length := by
    simpa [entries] using holds.square
  have plain : ∀ e ∈ vs.map (.var : VariableRef → Expression Number Float), e.isEntry := by
    simp [Expression.isEntry]
  have given : side = none ∨ side = some (.integer entries.length) := by simpa [entries] using same
  have fitted := ConstraintSet.fit_ofRows square plain (MatrixLayout.flatten_map _ written) given
  rw [List.map_map, List.length_map, List.map_comp_map] at fitted
  exact fitted

/-- The value of a constraint on a matrix of variables is the matrix of their values. -/
theorem value_matrix {vs : List VariableRef} (holds : layout.Holds rows)
    (written : layout.flatten? rows = some vs) (room : layout.room rows.length = .ok ())
    {c : ConstraintRef} {name : Option String}
    (stored : m.constraintData? c
      = some ⟨.vector (vs.map .var), .matrix layout (some (.integer rows.length)), name⟩)
    {results : Results Number Float} {result : Int} {slot : ResultSlot Float}
    (found : results.slot? result = some slot) (complete : slot.IsComplete m)
    (owned : ∀ v ∈ vs, m.owns v) :
    results.value m (.constraint c) result = .ok (.matrix (rows.map (List.map slot.numberOf))) := by
  have sized : (some (Number.integer rows.length)).bind Numeral.integer?
      = some ((rows.map (List.map slot.numberOf)).length : Int) := by
    rw [List.length_map]
    rfl
  have read := ConstraintSet.reshape_of_flatten (holds.map slot.numberOf)
    (MatrixLayout.flatten_map slot.numberOf written) sized
  rw [List.length_map, room] at read
  rw [Results.value_constraint_eq found stored, complete.functionValue_vars result owned]
  change (ConstraintSet.reshape _ _ _).mapError _ = _
  rw [read]
  rfl

/-- A constraint on a matrix of variables is accepted, and from then on its value in a complete
result is the matrix of the values. -/
theorem addConstraint_operandOf (holds : layout.Holds rows)
    (room : layout.room rows.length = .ok ()) (owned : ∀ row ∈ rows, ∀ v ∈ row, m.owns v)
    (same : side = none ∨ side = some (.integer rows.length)) (name : Option String) :
    ∃ c t, (addConstraint (operandOf rows) (.matrix layout side) name).run.run m = (.ok c, t) ∧
      ∀ (calls : List (ModelCall Number Float)) (results : Results Number Float) (result : Int)
        (slot : ResultSlot Float), results.slot? result = some slot →
        slot.IsComplete (ModelCall.afterAll calls t) →
        results.value (ModelCall.afterAll calls t) (.constraint c) result
          = .ok (.matrix (rows.map (List.map slot.numberOf))) := by
  obtain ⟨vs, written⟩ := MatrixLayout.exists_flatten layout holds.square
  have inside : ∀ v ∈ vs, m.owns v := by
    intro v mem
    obtain ⟨row, hrow, hv⟩ := MatrixLayout.mem_of_flatten written mem
    exact owned row hrow v hv
  have accepted := addConstraint_accepted name (fit_operandOf holds written same) (m := m) (by
    simpa [ConstraintFunction.entries, Closes, Expression.occurrences] using inside)
  refine ⟨_, _, Prod.ext accepted.1 accepted.2, fun calls results result slot found complete => ?_⟩
  obtain ⟨⟨f, s, name'⟩, kept, function, set⟩ := constraintData?_afterAll
    ⟨.vector (vs.map .var), .matrix layout (some (.integer rows.length)), name⟩ m calls
  cases function
  cases set
  refine value_matrix holds written room kept found complete fun v mem => ?_
  have follows := ModelCall.follows_afterAll calls
    (m.withConstraint ⟨.vector (vs.map .var), .matrix layout (some (.integer rows.length)), name⟩)
  exact owns_mono follows.id follows.vars (inside v mem)

/-- What is known of a matrix of variables: a constraint on it in either layout is accepted, and its
value in a complete result is the matrix of the values of the variables, which is also the value of
the matrix itself. -/
def HasMatrix (m : Model Number Float) (rows : List (List VariableRef)) : Prop :=
  ∀ (before : List (ModelCall Number Float)) (layout : MatrixLayout) (side : Option Number)
    (name : Option String), side = none ∨ side = some (.integer rows.length) →
    ∃ c t, (addConstraint (operandOf rows) (.matrix layout side) name).run.run
        (ModelCall.afterAll before m) = (.ok c, t) ∧
      ∀ (after : List (ModelCall Number Float)) (results : Results Number Float) (result : Int)
        (slot : ResultSlot Float), results.slot? result = some slot →
        let u := ModelCall.afterAll after t
        slot.IsComplete u →
        (∀ row ∈ rows, ∀ v ∈ row, results.value u (.expression (.var v)) result
          = .ok (.scalar (slot.numberOf v))) ∧
        results.value u (operandOf rows) result
          = .ok (.matrix (rows.map (List.map slot.numberOf))) ∧
        results.value u (.constraint c) result
          = .ok (.matrix (rows.map (List.map slot.numberOf)))

theorem hasMatrix_of_holds (holds : MatrixLayout.triangle.Holds rows)
    (room : ∀ layout : MatrixLayout, layout.room rows.length = .ok ())
    (owned : ∀ row ∈ rows, ∀ v ∈ row, m.owns v) : m.HasMatrix rows := by
  intro before layout side name same
  have follows := ModelCall.follows_afterAll before m
  have owned : ∀ row ∈ rows, ∀ v ∈ row, (ModelCall.afterAll before m).owns v :=
    fun row hrow v hv => owns_mono follows.id follows.vars (owned row hrow v hv)
  have either : layout.Holds rows := by
    cases layout with
    | triangle => exact holds
    | square => exact holds.square_of
  obtain ⟨c, t, accepted, value⟩ := addConstraint_operandOf either (room layout) owned same name
  refine ⟨c, t, accepted, fun after results result slot found complete => ?_⟩
  -- the values are read after further calls, and the model they leave still owns the variables
  have grown : (ModelCall.afterAll before m).Follows t := by
    have left := addConstraint_leaves (operandOf rows) (.matrix layout side) name
      (ModelCall.afterAll before m)
    rw [Leaves, accepted] at left
    exact left.1
  have later := grown.trans (ModelCall.follows_afterAll after t)
  have owned : ∀ row ∈ rows, ∀ v ∈ row, (ModelCall.afterAll after t).owns v :=
    fun row hrow v hv => owns_mono later.id later.vars (owned row hrow v hv)
  refine ⟨fun row hrow v hv => ?_, ?_, value after results result slot found complete⟩
  · rw [Results.value_of_found found, Results.valueOf_expression]
    change Shaped.scalar <$> slot.primalOf _ result v = _
    rw [complete.primalOf result (owned row hrow v hv)]
    rfl
  · rw [Results.value_of_found found]
    exact complete.valueOf_ofRows result holds.square owned

/-- Making, writing and reading matrices agree. What a layout writes of a matrix that it holds is
read as that matrix, and what is read from a list of the right length is written as that list. The
triangle of a new symmetric matrix is the list of the new variables, each once and in their order,
and a constraint on it has the values of the matrix. -/
theorem matrices_agree :
    (∀ (layout : MatrixLayout) (rows : List (List Float)), layout.Holds rows →
      let s : ConstraintSet Number := .matrix layout (some (.integer rows.length))
      ∃ xs, s.vectorize rows = .ok xs ∧ s.reshape Except.ok (.vector xs)
        = (layout.room rows.length).mapError .side >>= fun _ => .ok (.matrix rows)) ∧
    (∀ (layout : MatrixLayout) (n : Nat) (xs : List Float), xs.length = layout.size n →
      let s : ConstraintSet Number := .matrix layout (some (.integer n))
      ∃ rows, rows.length = n ∧ layout.Holds rows ∧ s.vectorize rows = .ok xs ∧
        s.reshape Except.ok (.vector xs)
          = (layout.room n).mapError .side >>= fun _ => .ok (.matrix rows)) ∧
    ∀ (m : Model Number Float) (side : Int) (name : Option String),
      Leaves (addSymmetricMatrix side name) m fun result t =>
        match checkSide side with
        | .error e => result = .error (.side e) ∧ t = m
        | .ok _ => ∃ rows, result = .ok rows ∧ (rows.length : Int) = side ∧
            MatrixLayout.triangle.Holds rows ∧
            t.vars.length = m.vars.length + MatrixLayout.triangle.size rows.length ∧
            (.matrix .triangle none : ConstraintSet Number).vectorize rows
              = .ok ((List.range' m.vars.length (MatrixLayout.triangle.size rows.length)).map
                (⟨m.id, ·⟩)) ∧
            t.HasMatrix rows := by
  have own (n : Nat) (k : Number) (given : some (Number.integer n) = some k) :
      Numeral.isInt k n = true := by
    cases given
    exact beq_self_eq_true (n : Int)
  refine ⟨fun layout rows holds => ?_, fun layout n xs length => ?_, fun m side name => ?_⟩
  · -- written, and read back
    obtain ⟨xs, written⟩ := MatrixLayout.exists_flatten layout holds.square
    refine ⟨xs, ConstraintSet.vectorize_of_flatten holds.square (fun k given => ?_) written,
      ConstraintSet.reshape_of_flatten holds written rfl⟩
    exact own _ k given
  · -- read, and written back
    obtain ⟨rows, read⟩ := MatrixLayout.exists_unflatten length
    have side := MatrixLayout.length_of_unflatten read
    have holds := MatrixLayout.holds_unflatten read
    have written := MatrixLayout.flatten_unflatten read length
    refine ⟨rows, side, holds, ConstraintSet.vectorize_of_flatten holds.square (fun k given => ?_)
      written, ConstraintSet.reshape_matrix rfl length read⟩
    rw [side]
    exact own _ k given
  · -- the matrix of new variables
    refine (addSymmetricMatrix_spec (N := Number) FloatLaws.zero_beq side name m).mono
      fun result t left => ?_
    cases checked : checkSide side with
    | error e =>
      rw [checked] at left
      exact left
    | ok u =>
      rw [checked] at left
      obtain ⟨rows, rfl, length, holds, written, rfl⟩ := left
      have room (layout : MatrixLayout) := MatrixLayout.room_of_checkSide layout checked
      simp only [← length] at written room ⊢
      refine ⟨rows, rfl, (room .triangle).1, holds, ?_, ?_, ?_⟩
      · simp [withVariables, MatrixLayout.length_positions]
      · exact ConstraintSet.vectorize_of_flatten holds.square (fun k given => by cases given) written
      · refine hasMatrix_of_holds holds (fun layout => (room layout).2) fun row hrow v hv => ?_
        obtain ⟨k, inside, rfl⟩ := List.mem_map.1 (holds.mem_flatten written hrow hv)
        obtain ⟨-, below⟩ := List.mem_range'_1.1 inside
        simpa [owns, withVariables, MatrixLayout.length_positions] using below

/-- A matrix of numbers, a list of entries, and a matrix of variables in a result that has values for
them. -/
theorem matrices_agree_two :
    let s (layout : MatrixLayout) : ConstraintSet Number := .matrix layout (some (.integer 2))
    let slot : ResultSlot Float :=
      ⟨.feasiblePoint, .noSolution, none, none, [(0, 1), (1, 2), (2, 3)], []⟩
    let results : Results Number Float := ⟨none, .optimal, none, [slot], []⟩
    (∃ xs, (s .triangle).vectorize [[1, 2], [2, (3 : Float)]] = .ok xs ∧
      (s .triangle).reshape Except.ok (.vector xs) = .ok (.matrix [[1, 2], [2, 3]])) ∧
    (∃ rows, (s .square).vectorize rows = .ok [1, 2, 3, (4 : Float)]) ∧
    ∃ rows t c u, (addSymmetricMatrix 2 none).run.run (.empty 0 none) = (.ok rows, t) ∧
      (addConstraint (operandOf rows) (.matrix .triangle none) none).run.run t = (.ok c, u) ∧
      results.value u (.constraint c) 1 = results.value u (operandOf rows) 1 := by
  intro s slot results
  have symmetric : MatrixLayout.triangle.Holds [[1, 2], [2, (3 : Float)]] := by
    refine ⟨by simp, fun _ i hi j hj => ?_⟩
    simp only [List.length_cons, List.length_nil] at hi hj
    interval_cases i <;> interval_cases j <;> simp [MatrixLayout.entryAt?]
  obtain ⟨xs, written, read⟩ := matrices_agree.1 .triangle _ symmetric
  obtain ⟨rows, -, -, written', -⟩ := matrices_agree.2.1 .square 2 [1, 2, 3, 4] rfl
  refine ⟨⟨xs, written, read⟩, ⟨rows, written'⟩, ?_⟩
  have made := matrices_agree.2.2 (.empty 0 none) 2 none
  have checked : checkSide 2 = .ok () := by decide
  rw [Leaves] at made
  generalize (addSymmetricMatrix 2 none).run.run (Model.empty 0 none : Model Number Float)
    = done at made ⊢
  simp only [checked] at made
  obtain ⟨rows, result, length, -, vars, -, constrained⟩ := made
  obtain ⟨c, u, accepted, value⟩ := constrained [] .triangle none none (.inl rfl)
  refine ⟨rows, done.2, c, u, Prod.ext result rfl, accepted, ?_⟩
  have complete : slot.IsComplete u := by
    have left := addConstraint_spec (operandOf rows) (.matrix .triangle none) none done.2
    rw [Leaves, show (addConstraint _ _ _).run.run done.2 = _ from accepted] at left
    obtain ⟨f, s, -, -, -, rfl⟩ := left
    have count : done.2.vars.length = 3 := by
      obtain two : rows.length = 2 := by omega
      rw [vars, two]
      rfl
    intro i hi
    change i < done.2.vars.length at hi
    rw [count] at hi
    interval_cases i <;> exact ⟨_, rfl⟩
  obtain ⟨-, matrix, constraint⟩ := value [] results 1 slot rfl complete
  exact constraint.trans matrix.symm

end Model

end MathProg
