import MathProg.Proofs.Attachment.Collecting
import MathProg.Proofs.Expression.Totality
import MathProg.Proofs.Model.Invariant
import MathProg.Proofs.Model.Represent

/-!
# Reading constraints back

A result is complete if it has a value for every variable of its model. There every function that
may be stored has a value, with as many entries as the function has.

A constraint is accepted by the number of its entries, and read back by the side of its set. The two
agree on sides that are natural numbers. A side below zero has a number of entries like any other, so
a constraint with such a side is accepted although no value of it can ever be shown.
-/

namespace MathProg

open Fallible

/-! ## Complete results -/

section Complete

variable {N K : Type}

/-- Whether a value has the form of the function: a number, or as many entries. -/
def ConstraintFunction.Matches : ConstraintFunction N K → Shaped K → Prop
  | scalar _, x => ∃ y, x = .scalar y
  | vector es, x => ∃ xs, x = .vector xs ∧ xs.length = es.length

namespace ResultSlot

/-- Whether a result has a value for every variable of the model. -/
def IsComplete (slot : ResultSlot K) (m : Model N K) : Prop :=
  ∀ i < m.vars.length, ∃ x, slot.primal.lookup i = some x

/-- The number that a result has for a variable. -/
def numberOf [Zero K] (slot : ResultSlot K) (v : VariableRef) : K :=
  (slot.primal.lookup v.index).getD 0

variable [Numeral N K] [OperatorMeaning K] {slot : ResultSlot K} {m : Model N K}

omit [Numeral N K] [OperatorMeaning K] in
theorem IsComplete.primalOf [Zero K] (complete : slot.IsComplete m) (result : Int)
    {v : VariableRef} (owned : m.owns v) : slot.primalOf m result v = .ok (slot.numberOf v) := by
  simp only [Model.owns, Bool.and_eq_true, beq_iff_eq, decide_eq_true_eq] at owned
  obtain ⟨x, found⟩ := complete v.index owned.2
  rw [ResultSlot.primalOf, if_neg (not_not.2 owned.1), numberOf, found]
  rfl

variable [Add K] [Mul K]

theorem IsComplete.exists_evaluate [Zero K] (complete : slot.IsComplete m) (result : Int)
    {e : Expression N K} (scalar : e.isScalarFunction) (closes : m.Closes e) :
    ∃ x, e.evaluate (slot.valuation m result) = .ok x :=
  e.exists_evaluate_of_isScalarFunction scalar fun v hv =>
    ⟨_, complete.primalOf result (closes v hv)⟩

/-- What may be stored has a value in a complete result, and the value has its form. -/
theorem IsComplete.exists_functionValue [Zero K] (complete : slot.IsComplete m) (result : Int)
    {f : ConstraintFunction N K} (fitted : f.IsFitted) (closes : ∀ e ∈ f.entries, m.Closes e) :
    ∃ x, slot.functionValue m result f = .ok x ∧ f.Matches x := by
  cases f with
  | scalar e =>
    obtain ⟨x, hx⟩ := complete.exists_evaluate result fitted (closes e (List.mem_singleton_self e))
    exact ⟨.scalar x, by rw [functionValue, hx]; rfl, x, rfl⟩
  | vector es =>
    have each : ∀ e ∈ es, ∃ x, e.evaluate (slot.valuation m result) = .ok x := by
      intro e mem
      refine complete.exists_evaluate result ?_ (closes e mem)
      have entry := fitted e mem
      cases e with
      | var | linear => rfl
      | number | quadratic | nonlinear => cases entry
    obtain ⟨xs, hxs⟩ := exists_mapM each
    refine ⟨.vector xs, by rw [functionValue, hxs]; rfl, xs, rfl, ?_⟩
    exact (mapM_eq_ok.1 hxs).length_eq.symm

end ResultSlot

/-- The value of a constraint is that of its function, in the shape of its set. -/
theorem Results.value_constraint_eq [Numeral N K] [OperatorMeaning K] [Add K] [Mul K]
    {results : Results N K} {m : Model N K} {result : Int} {slot : ResultSlot K}
    (found : results.slot? result = some slot) {c : ConstraintRef} {d : ConstraintData N K}
    (stored : m.constraintData? c = some d) :
    results.value m (.constraint c) result
      = slot.functionValue m result d.function >>= ResultSlot.shape d.set := by
  rw [value_constraint found stored, substitution_eq found, functionValue_eq]

end Complete

/-! ## Sizes and sides -/

namespace ConstraintSet

variable {s t : ConstraintSet Number} {o : Operand Number Float}
  {f : ConstraintFunction Number Float} {layout : MatrixLayout} {side : Option Number}

/-- A number that is written as an integer is that integer. -/
theorem eq_integer_of_integer? {k : Number} {n : Int} (h : Numeral.integer? k = some n) :
    k = .integer n := by
  cases k with
  | integer m =>
    cases h
    rfl
  | real x => cases h

/-- What a matrix set becomes when it takes the size of a function: its side is kept if it has one,
and is a natural number that fits if not. -/
theorem withDimension_matrix {n : Nat}
    (h : (matrix layout side).withDimension (n : Int) = .ok t) :
    ∃ side', t = matrix layout side' ∧ (∀ k, side = some k → side' = some k) ∧
      (side = none → ∃ k : Nat, side' = some (.integer k)) ∧
      ∀ k : Nat, side'.bind Numeral.integer? = some (k : Int) → n = layout.size k := by
  cases (withDimension_eq_ok_iff (by simp [kind])).1 h with
  | given _ size agrees =>
    obtain ⟨k, rfl, rfl⟩ := Option.map_eq_some_iff.1 size
    refine ⟨some k, rfl, fun _ same => same, nofun, fun k' integer => ?_⟩
    obtain rfl := eq_integer_of_integer? (show Numeral.integer? k = _ from integer)
    change Numeral.isInt (layout.sizeOf (Numeral.ofInt (k' : Int))) n = true at agrees
    rw [sizeOf_ofInt, Number.isInt_integer_iff] at agrees
    exact (Int.ofNat.inj agrees).symm
  | side _ k size =>
    refine ⟨_, rfl, nofun, fun _ => ⟨k, rfl⟩, fun k' integer => ?_⟩
    obtain rfl : k = k' := Int.ofNat.inj (Option.some.inj integer)
    exact size.symm

/-- Whether a function is of the kind of the set, and has as many entries as a natural side asks
for. -/
def Admits (t : ConstraintSet Number) (f : ConstraintFunction Number Float) : Prop :=
  match t, f with
  | .matrix layout side, .vector es =>
    ∀ k : Nat, side.bind Numeral.integer? = some (k : Int) → es.length = layout.size k
  | .vector _ _, .vector _ => True
  | .matrix _ _, .scalar _ => False
  | .vector _ _, .scalar _ => False
  | _, .scalar _ => True
  | _, .vector _ => False

/-- What is stored is of the kind of its set. -/
theorem admits_fit (h : s.fit o = .ok (f, t)) : t.Admits f := by
  unfold fit at h
  split at h
  next scalar =>
    obtain ⟨e, -, h⟩ := bind_eq_ok.1 h
    obtain ⟨⟨e', u⟩, shifted, h⟩ := bind_eq_ok.1 h
    cases h
    -- moving the constant changes the bounds and not the family
    have kind : t.kind = .scalar := by
      unfold fitScalar at shifted
      split at shifted
      next =>
        cases shifted
        exact scalar
      next =>
        obtain ⟨difference, -, shifted⟩ := bind_eq_ok.1 shifted
        obtain ⟨moved, hm, shifted⟩ := bind_eq_ok.1 shifted
        cases shifted
        exact (kind_shifted (mapError_eq_ok.1 hm)).trans scalar
    cases t with
    | vector | matrix => cases kind
    | _ => trivial
  next vector =>
    obtain ⟨items, -, h⟩ := bind_eq_ok.1 h
    obtain ⟨es, -, h⟩ := bind_eq_ok.1 h
    obtain ⟨sized, hs, h⟩ := bind_eq_ok.1 h
    cases h
    have sized := mapError_eq_ok.1 hs
    cases s with
    | vector cone dimension =>
      have kind := (dimension?_withDimension vector sized).1
      cases t with
      | vector => trivial
      | _ => cases kind
    | matrix layout side =>
      obtain ⟨side', rfl, -, -, entries⟩ := withDimension_matrix sized
      exact entries
    | _ => exact absurd rfl vector

/-- The side of a matrix set is kept if it is given, and is a natural number if not. -/
theorem side_fit (h : (matrix layout side).fit o = .ok (f, t)) :
    (∀ k, side = some k → t = matrix layout side) ∧
      (side = none → ∃ k : Nat, t = matrix layout (some (.integer k))) := by
  obtain ⟨items, -, h⟩ := bind_eq_ok.1 h
  obtain ⟨es, -, h⟩ := bind_eq_ok.1 h
  obtain ⟨sized, hs, h⟩ := bind_eq_ok.1 h
  cases h
  obtain ⟨side', rfl, given, inferred, -⟩ := withDimension_matrix (mapError_eq_ok.1 hs)
  refine ⟨fun k same => by rw [given k same, same], fun none => ?_⟩
  obtain ⟨k, rfl⟩ := inferred none
  exact ⟨k, rfl⟩

/-- A value of the right form is restored if the set is readable, and refused if not. -/
theorem reshape_of_admits (admits : t.Admits f) {x : Shaped Float} (form : f.Matches x) :
    (t.IsReadable → ∃ y, t.reshape Except.ok x = .ok y ∧ t.Restores x y) ∧
      (¬ t.IsReadable → ∃ e, t.reshape Except.ok x = .error e) := by
  cases t with
  | vector cone dimension =>
    cases f with
    | scalar e => cases admits
    | vector es =>
      obtain ⟨xs, rfl, -⟩ := form
      exact ⟨fun _ => ⟨_, reshape_vector cone dimension xs, rfl⟩, fun none => absurd trivial none⟩
  | matrix layout side =>
    cases f with
    | scalar e => cases admits
    | vector es =>
      obtain ⟨xs, rfl, length⟩ := form
      -- a side that is no natural number is refused before the values are looked at
      by_cases natural : ∃ n : Nat, side.bind Numeral.integer? = some (n : Int)
      · obtain ⟨n, hn⟩ := natural
        obtain ⟨rows, read⟩ := MatrixLayout.exists_unflatten (length.trans (admits n hn))
        rw [reshape_matrix hn (length.trans (admits n hn)) read]
        constructor
        · rintro ⟨n', hn', small⟩
          obtain rfl : n = n' := Int.ofNat.inj (Option.some.inj (hn.symm.trans hn'))
          rw [MatrixLayout.room_eq_ok.2 small]
          exact ⟨_, rfl, rows, xs, rfl, rfl, MatrixLayout.holds_unflatten read,
            MatrixLayout.flatten_unflatten read (length.trans (admits n hn))⟩
        · intro refused
          cases room : layout.room n with
          | error e => exact ⟨_, rfl⟩
          | ok u => exact absurd ⟨n, hn, MatrixLayout.room_eq_ok.1 room⟩ refused
      · refine ⟨fun ⟨n, hn, _⟩ => absurd ⟨n, hn⟩ natural, fun _ => ?_⟩
        exact reshape_matrix_of_no_side (fun n hn => natural ⟨n, hn⟩) xs
  | lessThan | greaterThan | equalTo | interval | integer | zeroOne =>
    cases f with
    | vector es => cases admits
    | scalar e =>
      obtain ⟨y, rfl⟩ := form
      exact ⟨fun _ => ⟨_, rfl, rfl⟩, fun none => absurd trivial none⟩

theorem exists_shape_iff (admits : t.Admits f) {x : Shaped Float} (form : f.Matches x) :
    (∃ y, ResultSlot.shape t x = .ok y) ↔ t.IsReadable := by
  obtain ⟨readable, refused⟩ := reshape_of_admits admits form
  constructor
  · rintro ⟨y, hy⟩
    by_contra none
    obtain ⟨e, he⟩ := refused none
    rw [ResultSlot.shape, he] at hy
    cases hy
  · intro some
    obtain ⟨y, hy, -⟩ := readable some
    exact ⟨y, by rw [ResultSlot.shape, hy]; rfl⟩

end ConstraintSet

/-! ## Accepted constraints -/

namespace Model

/-- What is known of a constraint that has been accepted for a set, whatever is asked of the model
afterwards. Its set has the side that was given, or a natural number as its side. A value of the form
of its function is restored in the shape of its set if the set is readable, and refused if not. The
same holds of its value in a complete result, and of its dual in a result that has one. -/
structure ReadsBack (m : Model Number Float) (c : ConstraintRef) (s : ConstraintSet Number)
    (d : ConstraintData Number Float) : Prop where
  given : ∀ layout k, s = .matrix layout (some k) → d.set = s
  inferred : ∀ layout, s = .matrix layout none →
    ∃ k : Nat, d.set = .matrix layout (some (.integer k))
  restores : d.set.IsReadable → ∀ x, d.function.Matches x →
    ∃ y, d.set.reshape Except.ok x = .ok y ∧ d.set.Restores x y
  refuses : ¬ d.set.IsReadable → ∀ x, d.function.Matches x →
    ∃ e, d.set.reshape Except.ok x = .error e
  value : ∀ (results : Results Number Float) (result : Int) (slot : ResultSlot Float),
    results.slot? result = some slot → slot.IsComplete m →
    ((∃ y, results.value m (.constraint c) result = .ok y) ↔ d.set.IsReadable)
  dual : ∀ (results : Results Number Float) (result : Int) (slot : ResultSlot Float),
    results.slot? result = some slot →
    ∀ x, slot.duals.lookup c.index = some x → d.function.Matches x →
    ((∃ y, results.dual m (.constraint c) result = .ok y) ↔ d.set.IsReadable)

theorem readsBack_of_stored {m : Model Number Float} {c : ConstraintRef}
    {d : ConstraintData Number Float} {s : ConstraintSet Number} {o : Operand Number Float}
    (fits : s.fit o = .ok (d.function, d.set)) (stored : m.constraintData? c = some d)
    (closes : ∀ e ∈ d.function.entries, m.Closes e) : m.ReadsBack c s d where
  given := by
    rintro layout k rfl
    exact (ConstraintSet.side_fit fits).1 k rfl
  inferred := by
    rintro layout rfl
    exact (ConstraintSet.side_fit fits).2 rfl
  restores readable x form :=
    (ConstraintSet.reshape_of_admits (ConstraintSet.admits_fit fits) form).1 readable
  refuses none x form :=
    (ConstraintSet.reshape_of_admits (ConstraintSet.admits_fit fits) form).2 none
  value results result slot found complete := by
    obtain ⟨x, hx, form⟩ :=
      complete.exists_functionValue result (ConstraintSet.isFitted_fit fits) closes
    rw [Results.value_constraint_eq found stored, hx]
    exact ConstraintSet.exists_shape_iff (ConstraintSet.admits_fit fits) form
  dual results result slot found x hx form := by
    rw [Results.dual_constraint found stored, hx]
    exact ConstraintSet.exists_shape_iff (ConstraintSet.admits_fit fits) form

/-- Every constraint that is accepted is read back exactly if its set is readable: a matrix needs a
side that is a natural number. -/
theorem addConstraint_reads_back {m t : Model Number Float} {o : Operand Number Float}
    {s : ConstraintSet Number} {name : Option String} {c : ConstraintRef}
    (accepted : (addConstraint o s name).run.run m = (.ok c, t))
    (calls : List (ModelCall Number Float)) :
    ∃ d, (ModelCall.afterAll calls t).constraintData? c = some d ∧
      (ModelCall.afterAll calls t).ReadsBack c s d := by
  have spec := addConstraint_spec o s name m
  rw [Leaves, accepted] at spec
  obtain ⟨f, s', fits, closes, rfl, grown⟩ := spec
  obtain rfl : t = m.withConstraint ⟨f, s', name⟩ := grown
  obtain ⟨d, stored, function, set⟩ := constraintData?_afterAll ⟨f, s', name⟩ m calls
  have follows := ModelCall.follows_afterAll calls (m.withConstraint ⟨f, s', name⟩)
  have fits : s.fit o = .ok (d.function, d.set) := by
    rw [function, set]
    exact fits
  refine ⟨d, stored, readsBack_of_stored fits stored ?_⟩
  rw [function]
  exact fun e mem => (closes e mem).mono follows.id follows.vars

/-- A triangle of side minus two has one entry like one of side one. The constraint is accepted, and
no value of it is ever shown. -/
theorem addConstraint_reads_back_negative :
    let x : Operand Number Float := .list [.expression (.var ⟨0, 0⟩)]
    let m : Model Number Float :=
      ModelCall.after (.addVariable (.named (some "x"))) (.empty 0 none)
    ∃ c t d, (addConstraint x (.matrix .triangle (some (.integer (-2)))) none).run.run m
        = (.ok c, t) ∧ t.constraintData? c = some d ∧ ¬ d.set.IsReadable ∧
      (∃ e, d.set.reshape Except.ok (.vector [(7 : Float)]) = .error e) ∧
      ∀ (results : Results Number Float) (slot : ResultSlot Float),
        results.slot? 1 = some slot → slot.IsComplete t →
        ∀ y, results.value t (.constraint c) 1 ≠ .ok y := by
  intro x m
  have accepted : (addConstraint x (.matrix .triangle (some (.integer (-2)))) none).run.run m
      = (.ok ⟨0, 0⟩, (ModelCall.addConstraint x (.matrix .triangle (some (.integer (-2)))) none).after
        m) := rfl
  obtain ⟨d, stored, reads⟩ := addConstraint_reads_back accepted []
  have kept := reads.given .triangle (.integer (-2)) rfl
  have refused : ¬ d.set.IsReadable := by
    rw [kept]
    rintro ⟨n, hn, -⟩
    have := Option.some.inj (show some (-2 : Int) = some (n : Int) from hn)
    omega
  have function : ConstraintFunction.vector [.var ⟨0, 0⟩] = d.function :=
    congrArg ConstraintData.function (Option.some.inj stored)
  have form : d.function.Matches (.vector [7]) := by
    rw [← function]
    exact ⟨[7], rfl, rfl⟩
  refine ⟨_, _, d, accepted, stored, refused, reads.refuses refused _ form, ?_⟩
  intro results slot found complete y hy
  exact refused ((reads.value results 1 slot found complete).1 ⟨y, hy⟩)

end Model

end MathProg
