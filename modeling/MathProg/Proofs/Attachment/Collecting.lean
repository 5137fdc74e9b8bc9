import MathProg.Attachment.Query
import MathProg.Number.Checked
import MathProg.Proofs.ConstraintSet.Reshape
import MathProg.Proofs.Fallible

/-!
# Reading results

What a snapshot has read of an in-memory backend, and what it shows of that. A value or a dual stands
under the place of its reference, if the status of its side says that there is any; a dual is shown
in the shape of its set, and expressions are evaluated at the values of their variables.
-/

namespace MathProg

variable {N K V : Type}

namespace Results

/-! ## Reading one result -/

/-- Reading the members of a list under their places, where some of them have nothing to read. -/
theorem lookup_collected {ε α β : Type} {f : α → Except ε (Option β)} {xs : List α}
    {start : Nat} {ys : List (Option (Nat × β))}
    (h : (xs.zipIdx start).mapM (fun t => Option.map (fun y => (t.2, y)) <$> f t.1) = .ok ys) :
    (∀ k x, xs[k]? = some x → f x = .ok ((ys.filterMap id).lookup (start + k))) ∧
      ∀ i, i < start ∨ start + xs.length ≤ i → (ys.filterMap id).lookup i = Option.none := by
  induction xs generalizing start ys with
  | nil =>
    obtain rfl := Fallible.pure_eq_ok.1 h
    exact ⟨fun k x hx => (nomatch hx), fun i _ => rfl⟩
  | cons x xs ih =>
    rw [List.zipIdx_cons, List.mapM_cons] at h
    obtain ⟨y, hy, h⟩ := Fallible.bind_eq_ok.1 h
    obtain ⟨rest, hrest, h⟩ := Fallible.bind_eq_ok.1 h
    obtain rfl := Fallible.pure_eq_ok.1 h
    obtain ⟨first, hfirst, rfl⟩ := Fallible.map_eq_ok.1 hy
    obtain ⟨inside, outside⟩ := ih hrest
    -- what stands behind the first member is found behind it as before
    have further (i : Nat) (other : i ≠ start) :
        ((Option.map (fun y => (start, y)) first :: rest).filterMap id).lookup i
          = (rest.filterMap id).lookup i := by
      cases first with
      | none => rfl
      | some y => simp [List.lookup, beq_false_of_ne other]
    have here : ((Option.map (fun y => (start, y)) first :: rest).filterMap id).lookup start
        = first := by
      cases first with
      | none => exact outside start (.inl (Nat.lt_succ_self start))
      | some y => simp
    refine ⟨fun k x' hx => ?_, fun i hi => ?_⟩
    · cases k with
      | zero =>
        obtain rfl := Option.some.inj hx
        rw [Nat.add_zero, here]
        exact hfirst
      | succ k =>
        rw [further _ (by omega), show start + (k + 1) = start + 1 + k by omega]
        exact inside k x' hx
    · rw [List.length_cons] at hi
      rw [further i (by omega)]
      exact outside i (by omega)

/-- What is done after either of two computations. -/
theorem bind_of_either {ε α β : Type} {p : Prop} [Decidable p] (x y : Except ε α)
    (next : α → Except ε β) :
    (if p then x >>= next else y >>= next) = (if p then x else y) >>= next := by
  split <;> rfl

section

variable [Numeral N K]

/-- The duals are read one by one, each with the index of its constraint. -/
theorem collectDuals_inMemory (b : InMemory N K) (constraints : List ConstraintHandle)
    (result : Int) :
    collectDuals (.inMemory b : Backend N K V) constraints result
      = (constraints.zipIdx.mapM (fun t =>
          Option.map (fun y => (t.2, y)) <$> (b.constraintDual t.1 result).mapM shapedDual))
        >>= fun values => .ok (values.filterMap id) := by
  unfold collectDuals
  congr 1
  refine Fallible.mapM_congr (List.forall₂_same.2 fun t _ => ?_)
  have given : (Backend.inMemory b : Backend N K V).constraintDual t.1 result
      = .ok (b.constraintDual t.1 result) := rfl
  simp only [given]
  cases b.constraintDual t.1 result with
  | none => rfl
  | some dual =>
    change (fun y => some (t.2, y)) <$> shapedDual dual
      = Option.map (fun y => (t.2, y)) <$> (some <$> shapedDual dual)
    cases (shapedDual dual : Except BackendError (Shaped K)) <;> rfl

/-- A dual stands under the index of its constraint. -/
theorem lookup_collectDuals {b : InMemory N K} {constraints : List ConstraintHandle} {result : Int}
    {values : List (Nat × Shaped K)}
    (h : collectDuals (.inMemory b : Backend N K V) constraints result = .ok values) :
    ∀ i handle, constraints[i]? = some handle →
      (b.constraintDual handle result).mapM shapedDual = .ok (values.lookup i) := by
  rw [collectDuals_inMemory] at h
  obtain ⟨read, reads, built⟩ := Fallible.bind_eq_ok.1 h
  obtain rfl := Except.ok.inj built
  obtain ⟨inside, -⟩ := lookup_collected
    (f := fun handle => (b.constraintDual handle result).mapM shapedDual) reads
  intro i handle hi
  have found := inside i handle hi
  rw [Nat.zero_add] at found
  exact found

variable [CheckedArithmetic N K V] [Zero K] [One K] [Add K] [Sub K] [Mul K] [Neg K] [LT K]
variable [DecidableLT K] [OperatorMeaning K]

/-- A snapshot has the results that are counted. -/
theorem collect_inMemory {revision : Nat} {b : InMemory N K} {handles : Handles}
    {snapshot : Results N K}
    (h : collect revision (.inMemory b : Backend N K V) handles = .ok snapshot) :
    snapshot.revision = some revision ∧
    snapshot.slots.length = b.solution.resultCount.toNat ∧
    ∀ (i : Nat) (slot : ResultSlot K), snapshot.slots[i]? = some slot →
      collectSlot (.inMemory b : Backend N K V) handles (i + 1) = .ok slot := by
  unfold collect at h
  obtain ⟨slots, collected, h⟩ := Fallible.bind_eq_ok.1 h
  obtain rfl := Fallible.pure_eq_ok.1 h
  have each := Fallible.mapM_eq_ok.1 collected
  have length := each.length_eq
  rw [List.length_range] at length
  refine ⟨rfl, length.symm, fun i slot hi => ?_⟩
  obtain ⟨inside, rfl⟩ := List.getElem?_eq_some_iff.1 (show slots[i]? = some slot from hi)
  have related := (List.forall₂_iff_get.1 each).2 i (by rw [List.length_range, length]; exact inside) inside
  simpa using related

/-! ### What can be read -/

omit [CheckedArithmetic N K V] [Zero K] [One K] [Add K] [Sub K] [Mul K] [Neg K] [LT K]
  [DecidableLT K] [OperatorMeaning K] in
theorem exists_collectPrimal (b : InMemory N K) (vars : List Nat) (result : Int) :
    ∃ values, collectPrimal (.inMemory b : Backend N K V) vars result = .ok values :=
  Fallible.exists_bind (Fallible.exists_mapM fun _ _ => ⟨_, rfl⟩) fun _ => ⟨_, rfl⟩

omit [CheckedArithmetic N K V] [Zero K] [One K] [Add K] [Sub K] [Mul K] [Neg K] [LT K]
  [DecidableLT K] [OperatorMeaning K] in
/-- Duals can be read if every one of them is a coefficient or a vector. -/
theorem exists_collectDuals_iff {b : InMemory N K} {constraints : List ConstraintHandle}
    {result : Int} :
    (∃ values, collectDuals (.inMemory b : Backend N K V) constraints result = .ok values) ↔
      ∀ handle ∈ constraints, ∀ dual, b.constraintDual handle result = some dual →
        ∃ x, shapedDual dual = .ok x := by
  constructor
  · rintro ⟨values, read⟩ handle mem dual stands
    obtain ⟨i, hi⟩ := List.mem_iff_getElem?.1 mem
    have found := lookup_collectDuals read i handle hi
    rw [stands] at found
    obtain ⟨x, hx, -⟩ := Fallible.map_eq_ok.1 found
    exact ⟨x, hx⟩
  · intro each
    rw [collectDuals_inMemory]
    refine Fallible.exists_bind (Fallible.exists_mapM fun t mem => ?_) fun _ => ⟨_, rfl⟩
    cases stands : b.constraintDual t.1 result with
    | none => exact ⟨_, rfl⟩
    | some dual =>
      obtain ⟨x, read⟩ := each t.1 (List.fst_mem_of_mem_zipIdx mem) dual stands
      change ∃ y, Option.map (fun y => (t.2, y)) <$> (some <$> shapedDual dual) = Except.ok y
      rw [read]
      exact ⟨_, rfl⟩

end

end Results

/-- Whether everything on the dual side of a result can be read: the sum of the constraints, where it
is to be computed, and the duals, where there are any. -/
structure InMemory.ReadsDuals [Zero K] [One K] [Add K] [Sub K] [Mul K] [Neg K] [LT K]
    [DecidableLT K] [Numeral N K] (b : InMemory N K) (handles : Handles) (result : Int) : Prop where
  total : b.solution.dualObjectiveValue.lookup result = none → b.settings.evaluatesDualObjective →
    ∃ x, b.dualSum result = .ok x
  duals : b.dualStatus result ≠ .noSolution → ∀ handle ∈ handles.constraints, ∀ dual,
    b.constraintDual handle result = some dual → ∃ x, Results.shapedDual dual = .ok x

namespace Results

section

variable [Numeral N K] [CheckedArithmetic N K V] [Zero K] [One K] [Add K] [Sub K] [Mul K] [Neg K]
variable [LT K] [DecidableLT K] [OperatorMeaning K]

omit [OperatorMeaning K] in
/-- The objective has no part in whether the dual objective has a value. -/
theorem exists_dualObjectiveValue_iff {b : InMemory N K} {result : Int} :
    (∃ x, b.dualObjectiveValue result = .ok x) ↔
      (b.solution.dualObjectiveValue.lookup result = Option.none →
        b.settings.evaluatesDualObjective → ∃ x, b.dualSum result = .ok x) := by
  unfold InMemory.dualObjectiveValue
  cases b.solution.dualObjectiveValue.lookup result with
  | some x => exact iff_of_true ⟨_, rfl⟩ nofun
  | none =>
    cases b.settings.evaluatesDualObjective with
    | false => exact iff_of_true ⟨_, rfl⟩ fun _ => nofun
    | true =>
      constructor
      · rintro ⟨x, h⟩ - -
        obtain ⟨total, hsum, -⟩ := Fallible.bind_eq_ok.1 h
        exact ⟨total, hsum⟩
      · intro h
        refine Fallible.exists_bind (h rfl rfl) fun total => ?_
        cases total <;> exact ⟨_, rfl⟩

/-- One result can be read if its objective can, and everything on its dual side. -/
theorem exists_collectSlot_iff {b : InMemory N K} {handles : Handles} {result : Int} :
    (∃ slot, collectSlot (.inMemory b : Backend N K V) handles result = .ok slot) ↔
      (∃ x, b.objectiveValue result = .ok x) ∧ b.ReadsDuals handles result := by
  unfold collectSlot
  simp only [bind_of_either]
  constructor
  · rintro ⟨slot, h⟩
    obtain ⟨objective, hobjective, h⟩ := Fallible.bind_eq_ok.1 h
    obtain ⟨dual, hdual, h⟩ := Fallible.bind_eq_ok.1 h
    obtain ⟨primal, -, h⟩ := Fallible.bind_eq_ok.1 h
    obtain ⟨duals, hduals, -⟩ := Fallible.bind_eq_ok.1 h
    refine ⟨⟨objective, hobjective⟩, exists_dualObjectiveValue_iff.1 ⟨dual, hdual⟩, fun some => ?_⟩
    have read := (if_neg some).symm.trans hduals
    exact exists_collectDuals_iff.1 ⟨duals, read⟩
  · rintro ⟨objective, total, duals⟩
    refine Fallible.exists_bind objective fun _ => ?_
    refine Fallible.exists_bind (exists_dualObjectiveValue_iff.2 total) fun _ => ?_
    -- the primal values never fail, so the duals are the last that can
    refine Fallible.exists_bind ?_ fun _ => Fallible.exists_bind ?_ fun _ => ⟨_, rfl⟩
    · split
      · exact ⟨_, rfl⟩
      · exact exists_collectPrimal b handles.vars result
    · split
      next => exact ⟨_, rfl⟩
      next some => exact exists_collectDuals_iff.2 (duals some)

/-- A snapshot can be taken if every result that is counted can be read. -/
theorem exists_collect_iff {revision : Nat} {b : InMemory N K} {handles : Handles} :
    (∃ snapshot, collect revision (.inMemory b : Backend N K V) handles = .ok snapshot) ↔
      ∀ r, 1 ≤ r → r ≤ b.solution.resultCount →
        (∃ x, b.objectiveValue r = .ok x) ∧ b.ReadsDuals handles r := by
  constructor
  · rintro ⟨snapshot, collected⟩ r low high
    obtain ⟨-, length, each⟩ := collect_inMemory collected
    have inside : r.toNat - 1 < snapshot.slots.length := by omega
    have read := each _ _ (List.getElem?_eq_getElem inside)
    rw [show ((r.toNat - 1 : Nat) : Int) + 1 = r by omega] at read
    exact exists_collectSlot_iff.1 ⟨_, read⟩
  · intro each
    refine Fallible.exists_bind (Fallible.exists_mapM fun i mem => ?_) fun slots => ⟨_, rfl⟩
    have below := List.mem_range.1 mem
    change i < b.solution.resultCount.toNat at below
    exact exists_collectSlot_iff.2 (each (i + 1) (by omega) (by omega))

end

end Results

/-! ## Shapes of duals -/

namespace ConstraintSet

variable [Numeral N K]

end ConstraintSet

/-! ## Showing one result -/

section

variable [Numeral N K] [OperatorMeaning K] [Add K] [Mul K]

/-- Expressions at the values that a result has for their variables. -/
def Results.substitution (results : Results N K) (m : Model N K) (result : Int) :
    Valuation (Except (ResultError N K)) N K where
  reference v := results.value m (.expression (.var v)) result >>= ResultSlot.entryValue
  number n := (Numeral.toCoefficient n).mapError .number
  operator op args := (OperatorMeaning.apply op args).mapError .operator

/-- The value of a stored function under a valuation. -/
def ConstraintFunction.valueUnder (i : Valuation (Except (ResultError N K)) N K) :
    ConstraintFunction N K → Except (ResultError N K) (Shaped K)
  | .scalar e => Shaped.scalar <$> e.evaluate i
  | .vector es => Shaped.vector <$> es.mapM (·.evaluate i)

namespace Results

omit [Numeral N K] [OperatorMeaning K] [Add K] [Mul K] in
theorem slot_of_found {results : Results N K} {r : Int} {slot : ResultSlot K}
    (found : results.slot? r = some slot) (asked : ResultAttribute) :
    results.slot asked r = .ok slot := by
  rw [Results.slot, found]

theorem value_of_found {results : Results N K} {r : Int} {slot : ResultSlot K}
    (found : results.slot? r = some slot) (m : Model N K) (o : Operand N K) :
    results.value m o r = slot.valueOf m r o := by
  rw [value, slot_of_found found]
  rfl

theorem valueOf_expression (slot : ResultSlot K) (m : Model N K) (r : Int) (e : Expression N K) :
    slot.valueOf m r (.expression e) = Shaped.scalar <$> e.evaluate (slot.valuation m r) := by
  rw [ResultSlot.valueOf]
  cases e.evaluate (slot.valuation m r) <;> rfl

theorem functionValue_eq (slot : ResultSlot K) (m : Model N K) (r : Int)
    (f : ConstraintFunction N K) :
    slot.functionValue m r f = f.valueUnder (slot.valuation m r) := by
  cases f with
  | scalar e =>
    rw [ResultSlot.functionValue, ConstraintFunction.valueUnder]
    cases e.evaluate (slot.valuation m r) <;> rfl
  | vector es =>
    rw [ResultSlot.functionValue, ConstraintFunction.valueUnder]
    cases es.mapM (·.evaluate (slot.valuation m r)) <;> rfl

/-- A result evaluates expressions at its own values. -/
theorem substitution_eq {results : Results N K} {m : Model N K} {r : Int} {slot : ResultSlot K}
    (found : results.slot? r = some slot) :
    results.substitution m r = slot.valuation m r := by
  have reference : (fun v => results.value m (.expression (.var v)) r >>= ResultSlot.entryValue)
      = slot.primalOf m r := by
    funext v
    rw [value_of_found found, valueOf_expression]
    change (Shaped.scalar <$> slot.primalOf m r v) >>= ResultSlot.entryValue = _
    cases slot.primalOf m r v <;> rfl
  unfold substitution ResultSlot.valuation
  rw [reference]

/-- The value of a variable of the model is the one that stands under its index. -/
theorem value_var {results : Results N K} {m : Model N K} {r : Int} {slot : ResultSlot K}
    (found : results.slot? r = some slot) {v : VariableRef} (own : v.model = m.id) :
    results.value m (.expression (.var v)) r =
      ((slot.primal.lookup v.index).map (fun x => .ok (.scalar x))).getD
        (.error (.noPrimal v r slot.primalStatus)) := by
  have primalOf : slot.primalOf m r v = ((slot.primal.lookup v.index).map Except.ok).getD
      (.error (.noPrimal v r slot.primalStatus)) := by
    rw [ResultSlot.primalOf, if_neg (not_not.2 own)]
    cases slot.primal.lookup v.index <;> rfl
  rw [value_of_found found, valueOf_expression]
  change Shaped.scalar <$> slot.primalOf m r v = _
  rw [primalOf]
  cases slot.primal.lookup v.index <;> rfl

omit [OperatorMeaning K] [Add K] [Mul K] in
/-- The dual of a constraint of the model is the one that stands under its index, in the shape of
its set. -/
theorem dual_constraint {results : Results N K} {m : Model N K} {r : Int} {slot : ResultSlot K}
    (found : results.slot? r = some slot) {c : ConstraintRef} {d : ConstraintData N K}
    (stored : m.constraintData? c = some d) :
    results.dual m (.constraint c) r =
      ((slot.duals.lookup c.index).map (ResultSlot.shape d.set)).getD
        (.error (.noDual c r slot.dualStatus)) := by
  have checked : (m.checkConstraint (.constraint c)).mapError (ResultError.model (K := K))
      = .ok (c, d) := by
    rw [Model.checkConstraint]
    simp only [stored]
    rfl
  rw [dual, slot_of_found found]
  simp only [checked, bind, Except.bind]
  cases slot.duals.lookup c.index <;> rfl

theorem value_constraint {results : Results N K} {m : Model N K} {r : Int} {slot : ResultSlot K}
    (found : results.slot? r = some slot) {c : ConstraintRef} {d : ConstraintData N K}
    (stored : m.constraintData? c = some d) :
    results.value m (.constraint c) r
      = d.function.valueUnder (results.substitution m r) >>= ResultSlot.shape d.set := by
  have checked : (m.checkConstraint (.constraint c)).mapError (ResultError.model (K := K))
      = .ok (c, d) := by
    rw [Model.checkConstraint]
    simp only [stored]
    rfl
  rw [value_of_found found, ResultSlot.valueOf, substitution_eq found, ← functionValue_eq]
  simp only [checked]
  rfl

end Results

end

end MathProg
