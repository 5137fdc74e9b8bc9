import Mathlib
import MathProg.Proofs.Model.Call

/-!
# Accepted edits

What an edit that is accepted does to a model, and the entry that stands for it in the
representation.
-/

namespace MathProg

variable {N K : Type} [CommRing K] [BEq K] [Numeral N K]

namespace ConstraintSet

/-- A variable alone has no constant to move. -/
theorem fit_var [LawfulBEq K] {s : ConstraintSet N} (scalar : s.kind = .scalar) {v : VariableRef} :
    s.fit (.expression (.var v) : Operand N K) = .ok (.scalar (.var v), s) :=
  fit_of_constantPart scalar rfl (beq_self_eq_true (0 : K))

end ConstraintSet

namespace Model

omit [CommRing K] [BEq K] [Numeral N K] in
theorem check_of_closes {m : Model N K} {e : Expression N K} (h : m.Closes e) :
    m.checkExpression e = .ok () := by
  have none : e.vars.find? (fun v => !m.owns v) = none :=
    List.find?_eq_none.2 fun v hv => by simp [h v (List.mem_eraseDups.1 hv)]
  rw [checkExpression, none]

omit [CommRing K] [BEq K] [Numeral N K] in
theorem checkAll_of_closes {m : Model N K} {es : List (Expression N K)}
    (h : ∀ e ∈ es, m.Closes e) : m.checkAll es = .ok () := by
  unfold checkAll
  induction es with
  | nil => rfl
  | cons e es ih =>
    obtain ⟨first, others⟩ := List.forall_mem_cons.1 h
    simp only [List.forM_eq_forM, List.forM_cons] at ih ⊢
    rw [check_of_closes first]
    exact ih others

/-- A constraint is accepted if its function fits its set and uses variables of the model. -/
theorem addConstraint_accepted {K : Type} [Zero K] [One K] [Add K] [Mul K] [Neg K] [BEq K]
    [Numeral N K] {m : Model N K} {o : Operand N K} {s t : ConstraintSet N}
    {f : ConstraintFunction N K} (name : Option String) (fits : s.fit o = .ok (f, t))
    (closes : ∀ e ∈ f.entries, m.Closes e) :
    Leaves (addConstraint o s name) m (fun result after =>
      result = .ok ⟨m.id, m.constraints.length⟩ ∧ after = { m with
        constraints := m.constraints ++ [⟨f, t, name⟩], revision := m.revision + 1 }) := by
  unfold addConstraint
  simp only [Leaves.bind_iff, Leaves.ask_iff, Leaves.get_iff, Leaves.change_iff, Leaves.pure_iff,
    fits, checkAll_of_closes closes, and_self]

/-- What an accepted constraint does to a model. -/
theorem run_addConstraint {m : Model N K} {o : Operand N K} {s t : ConstraintSet N}
    {e : Expression N K} (name : Option String) (fits : s.fit o = .ok (.scalar e, t))
    (closes : m.Closes e) :
    (addConstraint o s name).run.run m = (.ok ⟨m.id, m.constraints.length⟩,
      { m with
        constraints := m.constraints ++ [⟨.scalar e, t, name⟩], revision := m.revision + 1 }) := by
  have stored := addConstraint_accepted name fits (m := m) (by
    simpa [ConstraintFunction.entries] using closes)
  exact Prod.ext stored.1 stored.2

/-- The entry of the last constraint. -/
theorem represent_last {m t : Model N K} {r : Representation N K} {d : ConstraintData N K}
    {f : Function K} (h : t.represent = .ok r) (added : t.constraints = m.constraints ++ [d])
    (function : d.function.toFunction = .ok f) :
    r.constraints[m.constraints.length]? = some ⟨d.name, f, d.set⟩ := by
  obtain ⟨-, -, -, entries⟩ := represent_eq_ok.1 h
  rw [added] at entries
  have count := entries.length_eq
  rw [List.length_append, List.length_singleton] at count
  have last := entries.get (i := m.constraints.length) (by simp) (by omega)
  simp only [List.get_eq_getElem, List.getElem_concat_length] at last
  obtain ⟨name, set, same⟩ := ConstraintData.toEntry_eq_ok.1 last
  rw [function] at same
  rw [List.getElem?_eq_getElem (by omega), Option.some.injEq]
  cases hr : r.constraints[m.constraints.length]
  simp_all

omit [BEq K] in
/-- What an accepted objective does to a model. -/
theorem run_setObjective {m : Model N K} {e : Expression N K} {objective : Objective N K}
    (sense : Sense) (accepted : objectiveOf (.expression e) = .ok objective)
    (closes : m.Closes objective.toExpression) :
    (setObjective (some sense) (.expression e)).run.run m =
      (.ok (), { m with sense, objective, revision := m.revision + 1 }) := by
  have set : Leaves (setObjective (some sense) (.expression e)) m (fun result after =>
      result = .ok () ∧ after = { m with sense, objective, revision := m.revision + 1 }) := by
    unfold setObjective
    simp only [Leaves.bind_iff, Leaves.ask_iff, Leaves.change_iff, accepted,
      check_of_closes closes, and_self]
  exact Prod.ext set.1 set.2

end Model

end MathProg
