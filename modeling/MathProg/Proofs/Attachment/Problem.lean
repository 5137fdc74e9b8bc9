import Mathlib
import MathProg.Proofs.Attachment.Lifecycle

/-!
# What a load has written

A load that completes leaves an objective behind if and only if the backend takes one of its kind.
What a solve finds out afterwards changes nothing of the problem.
-/

namespace MathProg

variable {N K V : Type}

/-! ## The same problem -/

namespace Algebraic

/-- The variable without a value. -/
def Variable.erased (x : Variable N) : Variable N :=
  { x with value := none }

/-- The problem without the values of its variables. -/
def Problem.erased (p : Problem N V) : Problem N V :=
  { p with vars := p.vars.map Variable.erased }

/-- Another solution, of the same problem under the same settings. -/
structure SameProblem (b c : Algebraic N K V) : Prop where
  problem : c.problem.erased = b.problem.erased
  settings : c.settings = b.settings

theorem map_assign (xs : List (Variable N)) (values : List (Option N)) :
    (assign xs values).map Variable.erased = xs.map Variable.erased := by
  induction xs generalizing values with
  | nil => cases values <;> rfl
  | cons x xs ih =>
    cases values with
    | nil => rfl
    | cons value values =>
      rw [assign, List.map_cons, List.map_cons, ih]
      rfl

theorem SameProblem.refl (b : Algebraic N K V) : b.SameProblem b :=
  ⟨rfl, rfl⟩

theorem SameProblem.trans {b c d : Algebraic N K V} (h : b.SameProblem c) (h' : c.SameProblem d) :
    b.SameProblem d :=
  ⟨h'.problem.trans h.problem, h'.settings.trans h.settings⟩

theorem prepare_sameProblem (b : Algebraic N K V) : b.SameProblem b.prepare := by
  unfold prepare
  split <;> exact ⟨rfl, rfl⟩

theorem load_sameProblem (b : Algebraic N K V) (point : SolverPoint N) :
    b.SameProblem (b.load point) := by
  refine ⟨?_, rfl⟩
  simp only [load, Problem.erased, map_assign]

section

variable [Zero K] [Add K] [Sub K] [Neg K] [Div K] [LT K] [DecidableLT K] [TextNumber K]
variable [Numeral N K] [CheckedArithmetic N K V]

theorem accept_sameProblem (b : Algebraic N K V) (r : SolverReport N) :
    b.SameProblem (b.accept r).1 := by
  have loaded : b.SameProblem (((r.point.filter (fun _ => r.condition.isLoadable)).map b.load).getD b)
      := by
    cases r.point.filter (fun _ => r.condition.isLoadable) with
    | none => exact .refl b
    | some point => exact b.load_sameProblem point
  unfold accept
  cases (gapOf r : Except BackendError (Option K)) <;> exact ⟨loaded.problem, loaded.settings⟩

/-- Calling the solver changes nothing of the problem. -/
theorem solve_sameProblem (b : Algebraic N K V) (solver : ScriptedSolver N) :
    b.SameProblem (b.solve solver).1 := by
  have prepared := b.prepare_sameProblem
  unfold solve
  simp only
  split
  · exact prepared
  · exact prepared
  · split
    · exact prepared
    · exact prepared.trans (b.prepare.accept_sameProblem _)

end

end Algebraic

namespace Backend

/-- Another solution, of the same problem under the same settings. -/
def SameProblem : Backend N K V → Backend N K V → Prop
  | inMemory b, inMemory c => b.SameProblem c
  | algebraic b, algebraic c => b.SameProblem c
  | _, _ => False

theorem SameProblem.refl (b : Backend N K V) : b.SameProblem b := by
  cases b with
  | inMemory b => exact ⟨rfl, rfl⟩
  | algebraic b => exact ⟨rfl, rfl⟩

theorem SameProblem.trans {b c d : Backend N K V} (h : b.SameProblem c) (h' : c.SameProblem d) :
    b.SameProblem d := by
  cases b <;> cases c <;> cases d <;> first | exact h.elim | exact h'.elim | skip
  · exact ⟨h'.problem.trans h.problem, h'.settings.trans h.settings⟩
  · exact Algebraic.SameProblem.trans h h'

section

variable [Zero K] [Add K] [Sub K] [Neg K] [Div K] [LT K] [DecidableLT K] [TextNumber K]
variable [Numeral N K] [CheckedArithmetic N K V]

theorem solve_sameProblem (b : Backend N K V) (solver : ScriptedSolver N) :
    b.SameProblem (b.solve solver).1 := by
  cases b with
  | inMemory b => exact b.solve_sameProblem
  | algebraic b => exact b.solve_sameProblem solver

end

/-! ## Capabilities -/

/-- What a backend takes as an objective depends on its settings alone. -/
theorem SameProblem.acceptsObjective_eq {b c : Backend N K V} (h : b.SameProblem c)
    (f : Function K) : c.acceptsObjective f = b.acceptsObjective f := by
  cases b <;> cases c <;> first | exact h.elim | skip
  · rename_i b c
    have settings : c.settings = b.settings := h.settings
    cases f <;> simp [acceptsObjective, supportsNonlinear, supportsObjective,
      InMemory.supportsObjective, settings]
  · cases f <;> rfl

end Backend

/-! ## Objectives -/

namespace Algebraic

section

variable [CheckedArithmetic N K V] {p q : Problem N V}

theorem Problem.variableNode_congr (same : p.vars.length = q.vars.length) :
    p.variableNode = q.variableNode := by
  funext v
  rw [variableNode, variableNode, same]

mutual

/-- Of the variables a node needs no more than how many there are. -/
theorem Problem.node_congr (same : p.vars.length = q.vars.length) :
    ∀ f : Function K, p.node f = q.node f
  | .number _ => rfl
  | .var v => congrFun (variableNode_congr same) v
  | .affine f => by
    simp only [node, termsNode, variableNode_congr same]
  | .quadratic f => by
    simp only [node, pairsNode, termsNode, variableNode_congr same]
  | .nonlinear head args => by
    simp only [node, nodes_congr same args]
  | .vars _ => rfl
  | .rows _ => rfl

theorem Problem.nodes_congr (same : p.vars.length = q.vars.length) :
    ∀ fs : List (Function K), p.nodes fs = q.nodes fs
  | [] => rfl
  | f :: fs => by
    simp only [nodes, node_congr same f, nodes_congr same fs]

end

end

end Algebraic

namespace Backend

section

variable [CheckedArithmetic N K V]

/-- The objective that a backend holds is the given one. -/
def HoldsObjective (b : Backend N K V) (sense : Sense) (f : Function K) : Prop :=
  match b with
  | inMemory b => b.problem.sense = sense ∧ b.problem.objective = f
  | algebraic b => b.problem.maximizes = (sense == .maximize) ∧
      ∃ node, b.problem.node f = .ok node ∧ b.problem.objective = some node

theorem SameProblem.holdsObjective {b c : Backend N K V} (h : b.SameProblem c) {sense : Sense}
    {f : Function K} (holds : b.HoldsObjective sense f) : c.HoldsObjective sense f := by
  cases b <;> cases c <;> first | exact h.elim | skip
  · rename_i b c
    have problem : c.problem = b.problem := h.problem
    rw [HoldsObjective, problem]
    exact holds
  · rename_i b c
    obtain ⟨direction, node, built, kept⟩ := holds
    have problem : c.problem.erased = b.problem.erased := h.problem
    have count : c.problem.vars.length = b.problem.vars.length := by
      simpa [Algebraic.Problem.erased] using congrArg (fun p => p.vars.length) problem
    have maximizes := congrArg (fun p => p.maximizes) problem
    have objective := congrArg (fun p => p.objective) problem
    exact ⟨maximizes.trans direction, node, (Algebraic.Problem.node_congr count f).trans built,
      objective.trans kept⟩

theorem setObjective_ok {b c : Backend N K V} {sense : Sense} {f : Function K}
    (h : b.setObjective sense f = (c, .ok ())) :
    c.HoldsObjective sense f ∧ ∀ g, c.acceptsObjective g = b.acceptsObjective g := by
  cases b with
  | inMemory b =>
    cases h
    exact ⟨⟨rfl, rfl⟩, fun _ => rfl⟩
  | algebraic b =>
    have set : b.setObjective sense f = ((b.setObjective sense f).1, .ok ()) := by
      have result := congrArg Prod.snd h
      exact Prod.ext rfl result
    have left : c = algebraic (b.setObjective sense f).1 := (congrArg Prod.fst h).symm
    subst left
    refine ⟨?_, fun g => by cases g <;> rfl⟩
    unfold Algebraic.setObjective at set ⊢
    cases built : b.problem.node f with
    | error e =>
      rw [built] at set
      cases congrArg Prod.snd set
    | ok node =>
      simp only [built] at set ⊢
      split at set
      next => cases congrArg Prod.snd set
      next real =>
        rw [if_neg real]
        refine ⟨rfl, node, ?_, rfl⟩
        rw [← built]
        -- setting the objective leaves the variables, all that a node is built from
        apply Algebraic.Problem.node_congr
        rfl

/-- A completed load says whether the backend takes the objective, and if so, has left it there. -/
theorem load_ok [Zero K] [Add K] [BEq K] [Numeral N K] [LT K] [DecidableLT K] {b c : Backend N K V}
    {r : Representation N K} {loaded : Loaded} (h : b.load r = (c, .ok loaded)) :
    loaded.hasObjective = c.acceptsObjective r.objective ∧ (loaded.hasObjective = true →
      c.HoldsObjective r.sense (r.objective.mapVariables (Handles.number loaded.handles.vars))) := by
  unfold load at h
  simp only at h
  split at h
  · cases congrArg Prod.snd h
  next d constraints _ =>
    unfold offerObjective at h
    split at h
    next taken =>
      -- the objective is written, which may still fail
      generalize written : d.setObjective r.sense (r.objective.mapVariables
        (Handles.number (b.addVariables r.variableNames).1)) = result at h
      obtain ⟨e, _ | u⟩ := result
      · cases congrArg Prod.snd h
      · cases h
        obtain ⟨holds, accepts⟩ := setObjective_ok written
        exact ⟨((accepts _).trans taken).symm, fun _ => holds⟩
    next refused =>
      cases h
      exact ⟨(Bool.eq_false_iff.2 refused).symm, fun none => nomatch none⟩

end

end Backend

end MathProg
