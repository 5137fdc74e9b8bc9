import MathProg.Proofs.Attachment.Reporting
import MathProg.Proofs.Attachment.Solving
import MathProg.Proofs.Expression.Built
import MathProg.Proofs.Function.Composition

/-!
# Objectives and solves

Whatever callers build is accepted, but the minus sign is accepted before any number of arguments. An
expression with a minus sign before none or more than two has no value, in itself or as a function,
and as an objective it breaks every solve that has to compute its value. All other expressions have
values everywhere, and no solve is broken by them.
-/

namespace MathProg

open Fallible

/-! ## Computed objectives -/

namespace InMemory

variable {N K : Type}

/-- Whether the value of the objective is computed from the primal values. -/
def computesObjective (b : InMemory N K) (result : Int) : Bool :=
  (b.solution.objectiveValue.lookup result).isNone && b.settings.evaluatesObjective &&
    (List.range b.problem.variableNames.length).all
      fun i => (b.variablePrimal (i + 1) result).isSome

/-- A variable of the problem has a value where the objective is computed. -/
theorem exists_variablePrimal {b : InMemory N K} {result : Int}
    (computes : b.computesObjective result) {v : Int} (low : 1 ≤ v)
    (high : v ≤ b.problem.variableNames.length) : ∃ x, b.variablePrimal v result = some x := by
  have known := (Bool.and_eq_true_iff.1 computes).2
  have stands := List.all_eq_true.1 known (v.toNat - 1) (List.mem_range.2 (by omega))
  rw [show ((v.toNat - 1 : Nat) : Int) + 1 = v by omega] at stands
  exact Option.isSome_iff_exists.1 stands

section

variable [Zero K] [Add K] [Mul K] [OperatorMeaning K] {b : InMemory N K} {result : Int}

theorem objectiveValue_of_not_computes (h : b.computesObjective result = false) :
    b.objectiveValue result = .ok (b.solution.objectiveValue.lookup result) := by
  unfold computesObjective at h
  unfold objectiveValue
  cases stands : b.solution.objectiveValue.lookup result with
  | some x => rfl
  | none =>
    rw [stands, Option.isNone_none, Bool.true_and, Bool.and_eq_false_iff] at h
    refine if_pos ?_
    rw [Bool.or_eq_true_iff, Bool.not_eq_true', Bool.not_eq_true']
    exact h

/-- What is computed is the value of the objective, which must be one number. -/
theorem objectiveValue_of_computes (h : b.computesObjective result)
    (notNumber : b.problem.objective.family ≠ .number) :
    b.objectiveValue result = (do
      match ← b.problem.objective.evaluate (b.interpretation result) with
      | .scalar x => return some x
      | _ => .error .wrongShape) := by
  obtain ⟨first, known⟩ := Bool.and_eq_true_iff.1 h
  obtain ⟨missing, evaluates⟩ := Bool.and_eq_true_iff.1 first
  unfold objectiveValue
  rw [Option.isNone_iff_eq_none.1 missing]
  simp only [known, evaluates, Bool.not_true, Bool.or_false, Bool.false_eq_true, if_false]
  split
  next c same => exact absurd (by rw [same, Function.family]) notNumber
  next => rfl

end

/-- With numbers of the problem for its variables, the value of an accepted objective comes down to
its minus signs wherever it is computed. -/
theorem settles_objectiveValue [Numeral N Float] {b : InMemory N Float} {e : Expression N Float}
    (accepted : e.IsAccepted) {f : Function Float} (translated : e.toFunction = .ok f)
    {φ : Int → Int} (held : b.problem.objective = f.mapVariables φ)
    (notNumber : b.problem.objective.family ≠ .number)
    (inside : ∀ v ∈ e.occurrences,
      1 ≤ φ v.index ∧ φ v.index ≤ b.problem.variableNames.length)
    {result : Int} (computes : b.computesObjective result) :
    Settles e.SignsFit (.operator .arity) (fun value => ∃ x, value = some x)
      (b.objectiveValue result) := by
  rw [objectiveValue_of_computes computes notNumber, held]
  have value : Settles e.SignsFit (.operator .arity) (fun y => ∃ x, Shaped.scalar x = y)
      ((f.mapVariables φ).evaluate (b.interpretation result)) := by
    refine accepted.settles_toFunction translated φ (fun _ _ => rfl) fun v hv => ?_
    obtain ⟨low, high⟩ := inside v hv
    obtain ⟨x, stands⟩ := exists_variablePrimal computes low high
    exact ⟨x, by simp only [interpretation, stands]⟩
  refine (value.bind fun y scalar => ?_).congr (by rw [and_true])
  obtain ⟨x, rfl⟩ := scalar
  exact .of_ok rfl ⟨x, rfl⟩ trivial

end InMemory

/-! ## Assignments of floats -/

/-- Expressions at an assignment. -/
def Valuation.ofAssignment (σ : VariableRef → Float) :
    Valuation (Except (ResultError Number Float)) Number Float where
  reference v := .ok (σ v)
  number n := n.toFloat.mapError .number
  operator op args := (op.applyFloat args).mapError .operator

/-- Functions at an assignment. -/
def Interpretation.ofAssignment (σ : Int → Float) :
    Interpretation (Except BackendError) Float where
  value v := .ok (σ v)
  operator head args := (Operator.applyHead head args).mapError .operator

/-- Whether an expression, and with it its function, has a value at an assignment exactly if its
minus signs fit. -/
structure Expression.SettledBySigns (e : Expression Number Float) : Prop where
  value : ∀ σ, (∃ x, e.evaluate (.ofAssignment σ) = .ok x) ↔ e.SignsFit
  function : ∃ f, e.toFunction = .ok f ∧
    ∀ σ, (∃ x, f.evaluate (.ofAssignment σ) = .ok (.scalar x)) ↔ e.SignsFit

/-- Whether the minus signs of an expression decide about the value of the objective: with any
solution data it is shown, unless it must be computed and a minus sign does not fit. -/
def InMemory.ObjectiveSettledBy (b : InMemory Number Float) (e : Expression Number Float) : Prop :=
  ∀ d, b.SameProblem d → ∀ r,
    ((∃ value, d.objectiveValue r = .ok value) ↔ (d.computesObjective r → e.SignsFit)) ∧
    (d.computesObjective r → e.SignsFit → ∃ x, d.objectiveValue r = .ok (some x))

namespace Expression

variable {e : Expression Number Float}

theorem IsAccepted.settledBySigns (accepted : e.IsAccepted) : e.SettledBySigns where
  value σ := by
    have settles := accepted.settles_evaluate (i := .ofAssignment σ)
      (fun n x fits => mapError_eq_ok.2 fits) (fun _ _ => rfl) fun v _ => ⟨σ v, rfl⟩
    exact settles.exists_ok_iff
  function := by
    obtain ⟨f, translated⟩ := accepted.exists_toFunction
    refine ⟨f, translated, fun σ => ?_⟩
    have settles := accepted.settles_toFunction translated id (i := .ofAssignment σ)
      (fun _ _ => rfl) fun v _ => ⟨σ v.index, rfl⟩
    rw [Function.mapVariables_id (isCanonical_toFunction translated)] at settles
    rw [← settles.exists_ok_iff]
    constructor
    · rintro ⟨x, value⟩
      exact ⟨_, value⟩
    · rintro ⟨y, value⟩
      obtain ⟨y, value, x, rfl⟩ := settles.value (settles.exists_ok_iff.1 ⟨y, value⟩)
      exact ⟨x, value⟩

end Expression

/-! ## Objectives of models -/

namespace Chronicle

variable {c : Chronicle Number Float Quantity} {e : Expression Number Float} {number : Nat}
  {b : InMemory Number Float}

/-- An in-memory backend that a solve is going to call holds the objective of the model, which
decides about its value. -/
theorem Sound.objectiveSettledBy (sound : c.Sound) (closed : c.world.model.Closed)
    (accepted : c.world.model.objective.toExpression.IsAccepted) (goes : c.request = .ok number)
    (stands : c.ready.world.shelf[number]? = some (.inMemory b)) :
    b.ObjectiveSettledBy c.world.model.objective.toExpression := by
  obtain ⟨-, -, taken, b', stands', isLoaded⟩ := sound.of_request goes
  obtain rfl : .inMemory b = b' := Option.some.inj (stands.symm.trans stands')
  obtain ⟨r, represented, holds⟩ := isLoaded.isBuilt
  obtain ⟨names, -, translated, -⟩ := Model.represent_eq_ok.1 represented
  have count : r.variableNames.length = c.world.model.vars.length := by
    rw [names, List.length_map]
  have held := (holds.objective taken).2
  rw [holds.vars] at held
  have tidy := (closed.tidy represented).objective
  -- the backend holds the translated objective with its variables numbered, and what the reading
  -- of its value asks carries over the numbering
  have notNumber : b.problem.objective.family ≠ .number := by
    have renames : r.objective.Renames (Handles.number (List.range' 1 r.variableNames.length))
        (· - (1 : Nat)) := tidy.renames
    rw [held, renames.family_eq]
    exact tidy.notNumber
  have inside : ∀ v ∈ c.world.model.objective.toExpression.occurrences,
      1 ≤ Handles.number (List.range' 1 r.variableNames.length) v.index ∧
        Handles.number (List.range' 1 r.variableNames.length) v.index
          ≤ b.problem.variableNames.length := by
    intro v hv
    have owned := closed.objective v hv
    simp only [Model.owns, Bool.and_eq_true, beq_iff_eq, decide_eq_true_eq] at owned
    rw [Handles.number_of_range (by omega) (by omega), holds.names]
    omega
  intro d same result
  have problem : d.problem = b.problem := same.problem
  have settles (computes : d.computesObjective result) := InMemory.settles_objectiveValue accepted
    translated (problem ▸ held) (problem ▸ notNumber) (problem ▸ inside) computes
  refine ⟨?_, fun computes fits => ?_⟩
  · cases computes : d.computesObjective result with
    | true => simpa using (settles computes).exists_ok_iff
    | false =>
      exact iff_of_true ⟨_, InMemory.objectiveValue_of_not_computes computes⟩ nofun
  · obtain ⟨_, value, x, rfl⟩ := (settles computes).value fits
    exact ⟨x, value⟩

end Chronicle

/-! ## Built objectives -/

namespace Expression

/-- In floats a built expression comes down to its minus signs: with one argument or two for each of
them it has a value at every assignment, and otherwise at none, and so has its function. A model with
such an objective always has a representation. An in-memory backend that a solve calls shows the
value of the objective unless it must compute it and a minus sign does not fit, and a call that ends
well is followed by a solve that returns, unless that happens in some result or the dual side of one
cannot be read. -/
theorem built_settled {e : Expression Number Float} (built : e.Built) :
    e.SettledBySigns ∧
    ∀ (id : Nat) (name : Option String) (shelf : List (Backend Number Float Quantity))
      (solver : ScriptedSolver Number) (spec : Option (BackendSpec Number))
      (hs : List (Happening Number Float Quantity)) (c : Chronicle Number Float Quantity),
      c = (Chronicle.start id name shelf solver spec).run hs →
      c.world.model.objective.toExpression = e →
      (∃ r, c.world.model.represent = .ok r) ∧
      ∀ number b, c.request = .ok number →
        c.ready.world.shelf[number]? = some (.inMemory b) →
        b.ObjectiveSettledBy e ∧
        ∀ d, b.solve = (d, .ok ()) →
          (((Attachment.solve c.world.model).run.run c.world.linked).1 = .ok () ↔
            ∀ r, 1 ≤ r → r ≤ d.solution.resultCount → (d.computesObjective r → e.SignsFit) ∧
              d.ReadsDuals c.ready.world.attachment.handleMap.handles r) := by
  have accepted := built.isAccepted
  refine ⟨accepted.settledBySigns, ?_⟩
  rintro id name shelf solver spec hs c reached rfl
  have closed : c.world.model.Closed := by
    rw [reached]
    exact (Chronicle.steps_run _ hs).follows.closed (Model.closed_empty id name)
  have sound : c.Sound := reached ▸ (Chronicle.sound_start id name shelf solver spec).run hs
  refine ⟨?_, fun number b goes stands => ?_⟩
  · refine Model.exists_represent_of accepted.exists_toFunction fun d hd => ?_
    refine d.function.exists_toFunction_of fun e he n hn => ?_
    rw [(closed.fitted d hd).numbers_eq_nil he] at hn
    cases hn
  · have settled := sound.objectiveSettledBy closed accepted goes stands
    refine ⟨settled, fun d solved => ?_⟩
    have same : b.SameProblem d := by
      have kept := b.solve_sameProblem
      rwa [solved] at kept
    rw [Chronicle.solve_returns_iff goes stands solved]
    simp only [(settled d same _).1]

/-- A minus sign before three arguments. -/
def threefold : Expression Number Float :=
  .nonlinear .minus [.var ⟨0, 0⟩, .var ⟨0, 0⟩, .var ⟨0, 0⟩]

/-- A backend for nonlinear objectives that finds a value of its variable by itself. -/
def findingSettings : InMemory.Settings Number :=
  { (InMemory.Settings.standard : InMemory.Settings Number) with
    supportsNonlinear := true
    onSolve := [.resultCount 1, .primalStatus "FEASIBLE_POINT" 1, .primal 1 (.real 2) 1] }

/-- One variable, and the threefold sign to be minimized. -/
def threefoldRun : Chronicle Number Float Quantity :=
  (Chronicle.start 0 none [] .standard (some (.inMemory findingSettings))).run
    [.edit (.addVariable (.named (some "x"))),
      .edit (.setNonlinearObjective (some .minimize) (.expression threefold))]

/-- What the solve is going to call. -/
def threefoldBackend : InMemory Number Float where
  settings := findingSettings
  solveCount := 0
  clearCount := 0
  problem := ⟨[some "x"], [], .minimize, .nonlinear "-" [.var 1, .var 1, .var 1], 1⟩
  solution := .empty

/-- The logarithm less one has a value everywhere, at zero as well. The threefold sign is built, but
has no value anywhere, and the solve of a model with it fails although the values are there. -/
theorem built_settled_threefold :
    (∃ e, Operand.apply .sub (.expression (.nonlinear .log [.var ⟨0, 0⟩]))
        (.expression (.number (.real 1))) = .ok (.expression e) ∧
      ∀ σ, ∃ x, e.evaluate (.ofAssignment σ) = .ok x) ∧
    threefold.Built ∧ (∀ σ, ¬ ∃ x, threefold.evaluate (.ofAssignment σ) = .ok x) ∧
    threefoldBackend.solve.1.computesObjective 1 ∧
    ((Attachment.solve threefoldRun.world.model).run.run threefoldRun.world.linked).1 ≠ .ok () := by
  let x : Expression Number Float := .var ⟨0, 0⟩
  have accepted : Operand.node "log" ([x].map .expression) = .ok (.nonlinear .log [x]) := rfl
  have log : (.nonlinear .log [x] : Expression Number Float).Built :=
    .node (fun a mem => List.mem_singleton.1 mem ▸ .var _) accepted
  have less : (node .minus (.nonlinear .log [x]) (.number (.real 1))).Built :=
    .sign (s := .sub) log (.number rfl) nofun rfl
  have accepted : Operand.node "-" ([x, x, x].map .expression) = .ok threefold := rfl
  have built : threefold.Built := by
    refine .node (fun a mem => ?_) accepted
    obtain rfl : a = x := by simpa using mem
    exact .var _
  have unfit : ¬ threefold.SignsFit := fun fits => by
    have := fits 3 (by simp [threefold, nodes])
    omega
  obtain ⟨settled, runs⟩ := built_settled built
  obtain ⟨-, called⟩ := runs 0 none [] .standard _ _ threefoldRun rfl rfl
  obtain ⟨-, returns⟩ := called 0 threefoldBackend rfl rfl
  have computes : threefoldBackend.solve.1.computesObjective 1 := rfl
  refine ⟨⟨_, rfl, fun σ => ((built_settled less).1.value σ).2 ?_⟩, built, fun σ some => ?_,
    computes, fun returned => ?_⟩
  · simp [SignsFit, node, promoted, nodes, nodesAll, x]
  · exact unfit ((settled.value σ).1 some)
  · exact unfit (((returns _ rfl).1 returned 1 (by decide) (by decide)).1 computes)

end Expression

end MathProg
