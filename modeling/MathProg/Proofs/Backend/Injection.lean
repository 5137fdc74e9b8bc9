import Mathlib
import MathProg.Backend.InMemory
import MathProg.Proofs.Fallible

/-!
# Injected solution data

An in-memory backend reports what was injected last under the same key, whatever else was injected
around it. An injection that is refused leaves no trace.
-/

namespace MathProg

variable {N K : Type}

/-! ## What injections tell -/

namespace Injection

/-- What the last of some injections tells, of those that tell anything. -/
def last {α : Type} (tells : Injection N → Option α) : List (Injection N) → Option α
  | [] => none
  | i :: is => (last tells is).or (tells i)

theorem last_append {α : Type} (tells : Injection N → Option α) (is js : List (Injection N)) :
    last tells (is ++ js) = (last tells js).or (last tells is) := by
  induction is with
  | nil => exact (Option.or_none ..).symm
  | cons i is ih => rw [List.cons_append, last, ih, last, Option.or_assoc]

/-- The number of results that an injection sets. -/
def count? : Injection N → Option Int
  | resultCount count => some count
  | _ => none

/-- The primal status of a result that an injection sets. -/
def primalStatus? (result : Int) : Injection N → Option ResultStatus
  | primalStatus name r => if r = result then ResultStatus.ofName? name else none
  | _ => none

def dualStatus? (result : Int) : Injection N → Option ResultStatus
  | dualStatus name r => if r = result then ResultStatus.ofName? name else none
  | _ => none

variable [Numeral N K]

/-- The value of a variable in a result that an injection sets. -/
def primal? (v result : Int) : Injection N → Option K
  | primal v' value r =>
    if (r, v') = (result, v) then (Numeral.toCoefficient value).toOption else none
  | _ => none

/-- The dual of a constraint in a result that an injection sets. -/
def dual? (handle : ConstraintHandle) (result : Int) : Injection N → Option (DualValue N K)
  | dual handle' value r =>
    if (r, handle') = (result, handle) then (InMemory.dualValue value).toOption else none
  | _ => none

end Injection

namespace InMemory

variable [Numeral N K]

/-! ## One injection -/

/-- The backend after an injection, whether it is taken or refused. -/
def injected (b : InMemory N K) (i : Injection N) : InMemory N K :=
  match b.inject i with
  | .ok c => c
  | .error _ => b

/-- The backend after some injections. -/
def injectedAll (b : InMemory N K) (is : List (Injection N)) : InMemory N K :=
  is.foldl injected b

/-- What an injection does to the solution when it is taken. -/
def Takes (b : InMemory N K) (s : Solution N K) : Injection N → Prop
  | .termination name =>
    ∃ status, TerminationStatus.ofName? name = some status ∧
      s = { b.solution with termination := status }
  | .raw text => s = { b.solution with raw := text }
  | .resultCount count => s = { b.solution with resultCount := count }
  | .primalStatus name r =>
    ∃ status, ResultStatus.ofName? name = some status ∧
      s = { b.solution with primalStatus := (r, status) :: b.solution.primalStatus }
  | .dualStatus name r =>
    ∃ status, ResultStatus.ofName? name = some status ∧
      s = { b.solution with dualStatus := (r, status) :: b.solution.dualStatus }
  | .objectiveValue n r =>
    ∃ x, Numeral.toCoefficient n = .ok x ∧
      s = { b.solution with objectiveValue := (r, x) :: b.solution.objectiveValue }
  | .dualObjectiveValue n r =>
    ∃ x, Numeral.toCoefficient n = .ok x ∧
      s = { b.solution with dualObjectiveValue := (r, x) :: b.solution.dualObjectiveValue }
  | .statistic name n =>
    ∃ statistic, Statistic.ofName? name = some statistic ∧
      s = { b.solution with statistics := (statistic, n) :: b.solution.statistics }
  | .primal v n r =>
    ∃ x, Numeral.toCoefficient n = .ok x ∧
      s = { b.solution with primal := ((r, v), x) :: b.solution.primal }
  | .dual handle value r =>
    b.holds handle ∧ ∃ x, dualValue value = .ok x ∧
      s = { b.solution with dual := ((r, handle), x) :: b.solution.dual }
  | .failure _ => False

theorem coefficient_eq_ok {n : N} {x : K} :
    coefficient n = .ok x ↔ Numeral.toCoefficient n = .ok x :=
  Fallible.mapError_eq_ok

theorem resultStatus_eq_ok {name : String} {status : ResultStatus} :
    resultStatus name = .ok status ↔ ResultStatus.ofName? name = some status := by
  unfold resultStatus
  cases ResultStatus.ofName? name <;> simp

/-- An injection is taken if and only if it can be, and then changes the solution alone. -/
theorem inject_eq_ok {b c : InMemory N K} {i : Injection N} :
    b.inject i = .ok c ↔ ∃ s, b.Takes s i ∧ { b with solution := s } = c := by
  cases i with
  | termination name =>
    simp only [inject, Takes]
    cases TerminationStatus.ofName? name <;> simp [Fallible.pure_eq_ok]
  | statistic name n =>
    simp only [inject, Takes]
    cases Statistic.ofName? name <;> simp [Fallible.pure_eq_ok]
  | dual handle value r =>
    simp only [inject, Takes]
    cases b.holds handle <;> simp [Fallible.map_eq_ok]
  | failure text => simp [inject, Takes]
  | raw text => simp [inject, Takes, Fallible.pure_eq_ok]
  | resultCount count => simp [inject, Takes, Fallible.pure_eq_ok]
  | primalStatus name r =>
    simp [inject, Takes, Fallible.map_eq_ok, resultStatus_eq_ok]
  | dualStatus name r =>
    simp [inject, Takes, Fallible.map_eq_ok, resultStatus_eq_ok]
  | objectiveValue n r =>
    simp [inject, Takes, Fallible.map_eq_ok, coefficient_eq_ok]
  | dualObjectiveValue n r =>
    simp [inject, Takes, Fallible.map_eq_ok, coefficient_eq_ok]
  | primal v n r =>
    simp [inject, Takes, Fallible.map_eq_ok, coefficient_eq_ok]

theorem inject_solution {b : InMemory N K} {i : Injection N} {s : Solution N K} (h : b.Takes s i) :
    b.injected i = { b with solution := s } := by
  rw [injected, inject_eq_ok.2 ⟨s, h, rfl⟩]

/-! ## What stands after injections -/

/-- What is looked up in a solution is what injections tell. -/
structure Follows {α : Type} (p : Problem N K) (tells : Injection N → Option α)
    (look : Solution N K → Option α) : Prop where
  taken : ∀ {b : InMemory N K} {i : Injection N} {s : Solution N K}, b.problem = p → b.Takes s i →
    look s = (tells i).or (look b.solution)
  refused : ∀ {b : InMemory N K} {i : Injection N}, b.problem = p → (∀ s, ¬ b.Takes s i) →
    tells i = none

theorem injected_problem (b : InMemory N K) (i : Injection N) :
    (b.injected i).problem = b.problem ∧ (b.injected i).settings = b.settings := by
  unfold injected
  cases h : b.inject i with
  | error e => exact ⟨rfl, rfl⟩
  | ok c =>
    obtain ⟨s, -, rfl⟩ := inject_eq_ok.1 h
    exact ⟨rfl, rfl⟩

theorem injectedAll_problem (b : InMemory N K) (is : List (Injection N)) :
    (b.injectedAll is).problem = b.problem ∧ (b.injectedAll is).settings = b.settings := by
  induction is generalizing b with
  | nil => exact ⟨rfl, rfl⟩
  | cons i is ih =>
    obtain ⟨problem, settings⟩ := b.injected_problem i
    exact ⟨(ih _).1.trans problem, (ih _).2.trans settings⟩

variable {α : Type} {p : Problem N K} {tells : Injection N → Option α}
variable {look : Solution N K → Option α}

/-- One injection: it is looked up if it tells anything, or else nothing has changed. -/
theorem Follows.injected (h : Follows p tells look) {b : InMemory N K} (same : b.problem = p)
    (i : Injection N) : look (b.injected i).solution = (tells i).or (look b.solution) := by
  by_cases taken : ∃ s, b.Takes s i
  · obtain ⟨s, hs⟩ := taken
    rw [inject_solution hs]
    exact h.taken same hs
  · have refused : ∀ s, ¬ b.Takes s i := not_exists.1 taken
    have unchanged : b.injected i = b := by
      unfold InMemory.injected
      cases result : b.inject i with
      | error e => rfl
      | ok c =>
        obtain ⟨s, hs, -⟩ := inject_eq_ok.1 result
        exact absurd hs (refused s)
    rw [unchanged, h.refused same refused, Option.none_or]

/-- A run of injections: the last one that tells anything is looked up. -/
theorem Follows.injectedAll (h : Follows p tells look) {b : InMemory N K} (same : b.problem = p)
    (is : List (Injection N)) :
    look (b.injectedAll is).solution = (Injection.last tells is).or (look b.solution) := by
  induction is generalizing b with
  | nil => rfl
  | cons i is ih =>
    calc look (b.injectedAll (i :: is)).solution
        = look ((b.injected i).injectedAll is).solution := rfl
      _ = (Injection.last tells is).or (look (b.injected i).solution) :=
        ih ((b.injected_problem i).1.trans same)
      _ = (Injection.last tells is).or ((tells i).or (look b.solution)) := by
        rw [h.injected same]
      _ = (Injection.last tells (i :: is)).or (look b.solution) := by
        rw [Injection.last, Option.or_assoc]

/-- Injections that all are taken. -/
theorem injectedAll_of_ok {b c : InMemory N K} {is : List (Injection N)}
    (h : b.injectAll is = (c, .ok ())) : b.injectedAll is = c := by
  induction is generalizing b with
  | nil =>
    cases h
    rfl
  | cons i is ih =>
    rw [injectAll] at h
    cases taken : b.inject i with
    | error e =>
      rw [taken] at h
      cases congrArg Prod.snd h
    | ok d =>
      rw [taken] at h
      change (b.injected i).injectedAll is = c
      rw [injected, taken]
      exact ih h

/-- After a solve that returns, what stands was told before it or by the settings of the backend. -/
theorem Follows.solve (h : Follows p tells look) {b c : InMemory N K} (same : b.problem = p)
    {before : List (Injection N)} (returns : (b.injectedAll before).solve = (c, .ok ())) :
    look c.solution
      = (Injection.last tells (before ++ b.settings.onSolve)).or (look b.solution) := by
  obtain ⟨problem, settings⟩ := b.injectedAll_problem before
  let counted : InMemory N K :=
    { b.injectedAll before with solveCount := (b.injectedAll before).solveCount + 1 }
  have replayed : counted.injectedAll b.settings.onSolve = c :=
    settings ▸ injectedAll_of_ok (b := counted) returns
  have counting : counted.problem = p := problem.trans same
  calc look c.solution
      = (Injection.last tells b.settings.onSolve).or (look (b.injectedAll before).solution) := by
        rw [← replayed, h.injectedAll counting]
    _ = (Injection.last tells (before ++ b.settings.onSolve)).or (look b.solution) := by
        rw [h.injectedAll same, Injection.last_append, Option.or_assoc]

/-! ## The data of results -/

end InMemory

end MathProg
