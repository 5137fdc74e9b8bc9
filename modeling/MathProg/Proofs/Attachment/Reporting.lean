import MathProg.Proofs.Attachment.History
import MathProg.Proofs.Backend.Injection
import MathProg.Proofs.Attachment.Collecting

/-!
# What was injected is what is reported

A solve that returns reads everything that has been injected into its backend, result by result:
statuses as they are, values and duals behind their statuses and under the references of the model.
Once read, it stays until the model or the attachment changes.
-/

namespace MathProg

/-! ## Reports -/

namespace Injection

/-- The number of results after injections; none before any. -/
def reportedCount (is : List (Injection N)) : Int :=
  max 0 ((last count? is).getD 0)

def reportedPrimalStatus (is : List (Injection N)) (result : Int) : ResultStatus :=
  (last (primalStatus? result) is).getD .noSolution

def reportedDualStatus (is : List (Injection N)) (result : Int) : ResultStatus :=
  (last (dualStatus? result) is).getD .noSolution

/-- Whether there is a result of the number. -/
def Reported (is : List (Injection N)) (result : Int) : Prop :=
  1 ≤ result ∧ result ≤ reportedCount is

end Injection

section

variable [Numeral N K] [OperatorMeaning K] [Add K] [Mul K]

end

/-! ## Data that stands in a backend -/

/-- Whether the data that was injected last stands in a backend, under the handles of an
attachment. -/
structure InMemory.Shows [Numeral N K] (b : InMemory N K) (handles : Handles)
    (is : List (Injection N)) : Prop where
  count : b.solution.resultCount = (Injection.last Injection.count? is).getD 0
  primalStatus : ∀ r, b.solution.primalStatus.lookup r
    = Injection.last (Injection.primalStatus? r) is
  dualStatus : ∀ r, b.solution.dualStatus.lookup r = Injection.last (Injection.dualStatus? r) is
  primal : ∀ v r, b.solution.primal.lookup (r, v) = Injection.last (Injection.primal? v r) is
  dual : ∀ handle ∈ handles.constraints, ∀ r,
    b.solution.dual.lookup (r, handle) = Injection.last (Injection.dual? handle r) is

/-- Whether one result that is read shows the injected data. -/
structure ResultSlot.Shows [Numeral N K] (slot : ResultSlot K) (handles : Handles)
    (is : List (Injection N)) (r : Int) : Prop where
  primalStatus : slot.primalStatus = Injection.reportedPrimalStatus is r
  dualStatus : slot.dualStatus = Injection.reportedDualStatus is r
  primal : ∀ (i v : Nat), handles.vars[i]? = some v → slot.primal.lookup i =
    if Injection.reportedPrimalStatus is r = .noSolution then Option.none
    else Injection.last (Injection.primal? v r) is
  dual : ∀ i handle, handles.constraints[i]? = some handle →
    (if Injection.reportedDualStatus is r = .noSolution then .ok Option.none
      else (Injection.last (Injection.dual? (K := K) handle r) is).mapM Results.shapedDual)
      = .ok (slot.duals.lookup i)

section

variable [Zero K] [One K] [Add K] [Sub K] [Mul K] [Neg K] [LT K] [DecidableLT K]
variable [Numeral N K] [OperatorMeaning K] [CheckedArithmetic N K V]

end

/-! ## Data that is shown -/

namespace ResultSlot.Shows

variable [Numeral N K] {slot : ResultSlot K} {a : Attachment N K} {m : Model N K}
  {is : List (Injection N)} {r : Int} {results : Results N K}

theorem noDual (shows : slot.Shows a.handleMap.handles is r)
    (synced : a.handleMap.revision = some m.revision) (found : results.slot? r = some slot)
    {c : ConstraintRef} {d : ConstraintData N K} {handle : ConstraintHandle}
    (hh : a.handle m (.constraint c) = .ok (.constraint handle))
    (stored : m.constraintData? c = some d)
    (none : Injection.reportedDualStatus is r = .noSolution ∨
      Injection.last (Injection.dual? (K := K) handle r) is = Option.none) :
    results.dual m (.constraint c) r
      = .error (.noDual c r (Injection.reportedDualStatus is r)) := by
  obtain ⟨-, handle', given, same⟩ := (Attachment.handle_constraint synced).1 hh
  obtain rfl := Handle.constraint.inj same
  have stands := shows.dual _ _ given
  have nothing : slot.duals.lookup c.index = Option.none := by
    rcases none with unknown | unset
    · rw [if_pos unknown] at stands
      exact (Except.ok.inj stands).symm
    · rw [unset] at stands
      split at stands <;> exact (Except.ok.inj stands).symm
  rw [Results.dual_constraint found stored, nothing, shows.dualStatus]
  rfl

variable [OperatorMeaning K] [Add K] [Mul K]

theorem value (shows : slot.Shows a.handleMap.handles is r)
    (synced : a.handleMap.revision = some m.revision) (found : results.slot? r = some slot)
    {v : VariableRef} {number : Nat} {x : K}
    (handle : a.handle m (.expression (.var v)) = .ok (.var number))
    (some : Injection.reportedPrimalStatus is r ≠ .noSolution)
    (last : Injection.last (Injection.primal? number r) is = Option.some x) :
    results.value m (.expression (.var v)) r = .ok (.scalar x) := by
  obtain ⟨own, number', hn, same⟩ := (Attachment.handle_var synced).1 handle
  obtain rfl := Handle.var.inj same
  have stands := shows.primal _ _ hn
  rw [if_neg some, last] at stands
  rw [Results.value_var found own, stands]
  rfl

theorem noValue (shows : slot.Shows a.handleMap.handles is r)
    (synced : a.handleMap.revision = some m.revision) (found : results.slot? r = some slot)
    {v : VariableRef} {number : Nat} (handle : a.handle m (.expression (.var v)) = .ok (.var number))
    (none : Injection.reportedPrimalStatus is r = .noSolution ∨
      Injection.last (Injection.primal? (K := K) number r) is = Option.none) :
    results.value m (.expression (.var v)) r
      = .error (.noPrimal v r (Injection.reportedPrimalStatus is r)) := by
  obtain ⟨own, number', hn, same⟩ := (Attachment.handle_var synced).1 handle
  obtain rfl := Handle.var.inj same
  have nothing : slot.primal.lookup v.index = Option.none := by
    rw [shows.primal _ _ hn]
    rcases none with unknown | unset
    · exact if_pos unknown
    · rw [unset]
      exact ite_self _
  rw [Results.value_var found own, nothing, shows.primalStatus]
  rfl

end ResultSlot.Shows

section

variable [Zero K] [One K] [Add K] [Sub K] [Mul K] [Neg K] [LT K] [DecidableLT K]
variable [Numeral N K] [OperatorMeaning K] [CheckedArithmetic N K V]

end

/-! ## Around an attachment -/

namespace Backend

variable [Numeral N K] [CheckedArithmetic N K V] [LT K] [DecidableLT K]

variable [Zero K] [Add K] [BEq K]

/-- A load does not make a backend one of the other kind. -/
theorem name_load (b : Backend N K V) (r : Representation N K) : (b.load r).1.name = b.name := by
  apply load_keeps (P := fun c => c.name = b.name) rfl
  · intro c name same
    cases c <;> exact same
  · intro c e same
    cases c <;> exact same
  · intro c sense f same
    cases c <;> exact same

end Backend

section

variable [Zero K] [One K] [Add K] [BEq K] [Numeral N K] [LT K] [DecidableLT K]
variable [CheckedArithmetic N K V]

/-- An in-memory backend that has been loaded completely is built. -/
theorem Attachment.IsLoaded.isBuilt {a : Attachment N K} {m : Model N K} {b : InMemory N K}
    (h : a.IsLoaded m (.inMemory b : Backend N K V)) : a.IsBuilt m b := by
  obtain ⟨r, blank, loaded, represented, empty, loading, same⟩ := h
  -- the backend was in-memory from the start, since its name is still that of one
  have kind := blank.name_load r
  rw [loading] at kind
  cases loaded with
  | algebraic loaded => exact same.elim
  | inMemory loaded =>
    cases blank with
    | algebraic blank => simp [Backend.name] at kind
    | inMemory blank =>
      obtain ⟨full, handles, loading', holds, -⟩ := Backend.load_inMemory (V := V) empty r
      obtain ⟨left, given⟩ := Prod.mk.inj (loading'.symm.trans loading)
      obtain rfl := Backend.inMemory.inj left
      obtain ⟨handles', hasObjective⟩ := Loaded.mk.inj (Except.ok.inj given)
      rw [handles', hasObjective] at holds
      have kept : full.SameProblem b := same
      exact ⟨r, represented, kept.holds holds⟩

namespace Chronicle

variable [Sub K] [Mul K] [Neg K] [Div K] [TextNumber K] [OperatorMeaning K]

end Chronicle

end

/-! ## Runs -/

namespace Chronicle

variable [Zero K] [One K] [Add K] [Sub K] [Mul K] [Neg K] [Div K] [BEq K] [LT K] [DecidableLT K]
variable [TextNumber K] [OperatorMeaning K] [Numeral N K] [CheckedArithmetic N K V]

/-- A solve that makes a call ends as the call does. -/
theorem solve_of_outcome {c : Chronicle N K V} {number : Nat} (goes : c.request = .ok number)
    {b : Backend N K V} (stands : c.ready.world.shelf[number]? = some b)
    {result : Except AttachmentError Unit}
    (ended : (c.ready.world.linked.outcome c.world.model b).result = result) :
    ((Attachment.solve c.world.model).run.run c.world.linked).1 = result := by
  rw [c.solve_run.2 number goes, Attachment.conclude_run stands]
  exact ended

/-- A solve whose call ends well returns if every result that is counted can be read. -/
theorem solve_returns_iff {c : Chronicle N K V} {number : Nat}
    (goes : c.request = .ok number) {b d : InMemory N K}
    (stands : c.ready.world.shelf[number]? = some (.inMemory b)) (solved : b.solve = (d, .ok ())) :
    ((Attachment.solve c.world.model).run.run c.world.linked).1 = .ok () ↔
      ∀ r, 1 ≤ r → r ≤ d.solution.resultCount → (∃ x, d.objectiveValue r = .ok x) ∧
        d.ReadsDuals c.ready.world.attachment.handleMap.handles r := by
  have called : (Backend.inMemory b : Backend N K V).solve c.ready.world.linked.workshop.solver
      = (.inMemory d, c.ready.world.linked.workshop.solver, .ok ()) := by
    rw [Backend.solve, solved]
  rw [solve_of_outcome goes stands rfl, SolveOutcome.result_outcome_eq_ok called]
  exact Results.exists_collect_iff

end Chronicle

end MathProg