import MathProg.Backend.Algebraic
import MathProg.Function.Entrywise
import MathProg.Function.Evaluation
import MathProg.Proofs.Fallible

/-!
# What has values

An operator has a value for as many arguments as it takes, and none for any other number of them.
Between numbers that stand alone it does not matter that operators work on vectors as well. A scalar
function without operators has a value as soon as all its variables have one.
-/

namespace MathProg

/-! ## Operators -/

namespace Operator

/-- Whether the operator takes a number of arguments, in floats and in an algebraic model. -/
def takes (op : Operator) (n : Nat) : Bool :=
  match op with
  | sum => true
  | product => true
  | minus => n == 1 || n == 2
  | op => op.arity? == some n

variable {op : Operator}

/-- Beside the number of arguments that an expression must give, only the minus sign wants one. -/
theorem takes_iff {n : Nat} :
    op.takes n ↔ (∀ k, op.arity? = some k → n = k) ∧ (op = minus → n = 1 ∨ n = 2) := by
  cases op with
  | sum | product | minus => simp [takes, arity?]
  | quotient | power => simpa [takes, arity?] using eq_comm
  | sin | cos | exp | log | sqrt | abs => simpa [takes, arity?] using eq_comm

theorem ofHead?_head (op : Operator) : ofHead? op.head = some op := by
  cases op <;> decide

section Numbers

variable {K : Type} [Zero K] [One K] [Add K] [Sub K] [Mul K] [Neg K] [Div K]
variable [ElementaryFunctions K] {xs : List K}

theorem exists_applyNumbers (h : op.takes xs.length) : ∃ x, op.applyNumbers xs = .ok x := by
  cases op with
  | sum | product => exact ⟨_, rfl⟩
  | minus =>
    rcases Bool.or_eq_true_iff.1 h with one | two
    · obtain ⟨x, rfl⟩ := List.length_eq_one_iff.1 (beq_iff_eq.1 one)
      exact ⟨_, rfl⟩
    · obtain ⟨x, y, rfl⟩ := List.length_eq_two.1 (beq_iff_eq.1 two)
      exact ⟨_, rfl⟩
  | quotient | power =>
    obtain ⟨x, y, rfl⟩ := List.length_eq_two.1 (Option.some.inj (beq_iff_eq.1 h)).symm
    exact ⟨_, rfl⟩
  | sin | cos | exp | log | sqrt | abs =>
    obtain ⟨x, rfl⟩ := List.length_eq_one_iff.1 (Option.some.inj (beq_iff_eq.1 h)).symm
    exact ⟨_, rfl⟩

theorem applyNumbers_of_not_takes (h : ¬ op.takes xs.length) :
    op.applyNumbers xs = .error .arity := by
  match xs with
  | [] => cases op <;> first | rfl | exact absurd rfl h
  | [x] => cases op <;> first | rfl | exact absurd rfl h
  | [x, y] => cases op <;> first | rfl | exact absurd rfl h
  | x :: y :: z :: rest => cases op <;> first | rfl | exact absurd rfl h

/-- With as many arguments as an expression must give, an operator comes down to the minus sign. -/
theorem settles_applyFloat {ε : Type} {xs : List Float} (wrap : OperatorError → ε)
    (given : ∀ n, op.arity? = some n → xs.length = n) :
    Fallible.Settles (op = minus → xs.length = 1 ∨ xs.length = 2) (wrap .arity) (fun _ => True)
      ((op.applyFloat xs).mapError wrap) where
  value sign := by
    obtain ⟨x, value⟩ := exists_applyNumbers (takes_iff.2 ⟨given, sign⟩)
    exact ⟨x, Fallible.mapError_eq_ok.2 value, trivial⟩
  refused none := by
    rw [applyFloat, applyNumbers_of_not_takes fun takes => none (takes_iff.1 takes).2]
    rfl

end Numbers

/-! ## Numbers that stand alone -/

section Scalars

variable {K : Type}

theorem scalars?_map (xs : List K) : Shaped.scalars? (xs.map .scalar) = some xs := by
  induction xs with
  | nil => rfl
  | cons x xs ih =>
    unfold Shaped.scalars? at ih ⊢
    rw [List.map_cons, List.mapM_cons, ih]
    rfl

theorem mapM_single?_map (xs : List K) : (xs.map .scalar).mapM Shaped.single? = some xs := by
  rw [Fallible.mapM_eq_some, List.forall₂_map_left_iff, List.forall₂_same]
  exact fun _ _ => rfl

theorem filterMap_length?_map (xs : List K) :
    (xs.map .scalar).filterMap Shaped.length? = [] := by
  rw [List.filterMap_eq_nil_iff]
  intro x mem
  obtain ⟨y, -, rfl⟩ := List.mem_map.1 mem
  rfl

variable [OperatorMeaning K]

/-- As many numbers as an operator wants entry by entry are no vectors to it. -/
theorem applyEntrywise_scalars (xs : List K) :
    op.applyEntrywise xs.length (xs.map .scalar) = OperatorMeaning.apply op xs := by
  have all : (xs.map Shaped.scalar).take xs.length = xs.map .scalar :=
    List.take_of_length_le (List.length_map ..).le
  have rest : (xs.map Shaped.scalar).drop xs.length = [] :=
    List.drop_of_length_le (List.length_map ..).le
  unfold applyEntrywise
  simp only [all, rest, List.length_map, Nat.lt_irrefl, if_false, filterMap_length?_map,
    mapM_single?_map]
  rfl

/-- Entry by entry, another number of numbers than the operator wants does not fit. -/
theorem applyEntrywise_of_ne {n : Nat} {xs : List K} (other : xs.length ≠ n) :
    op.applyEntrywise n (xs.map .scalar) = .error .arity := by
  unfold applyEntrywise
  simp only [List.length_take, List.length_map]
  split
  next => rfl
  next enough =>
    obtain ⟨x, rest, behind⟩ : ∃ x rest, xs.drop n = x :: rest :=
      List.exists_cons_of_length_pos (by rw [List.length_drop]; omega)
    rw [← List.map_drop, behind]
    cases rest <;> rfl

end Scalars

/-- On numbers that stand alone the head of an operator means the operator. -/
theorem applyHead_numbers {K : Type} [Zero K] [One K] [Add K] [Sub K] [Mul K] [Neg K] [Div K]
    [ElementaryFunctions K] (op : Operator) (xs : List K) :
    applyHead op.head (xs.map .scalar) = op.applyNumbers xs := by
  unfold applyHead
  rw [ofHead?_head]
  simp only [List.length_map]
  cases wanted : op.inputs? xs.length with
  | none => rw [applyOverall, scalars?_map]; rfl
  | some n =>
    by_cases fits : xs.length = n
    · subst fits
      exact applyEntrywise_scalars xs
    · refine (applyEntrywise_of_ne fits).trans (applyNumbers_of_not_takes fun takes => ?_).symm
      obtain ⟨arity, sign⟩ := takes_iff.1 takes
      cases op with
      | minus =>
        have given := Option.some.inj wanted
        rcases sign rfl with one | two
        · rw [if_pos one] at given
          exact fits (one.trans given)
        · rw [if_neg (by omega)] at given
          exact fits (two.trans given)
      | _ => exact fits (arity _ wanted)

theorem applyHead_scalars (op : Operator) (xs : List Float) :
    applyHead op.head (xs.map .scalar) = op.applyFloat xs :=
  applyHead_numbers op xs

end Operator

/-! ## Functions without operators -/

open Fallible

variable {ε K : Type} [Zero K] [Add K]

section Values

variable [Mul K] {value : Int → Except ε K}

theorem Affine.exists_evaluate {f : Affine K}
    (known : ∀ v ∈ f.terms.map Prod.fst, ∃ x, value v = .ok x) : ∃ x, f.evaluate value = .ok x := by
  refine exists_bind (exists_foldlM (fun sum t mem => ?_) 0) fun sum => ⟨_, rfl⟩
  exact exists_bind (known t.1 (List.mem_map_of_mem mem)) fun x => ⟨_, rfl⟩

theorem Quadratic.exists_evaluate {f : Quadratic K}
    (known : ∀ v ∈ (Function.quadratic f).support, ∃ x, value v = .ok x) :
    ∃ x, f.evaluate value = .ok x := by
  refine exists_bind (Affine.exists_evaluate fun v hv => known v (List.mem_append_right _ hv))
    fun linear => exists_bind (exists_foldlM (fun sum t mem => ?_) 0) fun sum => ⟨_, rfl⟩
  have inside : ∀ v ∈ [t.1.first, t.1.second], ∃ x, value v = .ok x := fun v hv =>
    known v (List.mem_append_left _ (List.mem_flatMap.2 ⟨t, mem, hv⟩))
  exact exists_bind (inside _ (by simp)) fun x => exists_bind (inside _ (by simp)) fun y => ⟨_, rfl⟩

end Values

namespace Function

variable {f : Function K}

/-- A scalar function has a value if its variables have values. -/
theorem exists_evaluate_of_scalar [Mul K] {i : Interpretation (Except ε) K}
    (scalar : f.family ∈ Algebraic.scalarFamilies)
    (known : ∀ v ∈ f.support, ∃ x, i.value v = .ok x) :
    ∃ x, f.evaluate i = .ok (.scalar x) := by
  have lift {x : Except ε K} (h : ∃ a, x = .ok a) :
      ∃ a, (do return Shaped.scalar (← x)) = Except.ok (ε := ε) (.scalar a) := by
    obtain ⟨a, rfl⟩ := h
    exact ⟨a, rfl⟩
  cases f with
  | var v => exact lift (known v (List.mem_singleton_self v))
  | affine f => exact lift (Affine.exists_evaluate known)
  | quadratic f => exact lift (Quadratic.exists_evaluate known)
  | _ => simp [family, Algebraic.scalarFamilies] at scalar

theorem evaluateAll_eq_mapM [Mul K] {m : Type → Type} [Monad m] [LawfulMonad m]
    (i : Interpretation m K) (fs : List (Function K)) :
    evaluateAll i fs = fs.mapM (·.evaluate i) := by
  induction fs with
  | nil => rw [evaluateAll, List.mapM_nil]
  | cons f fs ih => rw [evaluateAll, List.mapM_cons, ih]

variable [BEq K]

theorem family_canonicalQuadratic (pairs : List (VariablePair × K)) (terms : List (Int × K))
    (constant : K) :
    (canonicalQuadratic pairs terms constant).family ∈ Algebraic.scalarFamilies := by
  unfold canonicalQuadratic
  simp only
  split <;> simp [family, Algebraic.scalarFamilies]

theorem family_mapVariables_of_scalar (scalar : f.family ∈ Algebraic.scalarFamilies)
    (φ : Int → Int) : (f.mapVariables φ).family ∈ Algebraic.scalarFamilies := by
  cases f with
  | var v => exact scalar
  | affine f => exact scalar
  | quadratic f => exact family_canonicalQuadratic _ _ _
  | _ => simp [family, Algebraic.scalarFamilies] at scalar

end Function

end MathProg
