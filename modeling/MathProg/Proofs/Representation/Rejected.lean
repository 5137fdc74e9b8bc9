import MathProg.ErrorReport
import MathProg.Proofs.Formula.TreeValue
import MathProg.Proofs.Representation.Run

/-!
# Rejected texts

A text that is rejected is reported with the first line that cannot be read after those before it,
except where that line has a number out of range: an integer that no float holds, or an infinite
size of a set. Such a number is reported alone, without a line.
-/

namespace MathProg

open Fallible
open Formula (Tree Polynomial FormulaError)

/-! ## Numbers out of range -/

/-- Whether an integer in the formula is beyond the finite floats. -/
def Formula.Tree.HasLargeInteger (t : Tree) : Prop :=
  ∃ n : Nat, t.Contains (.number (.integer n)) ∧ floatOfInt n = .error .tooLarge

theorem Formula.Tree.HasLargeInteger.of_contains {s t : Tree} (h : t.HasLargeInteger)
    (inside : ∀ u, t.Contains u → s.Contains u) : s.HasLargeInteger := by
  obtain ⟨n, literal, large⟩ := h
  exact ⟨n, inside _ literal, large⟩

theorem ofLiteral_eq_error {l : Literal} {e : NumberError}
    (h : TextNumber.ofLiteral (K := Float) l = .error e) :
    ∃ n : Nat, l = .integer n ∧ floatOfInt n = .error .tooLarge := by
  cases l with
  | integer n =>
    refine ⟨n, rfl, ?_⟩
    change floatOfInt n = .error e at h
    unfold floatOfInt at h ⊢
    split at h
    next => cases h
    next => rfl
  | decimal digits exponent => cases h

/-- A formula is only refused for a number if that is an integer beyond the finite floats. -/
theorem Formula.Polynomial.hasLargeInteger_of_ofTree {names : List String} : ∀ {t : Tree}
    {e : NumberError}, Polynomial.ofTree (K := Float) names t = .error (.number e) →
      t.HasLargeInteger
  | .number l, e, h => by
    rw [ofTree] at h
    split at h
    next => cases h
    next failed =>
      obtain ⟨n, rfl, large⟩ := ofLiteral_eq_error failed
      exact ⟨n, .self _, large⟩
  | .name id, e, h => by
    rcases bind_eq_error.1 h with h | ⟨v, -, h⟩
    · unfold position at h
      split at h <;> cases h
    · cases h
  | .binary op l r, e, h => by
    rcases bind_eq_error.1 h with left | ⟨p, -, h⟩
    · exact (hasLargeInteger_of_ofTree left).of_contains fun _ => .left
    · rcases bind_eq_error.1 h with right | ⟨q, -, h⟩
      · exact (hasLargeInteger_of_ofTree right).of_contains fun _ => .right
      · cases op <;> try cases h
        -- A product is the only operation on two operands that may fail by itself.
        dsimp only at h
        split at h <;> cases h
  | .unary op t, e, h => by
    rcases bind_eq_error.1 h with inner | ⟨p, -, h⟩
    · exact (hasLargeInteger_of_ofTree inner).of_contains fun _ => .operand
    · cases op <;> cases h
  | .constant, _, h | .list _, _, h | .call _ _ _, _, h | .member, _, h | .bundle _, _, h
  | .starred _, _, h | .compound, _, h => by cases h

/-- Whether a line writes a number out of range: an integer in a formula that is beyond the finite
floats, or an infinite argument of a set. -/
inductive Reader.ExceedsRange (line : List Char) : Prop where
  | integer {t : Tree} : HasFormula line t → t.HasLargeInteger → ExceedsRange line
  | size {callee argument : Tree} {arguments : List Tree} {named : List (Option String × Tree)}
      {x : Float} : HasFormula line (.call callee arguments named) →
      argument ∈ arguments ++ named.map Prod.snd → constantValue argument = .ok x →
      TextNumber.truncate x = .error .infinite → ExceedsRange line

theorem Reader.ExceedsRange.of_part {part line : List Char} (h : ExceedsRange part)
    (inside : part <:+: line) : ExceedsRange line := by
  cases h with
  | integer formula large => exact .integer (formula.of_part inside) large
  | size formula argument value infinite =>
    exact .size (formula.of_part inside) argument value infinite

/-! ## Sets -/

namespace SetCall

variable {V : Type}

/-- Every argument that a field gets is one of those given. -/
theorem mem_of_bind? {fields : List String} {positional : List V}
    {named : List (Option String × V)} {arguments : List (String × V)}
    (h : bind? fields positional named = some arguments) {a : String × V} (mem : a ∈ arguments) :
    a.2 ∈ positional ∨ a.2 ∈ named.map Prod.snd := by
  unfold bind? at h
  simp only [Option.ite_none_left_eq_some] at h
  obtain ⟨fitting, bound, h⟩ := Option.bind_eq_some_iff.1 h.2
  cases h
  rcases List.mem_append.1 mem with mem | mem
  · exact .inl (List.of_mem_zip mem).2
  · rw [List.mem_reverse] at mem
    obtain ⟨b, given, same⟩ := exists_of_mem_right (mapM_eq_some.1 bound) mem
    obtain ⟨name, -, same⟩ := Option.bind_eq_some_iff.1 same
    simp only [Option.ite_none_right_eq_some, Option.some.injEq] at same
    exact .inr (List.mem_map.2 ⟨b, given, by rw [← same.2]⟩)

end SetCall

theorem mem_of_lookup {V : Type} {key : String} {v : V} {arguments : List (String × V)}
    (h : arguments.lookup key = some v) : (key, v) ∈ arguments := by
  obtain ⟨before, after, rfl, -⟩ := List.lookup_eq_some_iff.1 h
  simp

namespace ConstraintSet

variable {s : ConstraintSet Number} {positional : List Float} {named : List (Option String × Float)}

/-- A constant can be moved into a set whose bounds are floats. -/
theorem exists_shifted_of_ofArguments? {family : SetFamily} {arguments : List (String × Number)}
    (h : family.ofArguments? arguments = some s)
    (real : family.isScalar = true → ∀ a ∈ arguments, ∃ x, a.2 = .real x) (c : Float) :
    ∃ t, s.shifted (.real c) = .ok t := by
  have moved (scalar : family.isScalar = true) {key : String} {bound : Number}
      (found : arguments.lookup key = some bound) :
      ∃ b, Numeral.sub bound (Number.real c) = .ok b := by
    obtain ⟨x, same⟩ := real scalar _ (mem_of_lookup found)
    obtain rfl : bound = .real x := same
    exact ⟨.real (x - c), rfl⟩
  cases family with
  | lessThan | greaterThan | equalTo =>
    obtain ⟨b, found, h⟩ := Option.bind_eq_some_iff.1 h
    cases h
    exact exists_bind (moved rfl found) fun _ => ⟨_, rfl⟩
  | interval =>
    obtain ⟨a, lower, h⟩ := Option.bind_eq_some_iff.1 h
    obtain ⟨b, upper, h⟩ := Option.bind_eq_some_iff.1 h
    cases h
    exact exists_bind (moved rfl lower) fun _ => exists_bind (moved rfl upper) fun _ => ⟨_, rfl⟩
  | integer | zeroOne | vector | matrix =>
    cases h
    exact ⟨_, rfl⟩

/-- An argument of a set: a float as a bound, an integer as a size. -/
def argument (family : SetFamily) (x : Float) : Except SetCallError Number :=
  if family.isScalar then .ok (.real x)
  else do return .integer (← (TextNumber.truncate x).mapError .number)

theorem argument_scalar {family : SetFamily} (scalar : family.isScalar = true) (x : Float) :
    argument family x = .ok (.real x) :=
  if_pos scalar

theorem truncate_of_argument_eq_error {family : SetFamily} {x : Float} {e : NumberError}
    (h : argument family x = .error (.number e)) : TextNumber.truncate x = .error e := by
  unfold argument at h
  split at h
  · cases h
  · rcases bind_eq_error.1 h with h | ⟨_, -, h⟩
    · obtain ⟨e', failed, same⟩ := mapError_eq_error.1 h
      cases same
      exact failed
    · cases h

/-- A constant can be moved into every set that is read. -/
theorem exists_shifted_of_ofCall {name : String} (h : ofCall name positional named = .ok s)
    (c : Float) : ∃ t, s.shifted (.real c) = .ok t := by
  unfold ofCall at h
  split at h
  next family found =>
    obtain ⟨values, read, h⟩ := bind_eq_ok.1 h
    obtain ⟨namedValues, readNamed, h⟩ := bind_eq_ok.1 h
    have real (scalar : family.isScalar = true) {x : Float} {n : Number}
        (value : argument family x = .ok n) : n = .real x :=
      (Except.ok.inj ((argument_scalar scalar x).symm.trans value)).symm
    split at h
    next set call =>
      cases h
      obtain ⟨arguments, bound, made⟩ := Option.bind_eq_some_iff.1 call
      refine exists_shifted_of_ofArguments? made (fun scalar a mem => ?_) c
      rcases SetCall.mem_of_bind? bound mem with mem | mem
      · obtain ⟨x, -, value⟩ := exists_of_mem_right (mapM_eq_ok.1 read) mem
        exact ⟨x, real scalar value⟩
      · obtain ⟨b, mem, same⟩ := List.mem_map.1 mem
        obtain ⟨⟨field, x⟩, -, pair⟩ := exists_of_mem_right (mapM_eq_ok.1 readNamed) mem
        obtain ⟨n, value, pair⟩ := bind_eq_ok.1 pair
        cases pair
        exact ⟨x, same.symm.trans (real scalar value)⟩
    next => cases h
  next => cases h

/-- A number is only refused as the argument of a set where it cannot be made a size. -/
theorem exists_of_ofCall_eq_error {name : String} {e : NumberError}
    (h : ofCall (N := Number) name positional named = .error (.number e)) :
    ∃ x ∈ positional ++ named.map Prod.snd, TextNumber.truncate x = .error e := by
  unfold ofCall at h
  split at h
  next family found =>
    rcases bind_eq_error.1 h with h | ⟨values, -, h⟩
    · obtain ⟨x, mem, failed⟩ := exists_of_mapM_eq_error h
      exact ⟨x, List.mem_append_left _ mem, truncate_of_argument_eq_error failed⟩
    · rcases bind_eq_error.1 h with h | ⟨_, -, h⟩
      · obtain ⟨⟨field, x⟩, mem, failed⟩ := exists_of_mapM_eq_error h
        rcases bind_eq_error.1 failed with failed | ⟨_, -, failed⟩
        · exact ⟨x, List.mem_append_right _ (List.mem_map_of_mem mem),
            truncate_of_argument_eq_error failed⟩
        · cases failed
      · split at h <;> cases h
  next => cases h

end ConstraintSet

theorem truncate_ne_tooLarge (x : Float) : TextNumber.truncate x ≠ .error .tooLarge := by
  intro h
  change (Number.real x).truncate = .error .tooLarge at h
  unfold Number.truncate at h
  dsimp only at h
  split at h <;> cases h

/-! ## Faults of a line -/

/-- Whether a fault is a number out of range. -/
def LineFault.isOutOfRange : LineFault → Bool
  | .formula (.number .tooLarge) => true
  | .setCall (.number .tooLarge) => true
  | .setCall (.number .infinite) => true
  | _ => false

namespace Reader

variable {names : List String} {fault : LineFault} {line : List Char}

/-! ### Formulas -/

theorem readFormula_fault (h : readFormula line = .error fault) : fault.isOutOfRange = false := by
  obtain ⟨e, -, rfl⟩ := mapError_eq_error.1 h
  rfl

theorem readPosition_fault {id : String} (h : readPosition names id = .error fault) :
    fault.isOutOfRange = false := by
  rcases bind_eq_error.1 h with h | ⟨_, -, h⟩
  · obtain ⟨e, unknown, rfl⟩ := mapError_eq_error.1 h
    unfold Formula.position at unknown
    split at unknown <;> cases unknown
    rfl
  · cases h

theorem polynomial_fault {t : Tree} (h : polynomial (K := Float) names t = .error fault)
    (out : fault.isOutOfRange = true) : t.HasLargeInteger := by
  obtain ⟨e, failed, rfl⟩ := mapError_eq_error.1 h
  cases e with
  | number e => exact Polynomial.hasLargeInteger_of_ofTree failed
  | _ => cases out

theorem scalarFunction_fault {t : Tree} (h : scalarFunction (K := Float) names t = .error fault)
    (out : fault.isOutOfRange = true) : t.HasLargeInteger := by
  unfold scalarFunction at h
  split at h
  next id =>
    rcases bind_eq_error.1 h with h | ⟨_, -, h⟩
    · rw [readPosition_fault h] at out
      cases out
    · cases h
  next =>
    rcases bind_eq_error.1 h with h | ⟨_, -, h⟩
    · exact polynomial_fault h out
    · cases h

theorem vectorFunction_fault {items : List Tree}
    (h : vectorFunction (K := Float) names items = .error fault)
    (out : fault.isOutOfRange = true) : (Tree.list items).HasLargeInteger := by
  unfold vectorFunction at h
  split at h
  next ids found =>
    rcases bind_eq_error.1 h with h | ⟨_, -, h⟩
    · obtain ⟨id, -, unknown⟩ := exists_of_mapM_eq_error h
      rw [readPosition_fault unknown] at out
      cases out
    · cases h
  next =>
    rcases bind_eq_error.1 h with h | ⟨_, -, h⟩
    · obtain ⟨t, mem, h⟩ := exists_of_mapM_eq_error h
      rcases bind_eq_error.1 h with h | ⟨p, -, h⟩
      · exact (polynomial_fault h out).of_contains fun _ => .item mem
      · split at h <;> cases h
        cases out
    · cases h

theorem constantValue_fault {t : Tree} (h : constantValue (K := Float) t = .error fault)
    (out : fault.isOutOfRange = true) : t.HasLargeInteger := by
  rcases bind_eq_error.1 h with h | ⟨_, -, h⟩
  · exact polynomial_fault h out
  · cases h

/-! ### Sets -/

theorem readSet_fault (h : readSet (N := Number) (K := Float) line = .error fault)
    (out : fault.isOutOfRange = true) : ExceedsRange line := by
  rcases bind_eq_error.1 h with h | ⟨t, formula, h⟩
  · rw [readFormula_fault h] at out
    cases out
  have written : HasFormula line t := ⟨line, List.infix_refl _, formula⟩
  split at h
  next id arguments named =>
    split at h
    next =>
      cases h
      cases out
    next =>
      rcases bind_eq_error.1 h with h | ⟨positional, values, h⟩
      · obtain ⟨t, mem, failed⟩ := exists_of_mapM_eq_error h
        exact .integer written ((constantValue_fault failed out).of_contains fun _ => .argument mem)
      rcases bind_eq_error.1 h with h | ⟨namedValues, valuesNamed, h⟩
      · obtain ⟨⟨field, t⟩, mem, h⟩ := exists_of_mapM_eq_error h
        rcases bind_eq_error.1 h with failed | ⟨_, -, h⟩
        · exact .integer written ((constantValue_fault failed out).of_contains fun _ =>
            .named (List.mem_map_of_mem mem))
        · cases h
      -- All arguments are numbers, so what is left is that one of them is no size.
      obtain ⟨e, failed, rfl⟩ := mapError_eq_error.1 h
      cases e with
      | unknownSet | badArguments => cases out
      | number e =>
        obtain ⟨x, mem, truncated⟩ := ConstraintSet.exists_of_ofCall_eq_error failed
        have infinite : TextNumber.truncate x = .error .infinite := by
          cases e with
          | infinite => exact truncated
          | tooLarge => exact absurd truncated (truncate_ne_tooLarge x)
          | notANumber => cases out
        rcases List.mem_append.1 mem with byPosition | byName
        · obtain ⟨argument, given, value⟩ := exists_of_mem_right (mapM_eq_ok.1 values) byPosition
          exact .size written (List.mem_append_left _ given) value infinite
        · obtain ⟨b, read, rfl⟩ := List.mem_map.1 byName
          obtain ⟨⟨field, argument⟩, given, pair⟩ :=
            exists_of_mem_right (mapM_eq_ok.1 valuesNamed) read
          obtain ⟨y, value, pair⟩ := bind_eq_ok.1 pair
          cases pair
          exact .size written (List.mem_append_right _ (List.mem_map_of_mem given)) value infinite
  next =>
    cases h
    cases out

theorem exists_shifted_of_readSet {s : ConstraintSet Number} (h : readSet line = .ok s)
    (c : Float) : ∃ t, s.shifted (.real c) = .ok t := by
  obtain ⟨t, -, h⟩ := bind_eq_ok.1 h
  split at h
  next =>
    split at h
    next => cases h
    next =>
      obtain ⟨positional, -, h⟩ := bind_eq_ok.1 h
      obtain ⟨named, -, h⟩ := bind_eq_ok.1 h
      exact ConstraintSet.exists_shifted_of_ofCall (mapError_eq_ok.1 h) c
  next => cases h

theorem exists_moveConstant (f : Function Float) {s : ConstraintSet Number}
    (shifted : ∀ c, ∃ t, s.shifted (.real c) = .ok t) : ∃ p, moveConstant f s = .ok p := by
  unfold moveConstant
  split
  · exact ⟨_, rfl⟩
  · obtain ⟨t, moved⟩ := shifted f.constantPart
    exact exists_bind ⟨t, mapError_eq_ok.2 moved⟩ fun _ => ⟨_, rfl⟩

theorem exists_shifted_comparisonSet (family : SetFamily) (bound c : Float) :
    ∃ t, (comparisonSet family bound : ConstraintSet Number).shifted (.real c) = .ok t := by
  unfold comparisonSet
  split <;> exact ⟨_, rfl⟩

/-! ### Lines -/

theorem readConstraint_fault
    (h : readConstraint (N := Number) (K := Float) names line = .error fault)
    (out : fault.isOutOfRange = true) : ExceedsRange line := by
  have formula {part : List Char} {t : Tree} (inside : part <:+: line)
      (read : readFormula part = .ok t) (large : t.HasLargeInteger) : ExceedsRange line :=
    .integer ⟨part, inside, read⟩ large
  have never {part : List Char} (h : readFormula part = .error fault) : ExceedsRange line := by
    rw [readFormula_fault h] at out
    cases out
  have moving {f : Function Float} {s : ConstraintSet Number} (h : moveConstant f s = .error fault)
      (shifted : ∀ c, ∃ t, s.shifted (.real c) = .ok t) : ExceedsRange line := by
    obtain ⟨p, moved⟩ := exists_moveConstant f shifted
    rw [moved] at h
    cases h
  unfold readConstraint at h
  split at h
  next left right split =>
    -- in a set: the set is read before the function
    obtain ⟨before, behind⟩ := infix_of_splitLast? split
    rcases bind_eq_error.1 h with h | ⟨s, set, h⟩
    · exact (readSet_fault h out).of_part behind
    rcases bind_eq_error.1 h with h | ⟨t, read, h⟩
    · exact never h
    split at h
    next items =>
      rcases bind_eq_error.1 h with h | ⟨f, -, h⟩
      · exact formula before read (vectorFunction_fault h out)
      rcases bind_eq_error.1 h with h | ⟨u, -, h⟩
      · obtain ⟨e, -, rfl⟩ := mapError_eq_error.1 h
        cases out
      · cases h
    next =>
      rcases bind_eq_error.1 h with h | ⟨f, -, h⟩
      · exact formula before read (scalarFunction_fault h out)
      · exact moving h (exists_shifted_of_readSet set)
  next =>
    simp only at h
    split at h
    next family left right found =>
      -- in a comparison: the bound is read before the function
      obtain ⟨before, behind⟩ := infix_of_comparison found
      rcases bind_eq_error.1 h with h | ⟨boundTree, readBound, h⟩
      · exact never h
      rcases bind_eq_error.1 h with h | ⟨bound, -, h⟩
      · exact formula behind readBound (constantValue_fault h out)
      rcases bind_eq_error.1 h with h | ⟨t, read, h⟩
      · exact never h
      rcases bind_eq_error.1 h with h | ⟨f, -, h⟩
      · exact formula before read (scalarFunction_fault h out)
      · exact moving h (exists_shifted_comparisonSet family bound)
    next =>
      cases h
      cases out

variable {state : State Number Float}

theorem readVariables_fault (h : readVariables state line = .error fault) :
    fault.isOutOfRange = false := by
  rcases bind_eq_error.1 h with h | ⟨_, -, h⟩
  · obtain ⟨⟨name, i⟩, -, h⟩ := exists_of_mapM_eq_error h
    change declaredName name i = .error fault at h
    unfold declaredName at h
    split at h
    · cases h
    · split at h
      · cases h
        rfl
      · split at h <;> cases h
        rfl
  · cases h

theorem readObjective_fault {sense : Sense} (h : readObjective state sense line = .error fault)
    (out : fault.isOutOfRange = true) : ExceedsRange line := by
  rcases bind_eq_error.1 h with h | ⟨t, read, h⟩
  · rw [readFormula_fault h] at out
    cases out
  · rcases bind_eq_error.1 h with h | ⟨_, -, h⟩
    · exact .integer ⟨line, List.infix_refl _, read⟩ (polynomial_fault h out)
    · cases h

/-- A line is only refused for a number out of range if it writes one. -/
theorem readLine_fault (h : readLine state line = .error fault)
    (out : fault.isOutOfRange = true) : ExceedsRange line := by
  unfold readLine at h
  split at h
  next => cases h
  next =>
    split at h
    next rest declaration =>
      rw [readVariables_fault h] at out
      cases out
    next =>
      split at h
      next rest found => exact (readObjective_fault h out).of_part (infix_of_afterKeyword? found)
      next =>
        split at h
        next rest found => exact (readObjective_fault h out).of_part (infix_of_afterKeyword? found)
        next =>
          rcases bind_eq_error.1 h with h | ⟨_, -, h⟩
          · exact (readConstraint_fault h out).of_part (infix_splitLabel line)
          · cases h

/-! ## Reports -/

/-- A fault is reported with its line unless it is a number out of range. -/
theorem report_eq (n : Nat) : report n fault = .atLine n fault ∧ fault.isOutOfRange = false ∨
    ∃ e, report n fault = .number e ∧ e ≠ .notANumber ∧ fault.isOutOfRange = true := by
  unfold report LineFault.isOutOfRange
  split <;> simp

/-- What a rejected text is told: the number of the line and what is wrong with it, or only that a
number is out of range. -/
theorem reported_report (labels : Labels) (n : Nat) (fault : LineFault) :
    Reported.report labels (report n fault) =
      if fault.isOutOfRange then .plain .outOfRange
      else ⟨.wrongValue, some ("line " ++ toString n ++ ": " ++ fault.message)⟩ := by
  rcases @report_eq fault n with ⟨same, inRange⟩ | ⟨e, same, number, out⟩
  · rw [same, inRange]
    rfl
  · rw [same, out]
    cases e with
    | notANumber => exact absurd rfl number
    | tooLarge | infinite => rfl

end Reader

open Reader Text in
/-- Every text is read, or it has a first line that cannot be read after those before it. The report
then starts with the number of this line, except where the line is refused for a number out of
range that it writes: the report is that of the number alone. -/
theorem read_reports (text : String) (labels : Labels) :
    (∃ state : State Number Float, readLines (lines text.toList) = .ok state ∧
      Representation.read text = .ok state.representation) ∨
    ∃ before line after, ∃ state : State Number Float, ∃ fault e,
      lines text.toList = before ++ line :: after ∧ readLines before = .ok state ∧
      readLine state (cleanLine line) = .error fault ∧
      Representation.read (N := Number) (K := Float) text = .error e ∧
      (fault.isOutOfRange = false ∧ Reported.report labels e =
          ⟨.wrongValue, some ("line " ++ toString (before.length + 1) ++ ": " ++ fault.message)⟩ ∨
        fault.isOutOfRange = true ∧ Reported.report labels e = .plain .outOfRange ∧
          ExceedsRange (cleanLine line)) := by
  cases outcome : (Representation.read text : Except ReadError (Representation Number Float)) with
  | ok r =>
    obtain ⟨state, read, rfl⟩ := read_eq_ok.1 outcome
    exact .inl ⟨state, read, rfl⟩
  | error e =>
    obtain ⟨before, line, after, state, fault, cut, read, failed, rfl⟩ := read_eq_error.1 outcome
    have told := reported_report labels (before.length + 1) fault
    refine .inr ⟨before, line, after, state, fault, _, cut, read, failed, rfl, ?_⟩
    cases out : fault.isOutOfRange with
    | false =>
      rw [out] at told
      exact .inl ⟨rfl, told⟩
    | true =>
      rw [out] at told
      exact .inr ⟨rfl, told, readLine_fault failed out⟩

section InfiniteSize

open Reader Text

theorem Reader.constantValue_number {l : Literal} {x : Float} (h : TextNumber.ofLiteral l = .ok x) :
    constantValue (.number l) = .ok x := by
  have read : polynomial [] (.number l) = .ok (Polynomial.constant x) := by
    rw [polynomial, Polynomial.ofTree, h]
    rfl
  rw [constantValue, read]
  rfl

/-- A cone of a dimension that is too large for a float. -/
def infiniteSize : String := "variables: x\nx in Zeros(.1e999)"

theorem readSet_infiniteSize : readSet (N := Number) (K := Float) "Zeros(.1e999)".toList =
    .error (.setCall (.number .infinite)) := by
  have formula : readFormula "Zeros(.1e999)".toList =
      .ok (.call (.name "Zeros") [.number (.decimal 1 998)] []) := by cbv
  have family : SetFamily.ofName? "Zeros" = some (.vector .zeros) := by decide
  have value := constantValue_number (l := .decimal 1 998) (x := Binary64.ofDecimal false 1 998) rfl
  have infinite : TextNumber.truncate (Binary64.ofDecimal false 1 998) = .error .infinite := by
    decide +kernel
  unfold readSet
  simp only [formula, family, Option.isNone_some, value, bind, Except.bind, Bool.false_eq_true,
    if_false, List.mapM_cons, List.mapM_nil]
  generalize Binary64.ofDecimal false 1 998 = x at infinite
  unfold ConstraintSet.ofCall
  rw [family]
  simp only [SetFamily.isScalar, List.mapM_cons, List.mapM_nil, infinite, bind, Except.bind, pure,
    Except.pure]
  rfl

theorem read_infiniteSize : Representation.read (N := Number) (K := Float) infiniteSize =
    .error (.number .infinite) := by
  have cut : lines infiniteSize.toList =
      ["variables: x".toList, "x in Zeros(.1e999)".toList] := by cbv
  have clean : cleanLine "variables: x".toList = "variables: x".toList := by cbv
  have clean' : cleanLine "x in Zeros(.1e999)".toList = "x in Zeros(.1e999)".toList := by cbv
  have split : splitLast? " in ".toList "x in Zeros(.1e999)".toList =
      some ("x".toList, "Zeros(.1e999)".toList) := by rfl
  have whole : splitLabel "x in Zeros(.1e999)".toList =
      (none, "x in Zeros(.1e999)".toList) := by rfl
  have noKeyword : ∀ keyword ∈ ["variables", "minobjective", "maxobjective"],
      afterKeyword? keyword "x in Zeros(.1e999)".toList = none := by decide
  let declared : State Number Float :=
    ⟨["x"], { Representation.empty with variableNames := [some "x"] }⟩
  have first : readLine .start "variables: x".toList = .ok declared := rfl
  have second : readLine declared "x in Zeros(.1e999)".toList =
      .error (.setCall (.number .infinite)) := by
    unfold readLine readConstraint
    simp only [noKeyword, List.mem_cons, true_or, or_true, whole, split, readSet_infiniteSize, bind,
      Except.bind]
    rfl
  refine read_eq_error.2 ⟨["variables: x".toList], _, [], declared, _, cut, ?_, clean' ▸ second, rfl⟩
  rw [readLines, List.foldlM_cons, clean, first]
  rfl

/-- A size that is too large is reported without its line. -/
theorem read_reports_infiniteSize :
    Representation.read (N := Number) (K := Float) infiniteSize = .error (.number .infinite) ∧
    (∀ labels, Reported.report labels (ReadError.number .infinite) = .plain .outOfRange) ∧
    ∃ before line after, lines infiniteSize.toList = before ++ line :: after ∧
      ExceedsRange (cleanLine line) := by
  refine ⟨read_infiniteSize, fun _ => rfl, ?_⟩
  let noModels : List (Model Number Float) := []
  rcases read_reports infiniteSize (Labels.ofModels noModels) with ⟨state, -, accepted⟩ |
    ⟨before, line, after, state, fault, e, cut, -, -, rejected, ⟨-, told⟩ | ⟨-, -, exceeds⟩⟩
  · rw [read_infiniteSize] at accepted
    cases accepted
  · rw [read_infiniteSize] at rejected
    cases rejected
    cases told
  · exact ⟨before, line, after, cut, exceeds⟩

end InfiniteSize

end MathProg
