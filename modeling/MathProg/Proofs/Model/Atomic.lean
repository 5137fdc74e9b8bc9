import MathProg.Proofs.Model.Accepted
import MathProg.Proofs.Model.Fit
import MathProg.Proofs.Number.Decoding

/-!
# Calls that fail

A call that fails leaves the model as it was, with one exception: a new variable is added before its
bounds are looked at. Where one of them is too large for a float, the variable stays, with the bounds
before that one.
-/

namespace MathProg

open Model

namespace Model

/-! ## New variables -/

variable {N K : Type} [Zero K] [One K] [Add K] [Mul K] [Neg K] [BEq K] [Numeral N K]

section Bounds

variable {t u : Model N K} {v w : VariableRef} {role : BoundRole}

/-- The model with a constraint on a variable, noted under a role. -/
def withBound (v : VariableRef) (role : BoundRole) (set : ConstraintSet N) (t : Model N K) :
    Model N K :=
  recordBound v role ⟨t.id, t.constraints.length⟩
    { t with
      constraints := t.constraints ++ [⟨.scalar (.var v), set, none⟩], revision := t.revision + 1 }

omit [Zero K] [One K] [Add K] [Mul K] [Neg K] [BEq K] [Numeral N K] in
@[simp] theorem owns_withBound {set : ConstraintSet N} :
    (t.withBound v role set).owns w = t.owns w := by
  simp [withBound, recordBound, owns]

/-- What becomes of a model with an optional bound, if its number is a coefficient. -/
def withNumber (v : VariableRef) (role : BoundRole) (set : N → ConstraintSet N) (n? : Option N)
    (t : Model N K) : Except NumberError (Model N K) :=
  match n? with
  | none => .ok t
  | some n => do
    let c : K ← Numeral.toCoefficient n
    return t.withBound v role (set (Numeral.ofCoefficient c))

omit [Zero K] [One K] [Add K] [Mul K] [Neg K] [BEq K] in
theorem owns_withNumber {set : N → ConstraintSet N} {n? : Option N}
    (h : t.withNumber v role set n? = .ok u) : u.owns w = t.owns w := by
  cases n? with
  | none =>
    cases h
    rfl
  | some n =>
    obtain ⟨x, -, h⟩ := Fallible.bind_eq_ok.1 h
    cases h
    exact owns_withBound

variable (zero : ((0 : K) == 0) = true)
include zero

/-- A bound of a variable of the model is accepted. -/
theorem addBound_iff {set : ConstraintSet N} (scalar : set.kind = .scalar) (owned : t.owns v)
    {post : Except (ModelError N K) Unit → Model N K → Prop} :
    Leaves (addBound v role set) t post ↔ post (.ok ()) (t.withBound v role set) := by
  have alone : set.fit (.expression (.var v) : Operand N K) = .ok (.scalar (.var v), set) :=
    ConstraintSet.fit_of_constantPart scalar rfl zero
  have closes : t.Closes (.var v) := fun w used => by
    obtain rfl := List.mem_singleton.1 used
    exact owned
  have checked : t.checkAll [.var v] = .ok () := by simp [checkAll, check_of_closes closes]
  unfold addBound addConstraint
  simp only [Leaves.bind_iff, Leaves.ask_iff, Leaves.get_iff, Leaves.change_iff, Leaves.pure_iff,
    Leaves.modify_iff, alone, ConstraintFunction.entries, checked]
  rfl

variable {next : Edit N K VariableRef}
  {post : Except (ModelError N K) VariableRef → Model N K → Prop}

theorem addBoundIf_iff {set : N → ConstraintSet N} {n? : Option N}
    (scalar : ∀ n, (set n).kind = .scalar) (owned : t.owns v) :
    Leaves (do
      if let some n := n? then addBound v role (set (← boundValue n))
      next) t post ↔
    match t.withNumber v role set n? with
    | .ok u => Leaves next u post
    | .error e => post (.error (.number e)) t := by
  cases n? with
  | none => rfl
  | some n =>
    simp only [Leaves.bind_iff]
    unfold boundValue
    rw [Leaves.ask_iff, withNumber]
    cases (Numeral.toCoefficient n : Except NumberError K) with
    | error e => rfl
    | ok x => exact addBound_iff zero (scalar _) owned

theorem addFlag_iff {set : ConstraintSet N} {flag : Bool} (scalar : set.kind = .scalar)
    (owned : t.owns v) :
    Leaves (do
      if flag then addBound v role set
      next) t post ↔ Leaves next (if flag then t.withBound v role set else t) post := by
  cases flag with
  | false => rfl
  | true =>
    simp only [↓reduceIte, Leaves.bind_iff]
    rw [addBound_iff zero scalar owned]

end Bounds

section Variables

variable {m : Model N K} {options : VariableOptions N}

/-- The model with a variable that has nothing but a name. -/
def withVariable (name : Option String) (m : Model N K) : Model N K :=
  { m with vars := m.vars ++ [⟨name, []⟩], revision := m.revision + 1 }

/-- What becomes of a model with those bounds of a variable that are numbers, if these are
coefficients; else what became of it before the number that is none. -/
def withNumbers (v : VariableRef) (options : VariableOptions N) (t : Model N K) :
    Except (NumberError × Model N K) (Model N K) := do
  let t ← (t.withNumber v .fixed .equalTo options.fix).mapError (·, t)
  let t ← (t.withNumber v .lower .greaterThan options.lower).mapError (·, t)
  (t.withNumber v .upper .lessThan options.upper).mapError (·, t)

/-- What becomes of a model with the flags of a variable. -/
def withFlags (v : VariableRef) (options : VariableOptions N) (t : Model N K) : Model N K :=
  let t := if options.integer then t.withBound v .integer .integer else t
  if options.binary then t.withBound v .binary .zeroOne else t

/-- A variable is there before its bounds are looked at, one after the other. -/
theorem addVariable_iff (zero : ((0 : K) == 0) = true)
    {post : Except (ModelError N K) VariableRef → Model N K → Prop} :
    Leaves (addVariable options) m post ↔
    match (m.withVariable options.name).withNumbers ⟨m.id, m.vars.length⟩ options with
    | .ok t => post (.ok ⟨m.id, m.vars.length⟩) (t.withFlags ⟨m.id, m.vars.length⟩ options)
    | .error (e, t) => post (.error (.number e)) t := by
  have owned : (m.withVariable options.name).owns ⟨m.id, m.vars.length⟩ := by
    simp [owns, withVariable]
  unfold addVariable withNumbers
  rw [Leaves.bind_iff, Leaves.get_iff]
  simp only
  rw [Leaves.bind_iff, Leaves.change_iff]
  change Leaves _ (m.withVariable options.name) post ↔ _
  refine (addBoundIf_iff zero ?_ owned).trans ?_
  · exact fun _ => rfl
  -- each bound is added to what the one before it has left
  cases fixed : (m.withVariable options.name).withNumber ⟨m.id, m.vars.length⟩ .fixed .equalTo
    options.fix with
  | error e => rfl
  | ok t =>
    rw [← owns_withNumber fixed] at owned
    refine (addBoundIf_iff zero ?_ owned).trans ?_
    · exact fun _ => rfl
    dsimp only [Except.mapError, bind, Except.bind]
    cases lower : t.withNumber ⟨m.id, m.vars.length⟩ .lower .greaterThan options.lower with
    | error e => rfl
    | ok u =>
      rw [← owns_withNumber lower] at owned
      refine (addBoundIf_iff zero ?_ owned).trans ?_
      · exact fun _ => rfl
      dsimp only
      cases upper : u.withNumber ⟨m.id, m.vars.length⟩ .upper .lessThan options.upper with
      | error e => rfl
      | ok w =>
        rw [← owns_withNumber upper] at owned
        refine (addFlag_iff zero rfl owned).trans (addFlag_iff zero rfl ?_)
        split <;> simp [owned]

/-! ## Halfway -/

/-- Whether a number is given that is no coefficient. -/
def isRefused (n? : Option N) : Bool :=
  n?.any fun n => !(Numeral.toCoefficient n : Except NumberError K).isOk

/-- What has been done when a number is refused: the options before the first such number. -/
def VariableOptions.halfway (options : VariableOptions N) : Option (VariableOptions N) :=
  let bare : VariableOptions N := .named options.name
  if isRefused options.fix then some bare
  else if isRefused options.lower then some { bare with fix := options.fix }
  else if isRefused options.upper then some { bare with fix := options.fix, lower := options.lower }
  else none

section Numbers

variable {t : Model N K} {v : VariableRef} {role : BoundRole} {set : N → ConstraintSet N}
  {n? : Option N}

omit [Zero K] [One K] [Add K] [Mul K] [Neg K] [BEq K] in
theorem withNumber_of_isRefused (refused : isRefused n? = true) :
    ∃ e, t.withNumber v role set n? = .error e := by
  cases n? with
  | none => cases refused
  | some n =>
    unfold isRefused at refused
    cases h : (Numeral.toCoefficient n : Except NumberError K) with
    | error e => exact ⟨e, by rw [withNumber, h]; rfl⟩
    | ok c =>
      rw [Option.any_some, h] at refused
      cases refused

omit [Zero K] [One K] [Add K] [Mul K] [Neg K] [BEq K] in
theorem exists_withNumber (taken : isRefused n? = false) :
    ∃ u, t.withNumber v role set n? = .ok u := by
  cases n? with
  | none => exact ⟨t, rfl⟩
  | some n =>
    unfold isRefused at taken
    cases h : (Numeral.toCoefficient n : Except NumberError K) with
    | error e =>
      rw [Option.any_some, h] at taken
      cases taken
    | ok c => exact ⟨_, by rw [withNumber, h]; rfl⟩

omit [Zero K] [One K] [Add K] [Mul K] [Neg K] [BEq K] in
/-- All numbers are taken, or what was done before one was refused is what the options before it
do. -/
theorem withNumbers_halfway (options : VariableOptions N) :
    match options.halfway with
    | none => ∃ u, t.withNumbers v options = .ok u
    | some part => part.name = options.name ∧ ∃ e u, t.withNumbers v options = .error (e, u) ∧
        t.withNumbers v part = .ok u ∧ u.withFlags v part = u := by
  unfold VariableOptions.halfway withNumbers
  -- the numbers are looked at in this order, and those before a refused one are taken
  cases fix : isRefused options.fix with
  | true =>
    obtain ⟨e, failed⟩ : ∃ e, t.withNumber v .fixed .equalTo options.fix = .error e :=
      withNumber_of_isRefused fix
    exact ⟨rfl, e, t, by rw [failed]; rfl, rfl, rfl⟩
  | false =>
    obtain ⟨w, fixed⟩ : ∃ w, t.withNumber v .fixed .equalTo options.fix = .ok w :=
      exists_withNumber fix
    rw [fixed]
    cases low : isRefused options.lower with
    | true =>
      obtain ⟨e, failed⟩ : ∃ e, w.withNumber v .lower .greaterThan options.lower = .error e :=
        withNumber_of_isRefused low
      refine ⟨rfl, e, w, ?_, ?_, rfl⟩
      · simp only [Except.mapError, bind, Except.bind, failed]
      · simp only [Except.mapError, bind, Except.bind, fixed]
        rfl
    | false =>
      obtain ⟨x, lower⟩ : ∃ x, w.withNumber v .lower .greaterThan options.lower = .ok x :=
        exists_withNumber low
      cases up : isRefused options.upper with
      | true =>
        obtain ⟨e, failed⟩ : ∃ e, x.withNumber v .upper .lessThan options.upper = .error e :=
          withNumber_of_isRefused up
        refine ⟨rfl, e, x, ?_, ?_, rfl⟩
        · simp only [Except.mapError, bind, Except.bind, lower, failed]
        · simp only [Except.mapError, bind, Except.bind, fixed, lower]
          rfl
      | false =>
        obtain ⟨y, upper⟩ : ∃ y, x.withNumber v .upper .lessThan options.upper = .ok y :=
          exists_withNumber up
        refine ⟨y, ?_⟩
        simp only [Except.mapError, bind, Except.bind, lower, upper]

end Numbers

/-- A variable that is refused has been added with the options before the number in question. -/
theorem addVariable_halfway (zero : ((0 : K) == 0) = true) (options : VariableOptions N)
    (m : Model N K) :
    Leaves (addVariable options) m (fun result t =>
      match options.halfway with
      | none => result = .ok ⟨m.id, m.vars.length⟩
      | some part => (∃ e, result = .error (.number e)) ∧
          Leaves (addVariable part) m fun result' u =>
            result' = .ok ⟨m.id, m.vars.length⟩ ∧ u = t) := by
  rw [addVariable_iff zero]
  have numbers := withNumbers_halfway (t := m.withVariable options.name) (v := ⟨m.id, m.vars.length⟩)
    options
  cases halfway : options.halfway with
  | none =>
    rw [halfway] at numbers
    obtain ⟨u, taken⟩ := numbers
    rw [taken]
  | some part =>
    rw [halfway] at numbers
    obtain ⟨name, e, u, refused, before, flags⟩ := numbers
    rw [refused]
    refine ⟨⟨e, rfl⟩, (addVariable_iff zero).2 ?_⟩
    rw [name, before]
    exact ⟨rfl, flags⟩

theorem addVariable_vars (options : VariableOptions N) (m : Model N K) :
    Leaves (addVariable options : Edit N K VariableRef) m
      (fun _ t => t.vars.length = m.vars.length + 1) := by
  refine addVariable_keeps options (by simp) fun t role set count _ _ => ?_
  unfold addBound
  simp only [Leaves.bind_iff, Leaves.modify_iff]
  refine (addConstraint_spec _ set none t).mono fun result u left => ?_
  cases result with
  | error e => exact left ▸ count
  | ok c =>
    obtain ⟨f, s, -, -, -, rfl⟩ := left
    simpa [recordBound] using count

end Variables

/-! ## Other edits -/

/-- Whether an operation leaves the model as it was if it fails. -/
def IsAtomic {α : Type} (op : Edit N K α) (m : Model N K) : Prop :=
  Leaves op m fun result t => ∀ e, result = .error e → t = m

omit [Zero K] [One K] [Add K] [Mul K] [Neg K] [BEq K] [Numeral N K] in
theorem isAtomic_discard {α : Type} {op : Edit N K α} {m : Model N K} (h : IsAtomic op m) :
    IsAtomic (discard op) m := by
  refine Leaves.map_iff.2 (h.mono fun result t kept e failed => ?_)
  cases result with
  | error e => exact kept e rfl
  | ok a => cases failed

theorem addConstraint_isAtomic (function : Operand N K) (set : ConstraintSet N)
    (name : Option String) (m : Model N K) : IsAtomic (addConstraint function set name) m :=
  (addConstraint_leaves function set name m).mono fun result t left e failed => by
    subst failed
    exact left

/-- Variables with nothing but names are never refused, so only the side of a matrix is. -/
theorem addSymmetricMatrix_isAtomic (zero : ((0 : K) == 0) = true) (side : Int)
    (name : Option String) (m : Model N K) :
    IsAtomic (addSymmetricMatrix side name : Edit N K (List (List VariableRef))) m := by
  unfold IsAtomic addSymmetricMatrix
  rw [Leaves.bind_iff, Leaves.ofExcept_iff]
  split
  next =>
    rw [Leaves.bind_iff]
    refine (Leaves.mapM_ok (fun p _ t => ?_) m).mono fun result t taken => ?_
    · exact (addVariable_halfway zero (.named (entryName name p.1 p.2)) t).mono
        fun result u taken => ⟨_, taken⟩
    · obtain ⟨entries, rfl⟩ := taken
      intro e failed
      cases failed
  next => exact fun _ _ => rfl

omit [Zero K] [One K] [Add K] [Mul K] [Neg K] [BEq K] [Numeral N K] in
theorem setName_isAtomic (o : Operand N K) (name : Option String) (m : Model N K) :
    IsAtomic (setName o name) m := by
  unfold IsAtomic setName
  split
  · simp only [Leaves.bind_iff, Leaves.ask_iff, Leaves.change_iff]
    split
    next =>
      intro e failed
      cases failed
    next => exact fun _ _ => trivial
  · simp only [Leaves.bind_iff, Leaves.ask_iff, Leaves.change_iff]
    split
    next =>
      intro e failed
      cases failed
    next => exact fun _ _ => trivial

omit [Mul K] [Neg K] [BEq K] in
theorem setObjective_isAtomic (sense : Option Sense) (o : Operand N K) (m : Model N K) :
    IsAtomic (setObjective sense o) m := by
  unfold IsAtomic setObjective
  cases sense with
  | none => exact fun _ _ => rfl
  | some sense =>
    simp only [Leaves.bind_iff, Leaves.ask_iff, Leaves.change_iff]
    split
    next =>
      split
      next =>
        intro e failed
        cases failed
      next => exact fun _ _ => trivial
    next => exact fun _ _ => trivial

omit [Zero K] [One K] [Add K] [Mul K] [Neg K] [BEq K] in
theorem setNonlinearObjective_isAtomic (sense : Option Sense) (o : Operand N K) (m : Model N K) :
    IsAtomic (setNonlinearObjective sense o) m := by
  unfold IsAtomic setNonlinearObjective
  split
  next =>
    rw [Leaves.bind_iff, Leaves.ask_iff]
    split
    next =>
      cases sense with
      | none => exact fun _ _ => rfl
      | some sense =>
        intro e failed
        cases failed
    next => exact fun _ _ => rfl
  next => exact fun _ _ => rfl

end Model

/-! ## Calls -/

namespace ModelCall

variable {N K : Type} [Zero K] [One K] [Add K] [Mul K] [Neg K] [BEq K] [Numeral N K]

/-- The part of a call that is done before it is refused, if that is not nothing. -/
def halfway : ModelCall N K → Option (ModelCall N K)
  | addVariable options => options.halfway.map addVariable
  | _ => none

theorem isAtomic_edit (zero : ((0 : K) == 0) = true) (call : ModelCall N K) (m : Model N K)
    (whole : call.halfway = none) : IsAtomic call.edit m := by
  cases call with
  | addVariable options =>
    refine isAtomic_discard ((addVariable_halfway zero options m).mono ?_)
    intro result t left e failed
    rw [Option.map_eq_none_iff.1 whole] at left
    cases left.symm.trans failed
  | addSymmetricMatrix side name =>
    exact isAtomic_discard (addSymmetricMatrix_isAtomic zero side name m)
  | addConstraint function set name =>
    exact isAtomic_discard (addConstraint_isAtomic function set name m)
  | setName o name => exact setName_isAtomic o name m
  | setObjective sense o => exact setObjective_isAtomic sense o m
  | setNonlinearObjective sense o => exact setNonlinearObjective_isAtomic sense o m

/-- A call that fails leaves the model exactly as it was, unless it adds a variable and one of the
numbers that come with it is no float. Such a call does what it would do with the options before the
number in question: the variable is there, and the revision has risen. -/
theorem failing_call (call : ModelCall Number Float) (m : Model Number Float) :
    (call.halfway = none → ∀ e, (call.edit.run.run m).1 = .error e → call.after m = m) ∧
    ∀ part, call.halfway = some part →
      (∃ e, (call.edit.run.run m).1 = .error (.number e)) ∧
      (part.edit.run.run m).1 = .ok () ∧ call.after m = part.after m ∧
      m.revision < (call.after m).revision ∧
      (call.after m).vars.length = m.vars.length + 1 := by
  refine ⟨fun whole => isAtomic_edit FloatLaws.zero_beq call m whole, fun part halfway => ?_⟩
  cases call with
  | addVariable options =>
    obtain ⟨before, split, rfl⟩ := Option.map_eq_some_iff.1 halfway
    have done : Leaves (Model.addVariable options) m (fun result t =>
        (∃ e, result = .error (.number e)) ∧
        Leaves (Model.addVariable before) m (fun result' u =>
          result' = .ok ⟨m.id, m.vars.length⟩ ∧ u = t) ∧
        m.revision < t.revision ∧ t.vars.length = m.vars.length + 1) := by
      have left := Model.addVariable_halfway FloatLaws.zero_beq options m
      rw [split] at left
      exact ⟨left.1, left.2, (Model.addVariable_leaves options m).2,
        Model.addVariable_vars options m⟩
    change Leaves (ModelCall.addVariable options).edit m (fun result t =>
      (∃ e, result = .error (.number e)) ∧
      ((ModelCall.addVariable before).edit.run.run m).1 = .ok () ∧
      t = (ModelCall.addVariable before).after m ∧
      m.revision < t.revision ∧ t.vars.length = m.vars.length + 1)
    refine Leaves.map_iff.2 (done.mono fun result t left => ?_)
    obtain ⟨⟨e, rfl⟩, same, rises, count⟩ := left
    have part : Leaves (ModelCall.addVariable before).edit m (fun result' u =>
        result' = .ok () ∧ t = u) :=
      Leaves.map_iff.2 (same.mono fun result' u taken => ⟨by rw [taken.1]; rfl, taken.2.symm⟩)
    exact ⟨⟨e, rfl⟩, part.1, part.2, rises, count⟩
  | _ => cases halfway

/-- A variable with a lower bound and an upper bound that is too large. -/
def lateCall : ModelCall Number Float :=
  .addVariable ⟨some "x", none, some (.integer 1), some (.integer (10 ^ 400)), false, false⟩

/-- The upper bound is refused when the variable and its lower bound are there. -/
theorem failing_call_lateCall :
    let m : Model Number Float := .empty 0 none
    let part : ModelCall Number Float :=
      .addVariable ⟨some "x", none, some (.integer 1), none, false, false⟩
    (∃ e, (lateCall.edit.run.run m).1 = .error (.number e)) ∧ lateCall.after m = part.after m ∧
      m.revision < (lateCall.after m).revision ∧ (lateCall.after m).vars.length = 1 ∧
      (lateCall.after m).constraints.length = 1 := by
  intro m part
  have low : Model.isRefused (some (Number.integer 1)) = false := by decide +kernel
  have up : Model.isRefused (some (Number.integer (10 ^ 400))) = true := by decide +kernel
  have none : Model.isRefused (none : Option Number) = false := rfl
  have halfway : lateCall.halfway = some part := by
    simp only [lateCall, ModelCall.halfway, Model.VariableOptions.halfway, none, low, up,
      Bool.false_eq_true, if_false, if_true, Option.map_some]
    rfl
  obtain ⟨failed, -, same, rises, count⟩ := (failing_call lateCall m).2 part halfway
  refine ⟨failed, same, rises, count, ?_⟩
  rw [same]
  decide +kernel

end ModelCall

end MathProg
