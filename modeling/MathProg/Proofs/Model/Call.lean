import MathProg.Model.Edit
import MathProg.Proofs.Model.Represent

/-!
# Calls to a model

Whatever a caller asks of a model, and whether it succeeds or not, the model stays closed, keeps its
number, and either is what it was or has a larger revision.
-/

namespace MathProg

/-- What a caller can ask of a model. -/
inductive ModelCall (N K : Type) where
  | addVariable (options : Model.VariableOptions N)
  | addSymmetricMatrix (side : Int) (name : Option String)
  | addConstraint (function : Operand N K) (set : ConstraintSet N) (name : Option String)
  | setName (o : Operand N K) (name : Option String)
  | setObjective (sense : Option Sense) (o : Operand N K)
  | setNonlinearObjective (sense : Option Sense) (o : Operand N K)

/-- The family of the sets that go with a role. -/
def BoundRole.family : BoundRole → SetFamily
  | lower => .greaterThan
  | upper => .lessThan
  | fixed => .equalTo
  | integer => .integer
  | binary => .zeroOne

variable {N K : Type}

namespace Leaves

variable {α : Type} {m : Model N K}

@[simp] theorem ask_iff {f : Model N K → Except (ModelError N K) α}
    {post : Except (ModelError N K) α → Model N K → Prop} :
    Leaves (Edit.ask f) m post ↔ post (f m) m := by
  unfold Edit.ask
  rw [bind_iff, get_iff]
  simp only
  cases f m <;> rfl

@[simp] theorem ofExcept_iff {x : Except (ModelError N K) α}
    {post : Except (ModelError N K) α → Model N K → Prop} :
    Leaves (ExceptT.mk (pure x)) m post ↔ post x m :=
  Iff.rfl

@[simp] theorem change_iff {f : Model N K → Model N K}
    {post : Except (ModelError N K) Unit → Model N K → Prop} :
    Leaves (Edit.change f) m post ↔ post (.ok ()) { f m with revision := m.revision + 1 } :=
  Iff.rfl

end Leaves

namespace Model

/-- What no edit undoes: the model keeps its number and its variables, its revision does not fall,
and it stays closed. -/
structure Follows (m t : Model N K) : Prop where
  id : t.id = m.id
  revision : m.revision ≤ t.revision
  vars : m.vars.length ≤ t.vars.length
  closed : m.Closed → t.Closed

/-- What a call does: it changes nothing or raises the revision. -/
structure Steps (m t : Model N K) : Prop where
  follows : m.Follows t
  raises : t = m ∨ m.revision < t.revision

theorem Follows.refl (m : Model N K) : m.Follows m :=
  ⟨rfl, Nat.le_refl _, Nat.le_refl _, fun closed => closed⟩

theorem Follows.trans {m t u : Model N K} (h : m.Follows t) (h' : t.Follows u) : m.Follows u :=
  ⟨h'.id.trans h.id, Nat.le_trans h.revision h'.revision, Nat.le_trans h.vars h'.vars,
    fun closed => h'.closed (h.closed closed)⟩

theorem Steps.refl (m : Model N K) : m.Steps m :=
  ⟨.refl m, .inl rfl⟩

theorem Steps.trans {m t u : Model N K} (h : m.Steps t) (h' : t.Steps u) : m.Steps u := by
  refine ⟨h.follows.trans h'.follows, ?_⟩
  have up := h.follows.revision
  have up' := h'.follows.revision
  rcases h'.raises with rfl | later'
  · exact h.raises
  · exact .inr (by omega)

/-- A step that is known to raise the revision, followed by others. -/
theorem Follows.steps {m t : Model N K} (h : m.Follows t) (later : m.revision < t.revision) :
    m.Steps t :=
  ⟨h, .inr later⟩

/-! ## Owned variables -/

theorem owns_mono {m t : Model N K} (id : t.id = m.id) (vars : m.vars.length ≤ t.vars.length)
    {v : VariableRef} (h : m.owns v) : t.owns v := by
  simp only [owns, Bool.and_eq_true, beq_iff_eq, decide_eq_true_eq] at h ⊢
  exact ⟨h.1.trans id.symm, by omega⟩

theorem Closes.mono {m t : Model N K} (id : t.id = m.id) (vars : m.vars.length ≤ t.vars.length)
    {e : Expression N K} (h : m.Closes e) : t.Closes e :=
  fun v hv => owns_mono id vars (h v hv)

/-- More variables leave a model closed. -/
theorem Closed.withVars {m : Model N K} (closed : m.Closed) {t : Model N K} (id : t.id = m.id)
    (vars : m.vars.length ≤ t.vars.length) (objective : t.objective = m.objective)
    (constraints : t.constraints.map (·.function) = m.constraints.map (·.function)) :
    t.Closed := by
  have origin : ∀ d ∈ t.constraints, ∃ d' ∈ m.constraints, d'.function = d.function := by
    intro d hd
    refine List.mem_map.1 ?_
    rw [← constraints]
    exact List.mem_map_of_mem hd
  refine ⟨?_, fun d hd e he => ?_, fun d hd => ?_⟩
  · rw [objective]
    exact closed.objective.mono id vars
  · obtain ⟨d', hd', same⟩ := origin d hd
    exact (closed.constraints d' hd' e (same ▸ he)).mono id vars
  · obtain ⟨d', hd', same⟩ := origin d hd
    exact same ▸ closed.fitted d' hd'

theorem closes_of_check {m : Model N K} {e : Expression N K} (h : m.checkExpression e = .ok ()) :
    m.Closes e := by
  intro v hv
  unfold checkExpression at h
  split at h
  next => cases h
  next none =>
    have all := List.find?_eq_none.1 none v (List.mem_eraseDups.2 hv)
    simpa using all

theorem closes_of_checkAll {m : Model N K} {es : List (Expression N K)}
    (h : m.checkAll es = .ok ()) : ∀ e ∈ es, m.Closes e := by
  unfold checkAll at h
  induction es with
  | nil => simp
  | cons e es ih =>
    simp only [List.forM_eq_forM, List.forM_cons] at h ih
    obtain ⟨⟨⟩, first, rest⟩ := Fallible.bind_eq_ok.1 h
    intro d hd
    rcases List.mem_cons.1 hd with rfl | hd
    · exact closes_of_check first
    · exact ih rest d hd

/-! ## Edits -/

theorem recordBound_follows (v : VariableRef) (role : BoundRole) (c : ConstraintRef)
    (m : Model N K) : m.Follows (recordBound v role c m) where
  id := rfl
  revision := Nat.le_refl _
  vars := by simp [recordBound]
  closed closed := closed.withVars rfl (by simp [recordBound]) rfl rfl

variable [Zero K] [One K] [Add K] [Mul K] [Neg K] [BEq K] [Numeral N K]

/-- What a constraint that is accepted adds to a model; one that is refused changes nothing. -/
theorem addConstraint_spec (function : Operand N K) (set : ConstraintSet N)
    (name : Option String) (m : Model N K) :
    Leaves (addConstraint function set name) m (fun result t =>
      match result with
      | .ok c => ∃ f s, set.fit function = .ok (f, s) ∧ (∀ e ∈ f.entries, m.Closes e) ∧
          c = ⟨m.id, m.constraints.length⟩ ∧
          t = { m with
            constraints := m.constraints ++ [⟨f, s, name⟩], revision := m.revision + 1 }
      | .error _ => t = m) := by
  unfold addConstraint
  simp only [Leaves.bind_iff, Leaves.ask_iff, Leaves.get_iff, Leaves.change_iff, Leaves.pure_iff]
  cases fitted : set.fit function with
  | error e => trivial
  | ok stored =>
    simp only
    cases checked : m.checkAll stored.1.entries with
    | error e => trivial
    | ok u => exact ⟨stored.1, stored.2, rfl, closes_of_checkAll checked, trivial, rfl⟩

/-- A constraint is added with its revision, or nothing happens. -/
theorem addConstraint_leaves (function : Operand N K) (set : ConstraintSet N)
    (name : Option String) (m : Model N K) :
    Leaves (addConstraint function set name) m (fun result t =>
      match result with
      | .ok _ => m.Follows t ∧ m.revision < t.revision
      | .error _ => t = m) := by
  refine (addConstraint_spec function set name m).mono fun result t left => ?_
  cases result with
  | error e => exact left
  | ok c =>
    obtain ⟨f, s, fitted, closes, -, rfl⟩ := left
    refine ⟨⟨rfl, by simp, Nat.le_refl _, fun closed => ⟨closed.objective, ?_, ?_⟩⟩, by simp⟩
    · intro d hd e he
      rcases List.mem_append.1 hd with hd | hd
      · exact closed.constraints d hd e he
      · obtain rfl := List.mem_singleton.1 hd
        exact closes e he
    · intro d hd
      rcases List.mem_append.1 hd with hd | hd
      · exact closed.fitted d hd
      · obtain rfl := List.mem_singleton.1 hd
        exact ConstraintSet.isFitted_fit fitted

theorem addBound_leaves (v : VariableRef) (role : BoundRole) (set : ConstraintSet N)
    (m : Model N K) : Leaves (addBound v role set) m (fun _ t => m.Follows t) := by
  unfold addBound
  simp only [Leaves.bind_iff, Leaves.modify_iff]
  refine (addConstraint_leaves _ set none m).mono fun result t h => ?_
  cases result with
  | error e => exact h ▸ .refl m
  | ok c => exact h.1.trans (recordBound_follows v role c t)

section Variables

variable {P : Model N K → Prop} {v : VariableRef} {role : BoundRole}
  {next : Edit N K VariableRef} {m : Model N K}

/-- An optional bound of a new variable keeps what every bound keeps. -/
private theorem addBoundIf_keeps {n? : Option N} {set : N → ConstraintSet N}
    (bound : ∀ value, Leaves (addBound v role (set value)) m (fun _ t => P t))
    (rest : ∀ t, P t → Leaves next t (fun _ u => P u)) (holds : P m) :
    Leaves (do
      if let some n := n? then addBound v role (set (← boundValue n))
      next) m (fun _ t => P t) := by
  cases n? with
  | none => exact rest m holds
  | some n =>
    simp only [Leaves.bind_iff]
    unfold boundValue
    rw [Leaves.ask_iff]
    split
    next value _ =>
      refine (bound value).mono fun result t h => ?_
      cases result with
      | error e => exact h
      | ok u => exact rest t h
    next => exact holds

/-- A flag of a new variable adds a bound like a number does. -/
private theorem addFlag_keeps {flag : Bool} {set : ConstraintSet N}
    (bound : Leaves (addBound v role set) m (fun _ t => P t))
    (rest : ∀ t, P t → Leaves next t (fun _ u => P u)) (holds : P m) :
    Leaves (do
      if flag then addBound v role set
      next) m (fun _ t => P t) := by
  cases flag with
  | false => exact rest m holds
  | true =>
    simp only [↓reduceIte, Leaves.bind_iff]
    refine bound.mono fun result t h => ?_
    cases result with
    | error e => exact h
    | ok u => exact rest t h

/-- What holds once the variable is there, and what each of its bounds keeps, holds after a variable
has been added, also where one of the bounds is refused. -/
theorem addVariable_keeps (options : VariableOptions N)
    (start : P { m with vars := m.vars ++ [⟨options.name, []⟩], revision := m.revision + 1 })
    (bound : ∀ (t : Model N K) (role : BoundRole) (set : ConstraintSet N), P t →
      set.kind = .scalar → set.family = role.family →
      Leaves (addBound ⟨m.id, m.vars.length⟩ role set) t (fun _ u => P u)) :
    Leaves (addVariable options : Edit N K VariableRef) m (fun _ t => P t) := by
  unfold addVariable
  rw [Leaves.bind_iff, Leaves.get_iff]
  simp only
  rw [Leaves.bind_iff, Leaves.change_iff]
  simp only
  refine addBoundIf_keeps (fun _ => bound _ _ _ start rfl rfl) (fun t ht => ?_) start
  refine addBoundIf_keeps (fun _ => bound _ _ _ ht rfl rfl) (fun t ht => ?_) ht
  refine addBoundIf_keeps (fun _ => bound _ _ _ ht rfl rfl) (fun t ht => ?_) ht
  refine addFlag_keeps (bound _ _ _ ht rfl rfl) (fun t ht => ?_) ht
  refine addFlag_keeps (bound _ _ _ ht rfl rfl) (fun t ht => ?_) ht
  exact ht

end Variables

theorem addVariable_leaves (options : VariableOptions N) (m : Model N K) :
    Leaves (addVariable options : Edit N K VariableRef) m
      (fun _ t => m.Follows t ∧ m.revision < t.revision) := by
  refine addVariable_keeps options ⟨?_, by simp⟩ fun t role set held _ _ => ?_
  · exact ⟨rfl, by simp, by simp, fun closed => closed.withVars rfl (by simp) rfl rfl⟩
  · refine (addBound_leaves _ role set t).mono fun _ u h => ?_
    exact ⟨held.1.trans h, Nat.lt_of_lt_of_le held.2 h.revision⟩

theorem addSymmetricMatrix_leaves (side : Int) (name : Option String) (m : Model N K) :
    Leaves (addSymmetricMatrix side name : Edit N K (List (List VariableRef))) m
      (fun _ t => m.Steps t) := by
  unfold addSymmetricMatrix
  rw [Leaves.bind_iff, Leaves.ofExcept_iff]
  split
  next =>
    rw [Leaves.bind_iff]
    refine (Leaves.mapM Steps.refl (fun _ _ _ => Steps.trans) (fun _ _ t => ?_) m).mono
      fun result t h => ?_
    · exact (addVariable_leaves _ t).mono fun _ _ h => h.1.steps h.2
    · cases result with
      | error e => exact h
      | ok entries => exact h
  next => exact .refl m

omit [Zero K] [One K] [Add K] [Mul K] [Neg K] [BEq K] [Numeral N K] in
theorem setName_leaves (o : Operand N K) (name : Option String) (m : Model N K) :
    Leaves (setName o name) m (fun _ t => m.Steps t) := by
  unfold setName
  split
  · simp only [Leaves.bind_iff, Leaves.ask_iff, Leaves.change_iff]
    split
    · refine Follows.steps ⟨rfl, by simp, by simp, fun closed => ?_⟩ (by simp)
      exact closed.withVars rfl (by simp) rfl rfl
    · exact .refl m
  · simp only [Leaves.bind_iff, Leaves.ask_iff, Leaves.change_iff]
    split
    next c _ =>
      refine Follows.steps ⟨rfl, by simp, by simp, fun closed => ?_⟩ (by simp)
      refine closed.withVars rfl (by simp) rfl ?_
      exact List.ext_getElem (by simp) fun i _ _ => by
        simp only [List.getElem_map, List.getElem_modify]
        split <;> rfl
    · exact .refl m

omit [Zero K] [One K] [Add K] [Mul K] [Neg K] [BEq K] [Numeral N K] in
private theorem withObjective_steps {m : Model N K} {objective : Objective N K} {sense : Sense}
    (h : m.Closes objective.toExpression) :
    m.Steps { m with sense, objective, revision := m.revision + 1 } :=
  Follows.steps ⟨rfl, by simp, by simp, fun closed => ⟨h, closed.constraints, closed.fitted⟩⟩ (by simp)

omit [Mul K] [Neg K] [BEq K] in
theorem setObjective_leaves (sense : Option Sense) (o : Operand N K) (m : Model N K) :
    Leaves (setObjective sense o) m (fun _ t => m.Steps t) := by
  unfold setObjective
  cases sense with
  | none => exact .refl m
  | some sense =>
    simp only [Leaves.bind_iff, Leaves.ask_iff, Leaves.change_iff]
    split
    next objective _ =>
      split
      next checked => exact withObjective_steps (closes_of_check checked)
      · exact .refl m
    · exact .refl m

omit [Zero K] [One K] [Add K] [Mul K] [Neg K] [BEq K] in
theorem setNonlinearObjective_leaves (sense : Option Sense) (o : Operand N K) (m : Model N K) :
    Leaves (setNonlinearObjective sense o) m (fun _ t => m.Steps t) := by
  unfold setNonlinearObjective
  split
  next op args =>
    rw [Leaves.bind_iff, Leaves.ask_iff]
    split
    next checked =>
      cases sense with
      | none => exact .refl m
      | some sense =>
        have closes : m.Closes (Objective.nonlinear op args).toExpression := closes_of_check checked
        exact withObjective_steps closes
    · exact .refl m
  · exact .refl m

end Model

/-! ## Calls -/

namespace ModelCall

variable [Zero K] [One K] [Add K] [Mul K] [Neg K] [BEq K] [Numeral N K]

/-- The edit that a call makes; what it would give to the caller is left out. -/
def edit : ModelCall N K → Edit N K Unit
  | addVariable options => discard (Model.addVariable options)
  | addSymmetricMatrix side name => discard (Model.addSymmetricMatrix side name)
  | addConstraint function set name => discard (Model.addConstraint function set name)
  | setName o name => Model.setName o name
  | setObjective sense o => Model.setObjective sense o
  | setNonlinearObjective sense o => Model.setNonlinearObjective sense o

/-- The model after a call, whether the call succeeds or fails. -/
def after (call : ModelCall N K) (m : Model N K) : Model N K :=
  (call.edit.run.run m).2

/-- A call keeps a model closed, and either changes nothing or raises the revision. -/
theorem steps (call : ModelCall N K) (m : Model N K) : m.Steps (call.after m) := by
  change Leaves call.edit m (fun _ t => m.Steps t)
  cases call with
  | addVariable options =>
    exact Leaves.map_iff.2
      ((Model.addVariable_leaves options m).mono fun _ _ h => h.1.steps h.2)
  | addSymmetricMatrix side name =>
    exact Leaves.map_iff.2 (Model.addSymmetricMatrix_leaves side name m)
  | addConstraint function set name =>
    refine Leaves.map_iff.2 ((Model.addConstraint_leaves function set name m).mono ?_)
    rintro (e | c) t h
    · exact h ▸ .refl m
    · exact h.1.steps h.2
  | setName o name => exact Model.setName_leaves o name m
  | setObjective sense o => exact Model.setObjective_leaves sense o m
  | setNonlinearObjective sense o => exact Model.setNonlinearObjective_leaves sense o m

/-- The model after calls. -/
def afterAll (calls : List (ModelCall N K)) (m : Model N K) : Model N K :=
  calls.foldl (fun m call => call.after m) m

theorem follows_afterAll (calls : List (ModelCall N K)) (m : Model N K) :
    m.Follows (afterAll calls m) := by
  induction calls generalizing m with
  | nil => exact .refl m
  | cons call calls ih => exact (call.steps m).follows.trans (ih (call.after m))

end ModelCall

end MathProg
