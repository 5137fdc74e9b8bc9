import Mathlib
import MathProg.Proofs.Model.Call
import MathProg.Proofs.Model.Shape

/-!
# The invariant of models

Whatever is asked of a model, and whether it succeeds or fails, every stored constraint has the form
that its set asks for, every bound that a variable came with is found where it was noted, and the
model has a representation. Variables and constraints that are there stay as they are, but for their
names.

The steps are those of the edits. A bound is noted only after its constraint has been added, so the
invariant holds between the two, and after an edit that stops there.
-/

namespace MathProg

variable {N K : Type}

/-- The function and the set of a constraint, without its name. -/
def ConstraintData.content (d : ConstraintData N K) : ConstraintFunction N K × ConstraintSet N :=
  (d.function, d.set)

namespace Model

/-! ## What a model keeps -/

/-- What a model keeps as it grows: its number, the bounds of its variables, and the functions and
sets of its constraints. -/
structure Extends (m t : Model N K) : Prop where
  id : t.id = m.id
  bounds : m.vars.map (·.bounds) <+: t.vars.map (·.bounds)
  contents : m.constraints.map (·.content) <+: t.constraints.map (·.content)

theorem Extends.refl (m : Model N K) : m.Extends m :=
  ⟨rfl, List.prefix_rfl, List.prefix_rfl⟩

theorem Extends.trans {m t u : Model N K} (h : m.Extends t) (h' : t.Extends u) : m.Extends u :=
  ⟨h'.id.trans h.id, h.bounds.trans h'.bounds, h.contents.trans h'.contents⟩

/-- A constraint is found again, with another name at most. -/
theorem Extends.constraintData? {m t : Model N K} (h : m.Extends t) {c : ConstraintRef}
    {d : ConstraintData N K} (stored : m.constraintData? c = some d) :
    ∃ d', t.constraintData? c = some d' ∧ d'.content = d.content := by
  unfold Model.constraintData? at stored ⊢
  split at stored
  next own =>
    obtain ⟨inside, rfl⟩ := List.getElem?_eq_some_iff.1 stored
    have kept := List.prefix_iff_getElem?.1 h.contents c.index (by simpa using inside)
    rw [List.getElem?_map, List.getElem_map] at kept
    rw [h.id, if_pos own]
    exact Option.map_eq_some_iff.1 kept
  next => cases stored

/-- What a model keeps where nothing is named: its first `n` variables and its constraints. -/
structure Retains (n : Nat) (m t : Model N K) : Prop where
  id : t.id = m.id
  vars : m.vars.take n <+: t.vars
  constraints : m.constraints <+: t.constraints

theorem Retains.refl (n : Nat) (m : Model N K) : m.Retains n m :=
  ⟨rfl, List.take_prefix n m.vars, List.prefix_rfl⟩

theorem Retains.trans {n k : Nat} {m t u : Model N K} (h : m.Retains n t) (h' : t.Retains k u)
    (le : n ≤ k) : m.Retains n u := by
  refine ⟨h'.id.trans h.id, ?_, h.constraints.trans h'.constraints⟩
  -- the second step keeps at least as many variables as the first one has kept
  have short : (m.vars.take n).length ≤ k := by
    rw [List.length_take]
    omega
  exact (List.prefix_take_iff.2 ⟨h.vars, short⟩).trans h'.vars

/-- Whether a model keeps all its variables and constraints, with their names. -/
abbrev RetainsAll (m t : Model N K) : Prop :=
  m.Retains m.vars.length t

theorem Retains.length_le {m t : Model N K} (h : m.RetainsAll t) :
    m.vars.length ≤ t.vars.length := by
  simpa using h.vars.length_le

theorem RetainsAll.trans {m t u : Model N K} (h : m.RetainsAll t) (h' : t.RetainsAll u) :
    m.RetainsAll u :=
  Retains.trans h h' h.length_le

theorem RetainsAll.extends {m t : Model N K} (h : m.RetainsAll t) : m.Extends t := by
  have vars : m.vars <+: t.vars := by simpa using h.vars
  exact ⟨h.id, vars.map _, h.constraints.map _⟩

/-- Whether nothing but names sets two models apart, and how often they were edited. -/
structure SameButNames (m t : Model N K) : Prop where
  id : t.id = m.id
  bounds : t.vars.map (·.bounds) = m.vars.map (·.bounds)
  contents : t.constraints.map (·.content) = m.constraints.map (·.content)
  objective : t.objective = m.objective

theorem SameButNames.refl (m : Model N K) : m.SameButNames m :=
  ⟨rfl, rfl, rfl, rfl⟩

theorem SameButNames.extends {m t : Model N K} (h : m.SameButNames t) : m.Extends t :=
  ⟨h.id, h.bounds ▸ List.prefix_rfl, h.contents ▸ List.prefix_rfl⟩

/-! ## Regular models -/

/-- Whether a constraint of a model bounds one of its variables in a role. -/
def Records (m : Model N K) (i : Nat) (role : BoundRole) (c : Nat) : Prop :=
  ∃ d, m.constraints[c]? = some d ∧ d.function = .scalar (.var ⟨m.id, i⟩) ∧
    d.set.family = role.family

/-- The invariant, apart from the variables that a model may use. -/
structure Regular (m : Model Number Float) : Prop where
  stores : ∀ d ∈ m.constraints, d.set.Stores d.function
  records : ∀ i v, m.vars[i]? = some v → ∀ b ∈ v.bounds, m.Records i b.1 b.2
  objective : ∃ f, m.objective.toExpression.toFunction = .ok f

theorem regular_empty (id : Nat) (name : Option String) :
    (Model.empty id name : Model Number Float).Regular :=
  ⟨by simp [empty], by simp [empty], ⟨_, rfl⟩⟩

/-- A bound stays where it was noted. -/
theorem Records.mono {m t : Model N K} {i c : Nat} {role : BoundRole} (h : m.Records i role c)
    (id : t.id = m.id)
    (contents : m.constraints.map (·.content) <+: t.constraints.map (·.content)) :
    t.Records i role c := by
  obtain ⟨d, found, function, family⟩ := h
  obtain ⟨inside, rfl⟩ := List.getElem?_eq_some_iff.1 found
  have kept := List.prefix_iff_getElem?.1 contents c (by simpa using inside)
  rw [List.getElem?_map, List.getElem_map] at kept
  obtain ⟨d', found', same⟩ := Option.map_eq_some_iff.1 kept
  obtain ⟨function', set'⟩ := Prod.ext_iff.1 same
  refine ⟨d', found', ?_, ?_⟩
  · rw [id, ← function]
    exact function'
  · rw [← family]
    exact congrArg ConstraintSet.family set'

/-- A regular model stays regular if every constraint that is new is stored in form, every bound that
is new is found where it is noted, and the objective is converted. -/
theorem Regular.step {m t : Model Number Float} (regular : m.Regular) (id : t.id = m.id)
    (contents : m.constraints.map (·.content) <+: t.constraints.map (·.content))
    (stores : ∀ d ∈ t.constraints,
      (∃ d' ∈ m.constraints, d'.content = d.content) ∨ d.set.Stores d.function)
    (noted : ∀ i v, t.vars[i]? = some v → ∀ b ∈ v.bounds,
      (∃ v', m.vars[i]? = some v' ∧ b ∈ v'.bounds) ∨ t.Records i b.1 b.2)
    (objective : ∃ f, t.objective.toExpression.toFunction = .ok f) : t.Regular where
  stores d hd := by
    rcases stores d hd with ⟨d', hd', same⟩ | new
    · obtain ⟨function, set⟩ := Prod.ext_iff.1 same
      have old := regular.stores d' hd'
      rw [show d'.function = d.function from function, show d'.set = d.set from set] at old
      exact old
    · exact new
  records i v hv b hb := by
    rcases noted i v hv b hb with ⟨v', hv', hb'⟩ | new
    · exact (regular.records i v' hv' b hb').mono id contents
    · exact new
  objective := objective

/-- What a model answers when it is asked for the bound of a variable. -/
theorem Regular.boundRef_eq_ok {m : Model Number Float} (regular : m.Regular) {v : VariableRef}
    {role : BoundRole} {c : ConstraintRef}
    (h : m.boundRef (.expression (.var v)) role = .ok c) :
    ∃ d, m.constraintData? c = some d ∧ d.function = .scalar (.var v) ∧
      d.set.family = role.family := by
  unfold boundRef at h
  obtain ⟨⟨w, data⟩, found, answer⟩ := Fallible.bind_eq_ok.1 h
  have place : w = v ∧ v.model = m.id ∧ m.vars[v.index]? = some data := by
    unfold checkVariable variableData? at found
    simp only at found
    split at found
    next known =>
      cases found
      split at known
      next own => exact ⟨rfl, own, known⟩
      next => cases known
    next => cases found
  obtain ⟨rfl, own, known⟩ := place
  simp only at answer
  split at answer
  next k noted =>
    cases answer
    obtain ⟨before, after, split, -⟩ := List.lookup_eq_some_iff.1 noted
    have member : (role, k) ∈ data.bounds := by simp [split]
    obtain ⟨d, stored, function, family⟩ := regular.records _ _ known _ member
    refine ⟨d, ?_, ?_, family⟩
    · simp only [constraintData?, ↓reduceIte]
      exact stored
    · rw [function, ← own]
  next => cases answer

/-! ## Single changes -/

section Changes

variable {m : Model Number Float}

/-- A new variable has no bounds yet. -/
theorem Regular.withVariable (regular : m.Regular) (name : Option String) (revision : Nat) :
    ({ m with vars := m.vars ++ [⟨name, []⟩], revision } : Model Number Float).Regular := by
  refine regular.step rfl List.prefix_rfl (fun d hd => .inl ⟨d, hd, rfl⟩) ?_ regular.objective
  intro i v hv b hb
  rcases Nat.lt_or_ge i m.vars.length with old | new
  · rw [List.getElem?_append_left old] at hv
    exact .inl ⟨v, hv, hb⟩
  · rw [List.getElem?_append_right new] at hv
    obtain rfl := List.mem_singleton.1 (List.mem_of_getElem? hv)
    cases hb

/-- A new constraint must be stored in form. -/
theorem Regular.withConstraint (regular : m.Regular) {d : ConstraintData Number Float}
    (stores : d.set.Stores d.function) (revision : Nat) :
    ({ m with constraints := m.constraints ++ [d], revision } : Model Number Float).Regular := by
  have contents : m.constraints.map (·.content) <+: (m.constraints ++ [d]).map (·.content) :=
    (List.prefix_append _ _).map _
  refine regular.step rfl contents (fun d' hd => ?_) (fun i v hv b hb => .inl ⟨v, hv, hb⟩)
    regular.objective
  rcases List.mem_append.1 hd with old | new
  · exact .inl ⟨d', old, rfl⟩
  · obtain rfl := List.mem_singleton.1 new
    exact .inr stores

/-- A bound that is noted must be found. -/
theorem Regular.withBound (regular : m.Regular) {v : VariableRef} {role : BoundRole}
    {c : ConstraintRef} (found : m.Records v.index role c.index) :
    (recordBound v role c m).Regular := by
  refine regular.step rfl List.prefix_rfl (fun d hd => .inl ⟨d, hd, rfl⟩) ?_ regular.objective
  intro i w hw b hb
  simp only [recordBound, List.getElem?_modify] at hw
  obtain ⟨w', hw', rfl⟩ := Option.map_eq_some_iff.1 hw
  by_cases here : v.index = i
  · simp only [here, ↓reduceIte, List.mem_cons] at hb
    rcases hb with rfl | old
    · exact .inr (here ▸ found)
    · exact .inl ⟨w', hw', old⟩
  · simp only [here, ↓reduceIte] at hb
    exact .inl ⟨w', hw', hb⟩

theorem Regular.renamed {t : Model Number Float} (regular : m.Regular) (same : m.SameButNames t) :
    t.Regular := by
  refine regular.step same.id same.extends.contents (fun d hd => ?_) (fun i v hv b hb => ?_)
    (same.objective ▸ regular.objective)
  · have member : d.content ∈ m.constraints.map (·.content) := by
      rw [← same.contents]
      exact List.mem_map_of_mem hd
    exact .inl (List.mem_map.1 member)
  -- the variable at the same place has another name at most
  · have place : (m.vars.map (·.bounds))[i]? = some v.bounds := by
      rw [← same.bounds, List.getElem?_map, hv]
      rfl
    rw [List.getElem?_map] at place
    obtain ⟨v', hv', kept⟩ := Option.map_eq_some_iff.1 place
    exact .inl ⟨v', hv', kept ▸ hb⟩

/-- A new objective must be converted. -/
theorem Regular.withObjective (regular : m.Regular) {objective : Objective Number Float}
    (converted : ∃ f, objective.toExpression.toFunction = .ok f) (sense : Sense) (revision : Nat) :
    ({ m with sense, objective, revision } : Model Number Float).Regular :=
  regular.step rfl List.prefix_rfl (fun d hd => .inl ⟨d, hd, rfl⟩)
    (fun _ v hv _ hb => .inl ⟨v, hv, hb⟩) converted

end Changes

/-! ## Edits -/

/-- What an edit does that names nothing: everything stays as it is, and the model regular if the
edit is one of those with property `p`. -/
structure Grows (p : Prop) (m t : Model Number Float) : Prop where
  retains : m.RetainsAll t
  regular : p → m.Regular → t.Regular

theorem Grows.refl (p : Prop) (m : Model Number Float) : m.Grows p m :=
  ⟨.refl _ m, fun _ regular => regular⟩

theorem Grows.trans {p : Prop} {m t u : Model Number Float} (h : m.Grows p t) (h' : t.Grows p u) :
    m.Grows p u :=
  ⟨h.retains.trans h'.retains, fun hp regular => h'.regular hp (h.regular hp regular)⟩

/-- A constraint leaves the model regular if its operand is finite. -/
theorem addConstraint_grows (o : Operand Number Float) (s : ConstraintSet Number)
    (name : Option String) (m : Model Number Float) :
    Leaves (addConstraint o s name) m (fun _ t => m.Grows o.IsFinite t) := by
  refine (addConstraint_spec o s name m).mono fun result t left => ?_
  cases result with
  | error e =>
    obtain rfl := left
    exact .refl _ t
  | ok c =>
    obtain ⟨f, s', fitted, -, -, rfl⟩ := left
    refine ⟨⟨rfl, List.take_prefix _ m.vars, List.prefix_append _ _⟩, ?_⟩
    intro finite regular
    exact regular.withConstraint (ConstraintSet.stores_fit finite fitted) _

/-- A bound of a variable that has come last leaves the variables before it. -/
theorem addBound_regular {v : VariableRef} {role : BoundRole} {s : ConstraintSet Number}
    (scalar : s.kind = .scalar) (family : s.family = role.family) {m : Model Number Float}
    (own : v.model = m.id) :
    Leaves (addBound v role s) m (fun _ t =>
      m.Retains v.index t ∧ (m.Regular → t.Regular)) := by
  unfold addBound
  simp only [Leaves.bind_iff, Leaves.modify_iff]
  refine (addConstraint_spec (.expression (.var v)) s none m).mono fun result t left => ?_
  cases result with
  | error e =>
    obtain rfl := left
    exact ⟨.refl _ t, fun regular => regular⟩
  | ok c =>
    have alone : s.fit (.expression (.var v) : Operand Number Float) = .ok (.scalar (.var v), s) :=
      ConstraintSet.fit_of_constantPart scalar rfl FloatLaws.zero_beq
    obtain ⟨f, s', fitted, -, rfl, rfl⟩ := left
    cases alone.symm.trans fitted
    constructor
    -- only the variable itself changes, and it stands behind those that are kept
    · refine ⟨rfl, ?_, List.prefix_append _ _⟩
      show m.vars.take v.index <+: m.vars.modify v.index _
      rw [List.modify_eq_take_drop]
      exact List.prefix_append _ _
    -- the constraint is there before the note that points to it
    · intro regular
      have stored := regular.withConstraint (d := ⟨.scalar (.var v), s, none⟩)
        (ConstraintSet.stores_var scalar v) (m.revision + 1)
      refine stored.withBound ⟨⟨.scalar (.var v), s, none⟩, ?_, ?_, family⟩
      · exact List.getElem?_concat_length
      · rw [← own]

theorem addVariable_grows (options : VariableOptions Number) (m : Model Number Float) (p : Prop) :
    Leaves (addVariable options : Edit Number Float VariableRef) m (fun _ t => m.Grows p t) := by
  refine addVariable_keeps options ⟨⟨rfl, ?_, List.prefix_rfl⟩, ?_⟩ ?_
  · rw [List.take_length]
    exact List.prefix_append _ _
  · exact fun _ regular => regular.withVariable _ _
  · intro t role s held scalar family
    have own : m.id = t.id := held.retains.id.symm
    refine (addBound_regular scalar family (v := ⟨m.id, m.vars.length⟩) own).mono ?_
    intro result u left
    exact ⟨Retains.trans held.retains left.1 (Nat.le_refl _), fun hp regular =>
      left.2 (held.regular hp regular)⟩

theorem addSymmetricMatrix_grows (side : Int) (name : Option String) (m : Model Number Float)
    (p : Prop) :
    Leaves (addSymmetricMatrix side name : Edit Number Float (List (List VariableRef))) m
      (fun _ t => m.Grows p t) := by
  unfold addSymmetricMatrix
  rw [Leaves.bind_iff, Leaves.ofExcept_iff]
  split
  next =>
    rw [Leaves.bind_iff]
    refine (Leaves.mapM (R := Grows p) (Grows.refl p) (fun _ _ _ => Grows.trans)
      (fun _ _ t => addVariable_grows _ t p) m).mono fun result t h => ?_
    cases result <;> exact h
  next => exact .refl p m

theorem setName_sameButNames (o : Operand N K) (name : Option String) (m : Model N K) :
    Leaves (setName o name) m (fun _ t => m.SameButNames t) := by
  unfold setName
  split
  · simp only [Leaves.bind_iff, Leaves.ask_iff, Leaves.change_iff]
    split
    · refine ⟨rfl, List.ext_getElem (by simp) fun i _ _ => ?_, rfl, rfl⟩
      simp only [List.getElem_map, List.getElem_modify]
      split <;> rfl
    · exact .refl m
  · simp only [Leaves.bind_iff, Leaves.ask_iff, Leaves.change_iff]
    split
    · refine ⟨rfl, rfl, List.ext_getElem (by simp) fun i _ _ => ?_, rfl⟩
      simp only [List.getElem_map, List.getElem_modify]
      split <;> rfl
    · exact .refl m

/-- An affine or quadratic objective has no written numbers left. -/
theorem exists_toFunction_of_objectiveOf {o : Operand Number Float}
    {objective : Objective Number Float} (h : objectiveOf o = .ok objective) :
    ∃ f, objective.toExpression.toFunction = .ok f := by
  unfold objectiveOf at h
  split at h
  next n =>
    obtain ⟨c, -, h⟩ := Fallible.bind_eq_ok.1 h
    cases h
    exact ⟨_, rfl⟩
  next =>
    cases h
    exact ⟨_, rfl⟩
  next =>
    cases h
    exact ⟨_, rfl⟩
  next =>
    cases h
    exact ⟨_, rfl⟩
  next => cases h

theorem setObjective_grows (sense : Option Sense) (o : Operand Number Float)
    (m : Model Number Float) (p : Prop) :
    Leaves (setObjective sense o) m (fun _ t => m.Grows p t) := by
  unfold setObjective
  cases sense with
  | none => exact .refl p m
  | some sense =>
    simp only [Leaves.bind_iff, Leaves.ask_iff, Leaves.change_iff]
    split
    next objective accepted =>
      split
      · exact ⟨⟨rfl, List.take_prefix _ _, List.prefix_rfl⟩, fun _ regular =>
          regular.withObjective (exists_toFunction_of_objectiveOf accepted) _ _⟩
      · exact .refl p m
    · exact .refl p m

/-- A nonlinear objective keeps the numbers that are written in it, so these must be finite. -/
theorem setNonlinearObjective_grows (sense : Option Sense) (o : Operand Number Float)
    (m : Model Number Float) :
    Leaves (setNonlinearObjective sense o) m (fun _ t => m.Grows o.IsFinite t) := by
  unfold setNonlinearObjective
  split
  next op args =>
    rw [Leaves.bind_iff, Leaves.ask_iff]
    split
    · cases sense with
      | none => exact .refl _ m
      | some sense =>
        refine ⟨⟨rfl, List.take_prefix _ _, List.prefix_rfl⟩, fun finite regular => ?_⟩
        refine regular.withObjective (Expression.exists_toFunction_of _ fun n hn => ?_) _ _
        obtain ⟨x, hx, -⟩ := finite.numbers n hn
        exact ⟨x, hx⟩
    · exact .refl _ m
  · exact .refl _ m

end Model

/-! ## Runs -/

namespace ModelCall

/-- Whether a call gives a name to something that is there. -/
def isNaming : ModelCall N K → Bool
  | setName _ _ => true
  | _ => false

/-- Whether the numbers of a call are finite where it matters: in a function that may be in a scalar
set, and in a nonlinear objective. -/
def IsFinite : ModelCall Number Float → Prop
  | addConstraint function _ _ => function.IsFinite
  | setNonlinearObjective _ o => o.IsFinite
  | _ => True

theorem grows_of_not_naming {call : ModelCall Number Float} (unnamed : call.isNaming = false)
    (m : Model Number Float) : m.Grows call.IsFinite (call.after m) := by
  change Leaves call.edit m (fun _ t => m.Grows call.IsFinite t)
  cases call with
  | addVariable options => exact Leaves.map_iff.2 (Model.addVariable_grows options m _)
  | addSymmetricMatrix side name =>
    exact Leaves.map_iff.2 (Model.addSymmetricMatrix_grows side name m _)
  | addConstraint function set name =>
    exact Leaves.map_iff.2 (Model.addConstraint_grows function set name m)
  | setName o name => cases unnamed
  | setObjective sense o => exact Model.setObjective_grows sense o m _
  | setNonlinearObjective sense o => exact Model.setNonlinearObjective_grows sense o m

/-- A call keeps what is there, and a finite call keeps a regular model regular. -/
theorem extends_after (call : ModelCall Number Float) (m : Model Number Float) :
    m.Extends (call.after m) ∧ (call.IsFinite → m.Regular → (call.after m).Regular) := by
  cases naming : call.isNaming with
  | false =>
    have grows := grows_of_not_naming naming m
    exact ⟨grows.retains.extends, grows.regular⟩
  | true =>
    cases call with
    | setName o name =>
      have same : m.SameButNames ((setName o name).after m) := Model.setName_sameButNames o name m
      exact ⟨same.extends, fun _ regular => regular.renamed same⟩
    | _ => cases naming

/-! The run lemmas follow from the steps by induction on the calls. -/

theorem extends_afterAll (calls : List (ModelCall Number Float)) (m : Model Number Float) :
    m.Extends (afterAll calls m) := by
  induction calls generalizing m with
  | nil => exact .refl m
  | cons call calls ih => exact (call.extends_after m).1.trans (ih (call.after m))

theorem retainsAll_afterAll {calls : List (ModelCall Number Float)}
    (unnamed : ∀ call ∈ calls, call.isNaming = false) (m : Model Number Float) :
    m.RetainsAll (afterAll calls m) := by
  induction calls generalizing m with
  | nil => exact .refl _ m
  | cons call calls ih =>
    have first := (grows_of_not_naming (unnamed call (List.mem_cons_self ..)) m).retains
    exact first.trans (ih (fun c hc => unnamed c (List.mem_cons_of_mem _ hc)) (call.after m))

theorem regular_afterAll {calls : List (ModelCall Number Float)}
    (finite : ∀ call ∈ calls, call.IsFinite) {m : Model Number Float} (regular : m.Regular) :
    (afterAll calls m).Regular := by
  induction calls generalizing m with
  | nil => exact regular
  | cons call calls ih =>
    have first := (call.extends_after m).2 (finite call (List.mem_cons_self ..)) regular
    exact ih (fun c hc => finite c (List.mem_cons_of_mem _ hc)) first

end ModelCall

namespace Model

/-- The model with one more constraint. -/
def withConstraint (d : ConstraintData N K) (m : Model N K) : Model N K :=
  { m with constraints := m.constraints ++ [d], revision := m.revision + 1 }

/-- A new constraint is found from then on, with another name at most. -/
theorem constraintData?_afterAll (d : ConstraintData Number Float) (m : Model Number Float)
    (calls : List (ModelCall Number Float)) :
    ∃ d', (ModelCall.afterAll calls (m.withConstraint d)).constraintData?
        ⟨m.id, m.constraints.length⟩ = some d' ∧ d'.function = d.function ∧ d'.set = d.set := by
  have last : (m.withConstraint d).constraintData? ⟨m.id, m.constraints.length⟩ = some d := by
    simp [constraintData?, withConstraint]
  obtain ⟨d', kept, content⟩ :=
    (ModelCall.extends_afterAll calls (m.withConstraint d)).constraintData? last
  exact ⟨d', kept, Prod.ext_iff.1 content⟩

/-- A model that uses nothing but its own variables and is regular has a representation. -/
theorem Regular.exists_represent {m : Model Number Float} (regular : m.Regular) (closed : m.Closed) :
    ∃ r, m.represent = .ok r := by
  refine exists_represent_of regular.objective fun d hd => ?_
  refine d.function.exists_toFunction_of fun e he n hn => ?_
  rw [(closed.fitted d hd).numbers_eq_nil he] at hn
  cases hn

/-- The invariant holds of every model that has come about in any way: the model has a
representation, and answers with a constraint on the variable when it is asked for a bound. No call,
whatever it is, changes the bounds, functions and sets that are there, and only a call that names
something changes a name. -/
theorem invariant_afterAll (id : Nat) (name : Option String)
    (calls : List (ModelCall Number Float)) (finite : ∀ call ∈ calls, call.IsFinite) :
    let m : Model Number Float := ModelCall.afterAll calls (.empty id name)
    m.Closed ∧ m.Regular ∧ (∃ r, m.represent = .ok r) ∧
      (∀ v role c, m.boundRef (.expression (.var v)) role = .ok c →
        ∃ d, m.constraintData? c = some d ∧ d.function = .scalar (.var v) ∧
          d.set.family = role.family) ∧
      ∀ more : List (ModelCall Number Float),
        m.Extends (ModelCall.afterAll more m) ∧
          ((∀ call ∈ more, call.isNaming = false) → m.RetainsAll (ModelCall.afterAll more m)) := by
  intro m
  have closed : m.Closed := (ModelCall.follows_afterAll calls _).closed (closed_empty id name)
  have regular : m.Regular := ModelCall.regular_afterAll finite (regular_empty id name)
  refine ⟨closed, regular, regular.exists_represent closed, ?_, fun more => ⟨?_, ?_⟩⟩
  · intro v role c answer
    exact regular.boundRef_eq_ok answer
  · exact ModelCall.extends_afterAll more m
  · intro unnamed
    exact ModelCall.retainsAll_afterAll unnamed m

/-- A variable with bounds, a constant to move, a matrix to flatten, a variable of another model and
a nonlinear objective. -/
def assortedCalls : List (ModelCall Number Float) :=
  let x : Operand Number Float := .expression (.var ⟨0, 0⟩)
  let one : Operand Number Float := .expression (.number (.integer 1))
  [.addVariable ⟨some "x", none, some (.integer 0), none, true, false⟩,
    .addConstraint (.expression (.linear ⟨[(⟨0, 0⟩, 2)], 1⟩)) (.lessThan (.integer 3)) none,
    .addConstraint (.list [.list [x, one], .list [one, x]]) (.matrix .triangle none) none,
    .addConstraint (.expression (.var ⟨7, 0⟩)) .integer none,
    .setNonlinearObjective (some .minimize)
      (.expression (.nonlinear .power [.var ⟨0, 0⟩, .number (.integer 2)]))]

theorem invariant_afterAll_assortedCalls :
    let m : Model Number Float := ModelCall.afterAll assortedCalls (.empty 0 none)
    m.constraints.length = 4 ∧ m.Closed ∧ m.Regular ∧ ∃ r, m.represent = .ok r := by
  have finite : ∀ call ∈ assortedCalls, call.IsFinite := by
    have two : (Number.integer 2).IsFinite := ⟨2, by decide +kernel, by decide⟩
    simp only [assortedCalls, List.forall_mem_cons]
    refine ⟨trivial, ⟨?_, rfl⟩, trivial, ⟨?_, rfl⟩, ⟨?_, rfl⟩, by simp⟩
    · simp [Expression.numbers]
    · simp [Expression.numbers]
    · simpa [Expression.numbers, Expression.numbersAll] using two
  obtain ⟨closed, regular, represented, -⟩ := invariant_afterAll 0 none assortedCalls finite
  exact ⟨by decide +kernel, closed, regular, represented⟩

end Model

end MathProg
