import MathProg.Proofs.Model.Accepted
import MathProg.Proofs.Model.Represent
import MathProg.Proofs.Model.Fitting

/-!
# The meaning of a model

The constraints of a model are those that its calls have posted, in their order. For every
assignment, the representation of a model says the same as the model: its objective has the same
value, and every entry is satisfied exactly if its constraint is, as the caller has written it.
-/

namespace MathProg

variable {N K : Type} [CommRing K] [Numeral N K]

/-! ## What calls post -/

/-- The sets that a new variable is put in. -/
def Model.VariableOptions.sets (options : VariableOptions N) : List (ConstraintSet N) :=
  options.fix.toList.map .equalTo ++ options.lower.toList.map .greaterThan
    ++ options.upper.toList.map .lessThan ++ (if options.integer then [.integer] else [])
    ++ (if options.binary then [.zeroOne] else [])

/-- A constraint as a caller writes it. -/
abbrev Posted (N K : Type) := Operand N K × ConstraintSet N

namespace ModelCall

variable [BEq K]

/-- The constraints that a call adds to a model, as the caller writes them. -/
def posts (call : ModelCall N K) (m : Model N K) : List (Posted N K) :=
  match call with
  | addVariable options =>
    options.sets.map (fun set => (.expression (.var ⟨m.id, m.vars.length⟩), set))
  | addConstraint function set name =>
    match ((Model.addConstraint function set name).run.run m).1 with
    | .ok _ => [(function, set)]
    | .error _ => []
  | _ => []

/-- The model after a run of calls. -/
def run (calls : List (ModelCall N K)) (m : Model N K) : Model N K :=
  calls.foldl (fun m call => call.after m) m

/-- All constraints that a run of calls posts. -/
def history : List (ModelCall N K) → Model N K → List (Posted N K)
  | [], _ => []
  | call :: calls, m => call.posts m ++ history calls (call.after m)

end ModelCall

/-! ## What a step adds -/

variable [LinearOrder K]

namespace Model

/-- Whether the constraints of a model mean what has been posted. -/
def Means (m : Model N K) (posts : List (Posted N K)) : Prop :=
  List.Forall₂ (fun d p => ∀ i : Meaning K, d.Holds i ↔ p.1.In i p.2) m.constraints posts

/-- Whether a model has come to another one by adding constraints, and means by them what has been posted. -/
structure Adds (m t : Model N K) (posts : List (Posted N K)) : Prop where
  id : t.id = m.id
  vars : m.vars.length ≤ t.vars.length
  means : ∀ before, m.Means before → t.Means (before ++ posts)

variable {m t u : Model N K} {posts posts' : List (Posted N K)}

theorem Adds.refl (m : Model N K) : m.Adds m [] :=
  ⟨rfl, Nat.le_refl _, fun before means => by simpa using means⟩

theorem Adds.trans (h : m.Adds t posts) (h' : t.Adds u posts') : m.Adds u (posts ++ posts') :=
  ⟨h'.id.trans h.id, Nat.le_trans h.vars h'.vars, fun before means => by
    rw [← List.append_assoc]
    exact h'.means _ (h.means _ means)⟩

/-- Names of constraints do not count. -/
theorem Adds.of_same (id : t.id = m.id) (vars : m.vars.length ≤ t.vars.length)
    (same : t.constraints.map (fun d => (d.function, d.set))
      = m.constraints.map (fun d => (d.function, d.set))) : m.Adds t [] := by
  have means_iff (m : Model N K) (posts : List (Posted N K)) : m.Means posts ↔
      List.Forall₂ (fun d p => ∀ i : Meaning K,
        (ConstraintData.mk d.1 d.2 none).Holds i ↔ p.1.In i p.2)
        (m.constraints.map (fun d => (d.function, d.set))) posts := by
    rw [List.forall₂_map_left_iff]
    rfl
  refine ⟨id, vars, fun before means => ?_⟩
  rw [List.append_nil, means_iff, same, ← means_iff]
  exact means

theorem Adds.singleton {d : ConstraintData N K} {p : Posted N K} (id : t.id = m.id)
    (vars : m.vars.length ≤ t.vars.length) (added : t.constraints = m.constraints ++ [d])
    (means : ∀ i : Meaning K, d.Holds i ↔ p.1.In i p.2) : m.Adds t [p] := by
  refine ⟨id, vars, fun before old => ?_⟩
  rw [Means, added]
  exact List.rel_append old (.cons means .nil)

/-! ## Edits that add no constraint -/

theorem setName_adds (o : Operand N K) (name : Option String) (m : Model N K) :
    Leaves (setName o name) m (fun _ t => m.Adds t []) := by
  unfold setName
  split
  · simp only [Leaves.bind_iff, Leaves.ask_iff, Leaves.change_iff]
    split
    · exact .of_same rfl (by simp) rfl
    · exact .refl m
  · simp only [Leaves.bind_iff, Leaves.ask_iff, Leaves.change_iff]
    split
    next c _ =>
      refine .of_same rfl (by simp) (List.ext_getElem (by simp) fun i _ _ => ?_)
      simp only [List.getElem_map, List.getElem_modify]
      split <;> rfl
    · exact .refl m

theorem setObjective_adds (sense : Option Sense) (o : Operand N K) (m : Model N K) :
    Leaves (setObjective sense o) m (fun _ t => m.Adds t []) := by
  unfold setObjective
  cases sense with
  | none => exact .refl m
  | some sense =>
    simp only [Leaves.bind_iff, Leaves.ask_iff, Leaves.change_iff]
    split
    · split
      · exact .of_same rfl (Nat.le_refl _) rfl
      · exact .refl m
    · exact .refl m

theorem setNonlinearObjective_adds (sense : Option Sense) (o : Operand N K) (m : Model N K) :
    Leaves (setNonlinearObjective sense o) m (fun _ t => m.Adds t []) := by
  unfold setNonlinearObjective
  split
  next op args =>
    rw [Leaves.bind_iff, Leaves.ask_iff]
    split
    · cases sense with
      | none => exact .refl m
      | some sense => exact .of_same rfl (Nat.le_refl _) rfl
    · exact .refl m
  · exact .refl m

/-! ## Edits that add constraints -/

variable [BEq K] [IsOrderedAddMonoid K] [ExactNumeral N K]

/-- A constraint that is accepted means what the caller has written. -/
theorem addConstraint_adds (o : Operand N K) (s : ConstraintSet N) (name : Option String)
    (m : Model N K) :
    Leaves (addConstraint o s name) m (fun result t =>
      match result with
      | .ok _ => m.Adds t [(o, s)]
      | .error _ => t = m) := by
  refine (addConstraint_spec o s name m).mono fun result t left => ?_
  cases result with
  | error e => exact left
  | ok c =>
    obtain ⟨f, s', fitted, -, -, rfl⟩ := left
    exact .singleton rfl (Nat.le_refl _) rfl fun i => ConstraintSet.holds_fit i fitted name

section Variables

variable [LawfulBEq K] {v : VariableRef}

/-- A bound of a variable of the model is never refused. -/
theorem addBound_adds {role : BoundRole} {s s' : ConstraintSet N} (owned : m.owns v)
    (scalar : s.kind = .scalar) (same : ∀ x : K, s.HasNumber x ↔ s'.HasNumber x) :
    Leaves (addBound v role s) m (fun result t =>
      result = .ok () ∧ m.Adds t [(.expression (.var v), s')]) := by
  have closes : m.Closes (.var v : Expression N K) := by
    simpa [Closes, Expression.occurrences] using owned
  have added := run_addConstraint (m := m) none (ConstraintSet.fit_var scalar (v := v)) closes
  have value (i : Meaning K) : (.expression (.var v) : Operand N K).In i s ↔
      (.expression (.var v) : Operand N K).In i s' := by
    simp only [Operand.In, Operand.form, ConstraintSet.Contains, same]
  unfold addBound
  simp only [Leaves.bind_iff, Leaves.modify_iff]
  unfold Leaves
  rw [added]
  refine ⟨trivial, .singleton rfl (by simp [recordBound]) rfl fun i => ?_⟩
  rw [← value]
  exact ConstraintSet.holds_fit i (ConstraintSet.fit_var scalar) none

omit [BEq K] [IsOrderedAddMonoid K] [ExactNumeral N K] [LawfulBEq K] in
theorem owns_of_adds (h : m.Adds t posts) (owned : m.owns v) : t.owns v :=
  owns_mono h.id h.vars owned

/-- An optional bound of a new variable. -/
theorem addBoundIf_adds {n? : Option N} {role : BoundRole} {set : N → ConstraintSet N}
    {post : Except (ModelError N K) VariableRef → Model N K → Prop}
    {next : Edit N K VariableRef} (owned : m.owns v) (scalar : ∀ n, (set n).kind = .scalar)
    (same : ∀ n (x : K), (set (Numeral.ofCoefficient (Numeral.value n))).HasNumber x
      ↔ (set n).HasNumber x)
    (added : ∀ t, m.Adds t (n?.toList.map (fun n => (.expression (.var v), set n))) →
      Leaves next t post) :
    Leaves (do
      if let some n := n? then addBound v role (set (← boundValue n))
      next) m post := by
  cases n? with
  | none => exact added m (.refl m)
  | some n =>
    simp only [Leaves.bind_iff]
    unfold boundValue
    rw [Leaves.ask_iff, Numeral.toCoefficient_eq]
    refine (addBound_adds owned (scalar _) (same n)).mono fun result t left => ?_
    rw [left.1]
    exact added t left.2

/-- A flag of a new variable. -/
theorem addFlag_adds {flag : Bool} {role : BoundRole} {set : ConstraintSet N}
    {post : Except (ModelError N K) VariableRef → Model N K → Prop}
    {next : Edit N K VariableRef} (owned : m.owns v) (scalar : set.kind = .scalar)
    (added : ∀ t, m.Adds t ((if flag then [set] else []).map
      (fun set => (.expression (.var v), set))) → Leaves next t post) :
    Leaves (do
      if flag then addBound v role set
      next) m post := by
  cases flag with
  | false => exact added m (.refl m)
  | true =>
    simp only [↓reduceIte, Leaves.bind_iff]
    refine (addBound_adds owned scalar fun x => Iff.rfl).mono fun result t left => ?_
    rw [left.1]
    exact added t left.2

theorem addVariable_adds (options : VariableOptions N) (m : Model N K) :
    Leaves (addVariable options : Edit N K VariableRef) m (fun _ t =>
      m.Adds t (options.sets.map (fun set => (.expression (.var ⟨m.id, m.vars.length⟩), set)))) := by
  unfold addVariable
  rw [Leaves.bind_iff, Leaves.get_iff]
  simp only
  rw [Leaves.bind_iff, Leaves.change_iff]
  simp only
  have start : m.Adds { m with
      vars := m.vars ++ [⟨options.name, []⟩], revision := m.revision + 1 } [] :=
    .of_same rfl (by simp) rfl
  generalize hs : ({ m with
      vars := m.vars ++ [⟨options.name, []⟩], revision := m.revision + 1 } : Model N K) = s
    at start ⊢
  have owned : s.owns ⟨m.id, m.vars.length⟩ := by simp [← hs, owns]
  have exact (n : N) : Numeral.value (Numeral.ofCoefficient (Numeral.value n : K) : N)
      = (Numeral.value n : K) := Numeral.value_ofCoefficient _
  refine addBoundIf_adds owned (fun _ => rfl) (fun n x => ?_) fun t₁ h₁ => ?_
  · simp only [ConstraintSet.HasNumber, exact]
  refine addBoundIf_adds (owns_of_adds h₁ owned) (fun _ => rfl) (fun n x => ?_) fun t₂ h₂ => ?_
  · simp only [ConstraintSet.HasNumber, exact]
  have h₂ := h₁.trans h₂
  refine addBoundIf_adds (owns_of_adds h₂ owned) (fun _ => rfl) (fun n x => ?_) fun t₃ h₃ => ?_
  · simp only [ConstraintSet.HasNumber, exact]
  have h₃ := h₂.trans h₃
  refine addFlag_adds (owns_of_adds h₃ owned) rfl fun t₄ h₄ => ?_
  have h₄ := h₃.trans h₄
  refine addFlag_adds (owns_of_adds h₄ owned) rfl fun t₅ h₅ => ?_
  simpa [VariableOptions.sets, Function.comp_def] using start.trans (h₄.trans h₅)

theorem addSymmetricMatrix_adds (side : Int) (name : Option String) (m : Model N K) :
    Leaves (addSymmetricMatrix side name : Edit N K (List (List VariableRef))) m
      (fun _ t => m.Adds t []) := by
  unfold addSymmetricMatrix
  rw [Leaves.bind_iff, Leaves.ofExcept_iff]
  split
  next =>
    rw [Leaves.bind_iff]
    refine (Leaves.mapM (R := fun m t => m.Adds t []) Adds.refl (fun _ _ _ => Adds.trans)
      (fun _ _ t => ?_) m).mono fun result t h => ?_
    · exact addVariable_adds (.named _) t
    · cases result <;> exact h
  next => exact .refl m

end Variables

end Model

/-! ## Runs -/

section Runs

variable [BEq K] [LawfulBEq K] [IsOrderedAddMonoid K] [ExactNumeral N K]

namespace ModelCall

/-- A call adds the constraints that it posts, whether it succeeds or fails. -/
theorem adds (call : ModelCall N K) (m : Model N K) : m.Adds (call.after m) (call.posts m) := by
  change Leaves call.edit m (fun _ t => m.Adds t (call.posts m))
  cases call with
  | addVariable options => exact Leaves.map_iff.2 (Model.addVariable_adds options m)
  | addSymmetricMatrix side name => exact Leaves.map_iff.2 (Model.addSymmetricMatrix_adds side name m)
  | addConstraint function set name =>
    refine Leaves.map_iff.2 ?_
    have added := Model.addConstraint_adds function set name m
    unfold Leaves at added ⊢
    simp only [posts]
    generalize (Model.addConstraint function set name).run.run m = outcome at added ⊢
    obtain ⟨result, t⟩ := outcome
    cases result with
    | ok c => exact added
    | error e =>
      obtain rfl := added
      exact .refl t
  | setName o name => exact Model.setName_adds o name m
  | setObjective sense o => exact Model.setObjective_adds sense o m
  | setNonlinearObjective sense o => exact Model.setNonlinearObjective_adds sense o m

/-- A run adds the constraints of its history. -/
theorem adds_run (calls : List (ModelCall N K)) (m : Model N K) :
    m.Adds (run calls m) (history calls m) := by
  induction calls generalizing m with
  | nil => exact .refl m
  | cons call calls ih => exact (call.adds m).trans (ih (call.after m))

omit [LinearOrder K] [LawfulBEq K] [IsOrderedAddMonoid K] [ExactNumeral N K] in
/-- A run keeps a model closed. -/
theorem closed_run (calls : List (ModelCall N K)) {m : Model N K} (closed : m.Closed) :
    (run calls m).Closed :=
  (follows_afterAll calls m).closed closed

end ModelCall

namespace Model

omit [CommRing K] [Numeral N K] [BEq K] [LawfulBEq K] [LinearOrder K] [IsOrderedAddMonoid K]
  [ExactNumeral N K] in
theorem Closes.model_eq {m : Model N K} {e : Expression N K} (h : m.Closes e) :
    ∀ v ∈ e.occurrences, v.model = m.id :=
  fun v hv => beq_iff_eq.1 (Bool.and_eq_true_iff.1 (h v hv)).1

omit [IsOrderedAddMonoid K] [ExactNumeral N K] in
/-- An entry is satisfied exactly if its constraint is. -/
theorem holds_toEntry {m : Model N K} (closed : m.Closed) (i : Meaning K)
    {d : ConstraintData N K} (member : d ∈ m.constraints) {e : Entry N K}
    (h : d.toEntry = .ok e) : e.Holds i m.id ↔ d.Holds i := by
  obtain ⟨-, set, function⟩ := ConstraintData.toEntry_eq_ok.1 h
  have owned : ∀ e ∈ d.function.entries, ∀ v ∈ e.occurrences, v.model = m.id :=
    fun e he => (closed.constraints d member e he).model_eq
  have value := ConstraintFunction.evaluate_toFunction i function (closed.fitted d member) owned
  rw [Entry.Holds, ConstraintData.Holds, value, set]

/-- The representation of a model that has come about in any way means what the model means. -/
theorem represent_meaning (id : Nat) (name : Option String) (calls : List (ModelCall N K)) :
    ∃ r, (ModelCall.run calls (.empty id name)).represent = .ok r ∧ ∀ i : Meaning K,
      r.objective.evaluate (i.interpretation id) =
        ((ModelCall.run calls (.empty id name)).objective.toExpression.evaluate
          i.valuation).map .scalar ∧
      List.Forall₂ (fun e p => e.Holds i id ↔ p.1.In i p.2) r.constraints
        (ModelCall.history calls (.empty id name)) := by
  have closed := ModelCall.closed_run calls (Model.closed_empty (N := N) (K := K) id name)
  have adds := ModelCall.adds_run calls (Model.empty id name)
  have means := adds.means [] .nil
  have same : (ModelCall.run calls (.empty id name) : Model N K).id = id := adds.id
  obtain ⟨r, hr⟩ := exists_represent (ModelCall.run calls (Model.empty id name : Model N K))
  obtain ⟨-, -, objective, constraints⟩ := represent_eq_ok.1 hr
  refine ⟨r, hr, fun i => ⟨?_, ?_⟩⟩
  · exact Expression.evaluate_toFunction i objective fun v hv =>
      (closed.objective.model_eq v hv).trans same
  · exact Fallible.forall₂_of_common constraints means fun d hd e p entry posted => by
      rw [← posted i, ← same]
      exact holds_toEntry closed i hd entry

end Model

end Runs

namespace Model

/-- A constraint with a constant. -/
def shiftedPost : Posted ℚ ℚ :=
  (.expression (.linear ⟨[(⟨0, 0⟩, 2)], 1⟩), .lessThan 3)

/-- A constraint on a matrix. -/
def matrixPost : Posted ℚ ℚ :=
  let x : Operand ℚ ℚ := .expression (.var ⟨0, 0⟩)
  let one : Operand ℚ ℚ := .expression (.number 1)
  (.list [.list [x, one], .list [one, x]], .matrix .triangle none)

theorem represent_meaning_of_posts :
    let calls : List (ModelCall ℚ ℚ) :=
      [.addVariable ⟨some "x", none, some 0, none, false, false⟩,
        .addConstraint shiftedPost.1 shiftedPost.2 none,
        .addConstraint matrixPost.1 matrixPost.2 none]
    ∃ r, (ModelCall.run calls (.empty 0 none)).represent = .ok r ∧ ∀ i : Meaning ℚ,
      List.Forall₂ (fun e p => e.Holds i 0 ↔ p.1.In i p.2) r.constraints
        [(.expression (.var ⟨0, 0⟩), .greaterThan 0), shiftedPost, matrixPost] := by
  intro calls
  obtain ⟨r, hr, means⟩ := represent_meaning 0 none calls
  have posted : ModelCall.history calls (.empty 0 none) =
      [(.expression (.var ⟨0, 0⟩), .greaterThan 0), shiftedPost, matrixPost] := by cbv
  exact ⟨r, hr, fun i => posted ▸ (means i).2⟩

end Model

end MathProg
