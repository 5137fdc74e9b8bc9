import MathProg.Attachment.Query
import MathProg.Number.Checked
import MathProg.Proofs.Attachment.Lifecycle
import MathProg.Proofs.Model.Call
import MathProg.Proofs.Number.FloatLaws

/-!
# A model and its backend over whole runs

One model, one attachment, and a shelf of in-memory backends. A run mixes calls to the model with
operations on the attachment, and others may do what they like to backends that are not attached.
Whenever the attachment says that it is up to date, its backend shows the model as it is now, and the
handles lead to the right places.
-/

namespace MathProg

variable {N K V : Type}

/-! ## Runs -/

/-- A model with an attachment and the backends around it. -/
structure World (N K V : Type) where
  model : Model N K
  linked : Linked N K V

/-- What may happen next. Sources of backends build a new one every time. -/
inductive WorldEvent (N K : Type) where
  | edit (call : ModelCall N K)
  | attach (settings : Option (InMemory.Settings N))
  | setSource (settings : Option (InMemory.Settings N))
  | adopt (number : Nat)
  | detach
  | ensureSynced
  | solve
  /-- Somebody injects solution data into a backend. -/
  | inject (number : Nat) (i : Injection N)
  /-- Somebody puts another backend on the shelf, with anything in it. -/
  | provide (b : InMemory N K)
  /-- Somebody writes into a backend. Nobody writes into the attached one. -/
  | write (number : Nat) (b : InMemory N K)

namespace World

/-- A new model and a new attachment, among backends with anything in them. -/
def start [Zero K] (id : Nat) (name : Option String) (shelf : List (InMemory N K))
    (settings : Option (InMemory.Settings N)) : World N K V :=
  ⟨.empty id name, ⟨⟨shelf.map .inMemory, .standard⟩,
    .new (settings.map (fun s => .fresh (.inMemory s)))⟩⟩

def attachment (w : World N K V) : Attachment N K :=
  w.linked.attachment

def state (w : World N K V) : AttachmentState :=
  w.attachment.state w.model

/-- The world after an operation on the attachment, whether it succeeds or fails. -/
def link {α : Type} (w : World N K V) (op : Link N K V α) : World N K V :=
  { w with linked := (op.run.run w.linked).2 }

/-- The world with another backend in a place of the shelf. -/
def put (w : World N K V) (number : Nat) (b : InMemory N K) : World N K V :=
  { w with linked := { w.linked with workshop := w.linked.workshop.put number (.inMemory b) } }

/-- The in-memory backend in a place of the shelf. -/
def inMemory? (w : World N K V) (number : Nat) : Option (InMemory N K) :=
  match w.linked.workshop.backends[number]? with
  | some (.inMemory b) => some b
  | _ => none

theorem inMemory?_eq_some {w : World N K V} {number : Nat} {b : InMemory N K} :
    w.inMemory? number = some b ↔ w.linked.workshop.backends[number]? = some (.inMemory b) := by
  unfold inMemory?
  split
  next c stands => simp [stands]
  next other =>
    refine iff_of_false nofun fun stands => ?_
    exact other b stands

section

variable [Zero K] [One K] [Add K] [Sub K] [Mul K] [Neg K] [Div K] [BEq K] [LT K] [DecidableLT K]
variable [TextNumber K] [OperatorMeaning K] [Numeral N K] [CheckedArithmetic N K V]

/-- The world after an event. -/
def after (w : World N K V) : WorldEvent N K → World N K V
  | .edit call => { w with model := call.after w.model }
  | .attach settings =>
    w.link (Attachment.attach w.model (settings.map (fun s => .fresh (.inMemory s))))
  | .setSource settings =>
    w.link (Attachment.setSource (settings.map (fun s => .fresh (.inMemory s))))
  | .adopt number => w.link (Attachment.adopt w.model number)
  | .detach => w.link Attachment.detach
  | .ensureSynced => w.link (Attachment.ensureSynced w.model)
  | .solve => w.link (Attachment.solve w.model)
  | .inject number i =>
    match w.inMemory? number with
    | some b =>
      match b.inject i with
      | .ok b => w.put number b
      | .error _ => w
    | none => w
  | .provide b =>
    { w with linked := { w.linked with workshop :=
      { w.linked.workshop with backends := w.linked.workshop.backends ++ [.inMemory b] } } }
  | .write number b => if w.attachment.backend = some number then w else w.put number b

/-- The world after a run. -/
def run (w : World N K V) (events : List (WorldEvent N K)) : World N K V :=
  events.foldl after w

end

end World

/-! ## The invariant -/

variable [Zero K] [One K] [Add K] [BEq K] [Numeral N K]

namespace World

/-- What holds in every world of a run. -/
structure Coherent (w : World N K V) : Prop where
  closed : w.model.Closed
  linked : w.linked.Coherent w.model

theorem coherent_start (id : Nat) (name : Option String) (shelf : List (InMemory N K))
    (settings : Option (InMemory.Settings N)) :
    (start id name shelf settings : World N K V).Coherent := by
  refine ⟨Model.closed_empty id name, ⟨?_, ?_⟩, ?_⟩
  · intro b hb
    obtain ⟨c, -, rfl⟩ := List.mem_map.1 hb
    exact ⟨c, rfl⟩
  · intro source hs
    obtain ⟨s, -, rfl⟩ := Option.map_eq_some_iff.1 hs
    exact ⟨s, rfl⟩
  · exact fun _ none => nomatch none

end World

/-- An edit that changes the model leaves what was built behind. -/
theorem Linked.Coherent.edit {m t : Model N K} {l : Linked N K V} (h : l.Coherent m)
    (steps : m.Steps t) : l.Coherent t := by
  refine ⟨h.only, fun revision hr => ?_⟩
  obtain ⟨low, built⟩ := h.built revision hr
  rcases steps.raises with rfl | later
  · exact ⟨low, built⟩
  · exact ⟨by omega, fun same => by omega⟩

/-- Writing to a backend that is not attached leaves the attached one as it is. -/
theorem Linked.Coherent.write {m : Model N K} {l : Linked N K V} (h : l.Coherent m) {number : Nat}
    (other : l.attachment.backend ≠ some number) (b : InMemory N K) :
    Linked.Coherent (V := V) ⟨l.workshop.put number (.inMemory b), l.attachment⟩ m := by
  refine ⟨h.only.put number b rfl, fun revision hr => ⟨(h.built revision hr).1, ?_⟩⟩
  intro current number' hn
  obtain ⟨d, hd, built⟩ := (h.built revision hr).2 current number' hn
  have apart : number ≠ number' := fun same => other (same ▸ hn)
  refine ⟨d, ?_, built⟩
  change (l.workshop.backends.set number _)[number']? = _
  rw [List.getElem?_set_ne apart, hd]

namespace World

section

variable [Sub K] [Mul K] [Neg K] [Div K] [LT K] [DecidableLT K]
variable [TextNumber K] [OperatorMeaning K] [CheckedArithmetic N K V]

/-- No event breaks the invariant. -/
theorem Coherent.after {w : World N K V} (h : w.Coherent) (event : WorldEvent N K) :
    (w.after event).Coherent := by
  have fresh (settings : Option (InMemory.Settings N)) : ∀ source : BackendSource N,
      settings.map (fun s => BackendSource.fresh (BackendSpec.inMemory s)) = some source →
      ∃ settings, source = .fresh (.inMemory settings) := by
    intro source hs
    obtain ⟨s, -, rfl⟩ := Option.map_eq_some_iff.1 hs
    exact ⟨s, rfl⟩
  have link {α : Type} {op : Link N K V α}
      (kept : Leaves op w.linked (fun _ t => t.Coherent w.model)) : (w.link op).Coherent :=
    ⟨h.closed, kept⟩
  cases event with
  | edit call =>
    have steps := call.steps w.model
    exact ⟨steps.follows.closed h.closed, h.linked.edit steps⟩
  | attach settings => exact link (Attachment.attach_leaves h.linked (fresh settings))
  | setSource settings => exact link (Attachment.setSource_leaves h.linked (fresh settings))
  | adopt number => exact link (Attachment.adopt_leaves h.linked number)
  | detach => exact link (Attachment.detach_leaves h.linked)
  | ensureSynced => exact link (Attachment.ensureSynced_leaves h.linked)
  | solve => exact link (Attachment.solve_leaves h.linked)
  | inject number i =>
    rw [World.after]
    split
    next b stands =>
      split
      next c injected =>
        -- an injection writes the solution alone, so what is loaded still stands there
        have kept := InMemory.inject_sameProblem injected
        exact ⟨h.closed, h.linked.withSolution (inMemory?_eq_some.1 stands) kept _⟩
      next => exact h
    next => exact h
  | provide b => exact ⟨h.closed, h.linked.withBackend b⟩
  | write number b =>
    rw [World.after]
    split
    next => exact h
    next other => exact ⟨h.closed, h.linked.write other b⟩

theorem Coherent.run {w : World N K V} (h : w.Coherent) (events : List (WorldEvent N K)) :
    (w.run events).Coherent := by
  induction events generalizing w with
  | nil => exact h
  | cons event events ih => exact ih (h.after event)

end

end World

/-! ## Agreement -/

/-- The operands that are variables or constraints of the model. -/
def Model.IsReference (m : Model N K) : Operand N K → Prop
  | .expression (.var v) => m.owns v
  | .constraint c => c.model = m.id ∧ c.index < m.constraints.length
  | _ => False

/-- An attached backend shows the model, and the handles of the model lead into it. -/
structure Attachment.Agrees (a : Attachment N K) (m : Model N K) (b : InMemory N K)
    (r : Representation N K) : Prop where
  represented : m.represent = .ok r
  accepted : a.hasObjective = b.accepts r.objective
  /-- An objective that was taken can be shown; one that was there before only if it is a function
  of the variables that are there now. -/
  shows : (∃ shown, b.representation = .ok shown) ↔ a.hasObjective ∨
    b.problem.objective.family ≠ .number ∧
      ∀ v ∈ b.problem.objective.support, 1 ≤ v ∧ v ≤ m.vars.length
  shown : ∀ shown, b.representation = .ok shown →
    shown.variableNames = r.variableNames ∧ shown.constraints = r.constraints ∧
      (a.hasObjective → shown.sense = r.sense ∧ shown.objective = r.objective)
  handles : ∀ o, (∃ handle, a.handle m o = .ok handle) ↔ m.IsReference o
  distinct : ∀ o o' handle, a.handle m o = .ok handle → a.handle m o' = .ok handle → o = o'
  /-- Functions are written with the numbers that the handles of the variables give. -/
  renamed : ∀ v number, a.handle m (.expression (.var v)) = .ok (.var number) →
    Handles.number a.handleMap.handles.vars v.index = number
  entries : ∀ c handle, a.handle m (.constraint c) = .ok (.constraint handle) →
    ∃ d e, m.constraintData? c = some d ∧ d.toEntry = .ok e ∧
      b.problem.constraints.lookup handle
        = some ⟨d.name, e.function.mapVariables (Handles.number a.handleMap.handles.vars), d.set⟩

omit [One K] [Numeral N K] in
theorem InMemory.exists_positioned {n : Nat} {f : Function K} :
    (∃ g, InMemory.positioned n f = .ok g) ↔
      f.family ≠ .number ∧ ∀ v ∈ f.support, 1 ≤ v ∧ v ≤ n := by
  have inside : f.support.all (fun v => 1 ≤ v && v ≤ n) = true ↔
      ∀ v ∈ f.support, 1 ≤ v ∧ v ≤ n := by
    simp [List.all_eq_true]
  unfold InMemory.positioned
  split
  next => simp [Function.family]
  next notNumber =>
    have family : f.family ≠ .number := by
      cases f with
      | number c => exact absurd rfl (notNumber c)
      | _ => simp [Function.family]
    split
    next h => exact ⟨fun _ => ⟨family, inside.1 h⟩, fun _ => ⟨_, rfl⟩⟩
    next h =>
      constructor
      · rintro ⟨_, same⟩
        cases same
      · rintro ⟨_, all⟩
        exact absurd (inside.2 all) h

namespace Attachment

section Handles

omit [Zero K] [One K] [Add K] [BEq K] [Numeral N K]

variable {a : Attachment N K} {m : Model N K} (synced : a.handleMap.revision = some m.revision)

include synced

theorem handle_var {v : VariableRef} {handle : Handle} :
    a.handle m (.expression (.var v)) = .ok handle ↔
      v.model = m.id ∧ ∃ number, a.handleMap.handles.vars[v.index]? = some number ∧
        handle = .var number := by
  unfold Attachment.handle
  simp only [synced, ne_eq, not_true_eq_false, ↓reduceIte]
  split
  next foreign => simp [foreign]
  next own =>
    have own : v.model = m.id := by simpa using own
    cases a.handleMap.handles.vars[v.index]? <;> simp [own, eq_comm]

theorem handle_constraint {c : ConstraintRef} {handle : Handle} :
    a.handle m (.constraint c) = .ok handle ↔
      c.model = m.id ∧ ∃ given, a.handleMap.handles.constraints[c.index]? = some given ∧
        handle = .constraint given := by
  unfold Attachment.handle
  simp only [synced, ne_eq, not_true_eq_false, ↓reduceIte]
  split
  next foreign => simp [foreign]
  next own =>
    have own : c.model = m.id := by simpa using own
    cases a.handleMap.handles.constraints[c.index]? <;> simp [own, eq_comm]

/-- Nothing but a variable or a constraint has a handle. -/
theorem reference_of_handle {o : Operand N K} {handle : Handle} (h : a.handle m o = .ok handle) :
    (∃ v, o = .expression (.var v)) ∨ ∃ c, o = .constraint c := by
  unfold Attachment.handle at h
  simp only [synced, ne_eq, not_true_eq_false, ↓reduceIte] at h
  split at h
  next v => exact .inl ⟨v, rfl⟩
  next c => exact .inr ⟨c, rfl⟩
  next => cases h

end Handles

section Built

variable {a : Attachment N K} {m : Model N K} {b : InMemory N K} {r : Representation N K}
variable (represented : m.represent = .ok r)
variable (holds : b.Holds r a.handleMap.handles a.hasObjective)

include represented in
theorem length_variableNames : r.variableNames.length = m.vars.length := by
  simp [(Model.represent_eq_ok.1 represented).1]

include represented holds

theorem number_of_variable {i number : Nat} :
    a.handleMap.handles.vars[i]? = some number ↔ i < m.vars.length ∧ number = i + 1 := by
  rw [holds.vars, length_variableNames represented, List.getElem?_eq_some_iff]
  simp [Nat.add_comm, eq_comm]

theorem exists_constraintHandle {i : Nat} :
    (∃ handle, a.handleMap.handles.constraints[i]? = some handle) ↔ i < m.constraints.length := by
  have constraints := (Model.represent_eq_ok.1 represented).2.2.2
  rw [constraints.length_eq, ← holds.constraints_length]
  exact ⟨fun ⟨_, h⟩ => (List.getElem?_eq_some_iff.1 h).1,
    fun h => ⟨_, List.getElem?_eq_getElem h⟩⟩

/-- The handle of a constraint finds what was written for it. -/
theorem entry_of_constraintHandle {i : Nat} {handle : ConstraintHandle}
    (h : a.handleMap.handles.constraints[i]? = some handle) :
    ∃ d e, m.constraints[i]? = some d ∧ d.toEntry = .ok e ∧
      b.problem.constraints.lookup handle
        = some (Backend.numberedEntry a.handleMap.handles.vars e) := by
  obtain ⟨e, he, found⟩ := holds.lookup h
  obtain ⟨inside, rfl⟩ := List.getElem?_eq_some_iff.1 he
  obtain ⟨same, each⟩ :=
    List.forall₂_iff_get.1 (Model.represent_eq_ok.1 represented).2.2.2
  have inside' : i < m.constraints.length := by omega
  exact ⟨_, _, List.getElem?_eq_getElem inside', each i inside' inside, found⟩

/-- A backend that was built shows itself unless an objective from before is in the way. -/
theorem shows_iff [ZeroStart K] (closed : m.Closed) :
    (∃ shown, b.representation = .ok shown) ↔ a.hasObjective ∨
      b.problem.objective.family ≠ .number ∧
        ∀ v ∈ b.problem.objective.support, 1 ≤ v ∧ v ≤ m.vars.length := by
  have tidy := closed.tidy represented
  have showable : (∃ shown, b.representation = .ok shown) ↔
      ∃ f, InMemory.positioned r.variableNames.length b.problem.objective = .ok f := by
    rw [holds.representation_eq tidy]
    cases InMemory.positioned r.variableNames.length b.problem.objective <;> simp [Except.map]
  rw [← length_variableNames represented, ← InMemory.exists_positioned, showable]
  constructor
  · exact .inr
  · rintro (taken | fits)
    · exact ⟨_, holds.positioned_objective tidy taken⟩
    · exact fits

theorem shown_eq [ZeroStart K] (closed : m.Closed) {shown : Representation N K}
    (hs : b.representation = .ok shown) :
    shown.variableNames = r.variableNames ∧ shown.constraints = r.constraints ∧
      (a.hasObjective → shown.sense = r.sense ∧ shown.objective = r.objective) := by
  have tidy := closed.tidy represented
  rw [holds.representation_eq tidy] at hs
  obtain ⟨objective, ho, rfl⟩ := Fallible.map_eq_ok.1 hs
  refine ⟨rfl, rfl, fun taken => ⟨(holds.objective taken).1, ?_⟩⟩
  rw [holds.positioned_objective tidy taken] at ho
  exact (Except.ok.inj ho).symm

variable (synced : a.handleMap.revision = some m.revision)

include synced

/-- Exactly the references of the model have handles. -/
theorem exists_handle_iff (o : Operand N K) :
    (∃ handle, a.handle m o = .ok handle) ↔ m.IsReference o := by
  constructor
  · rintro ⟨handle, h⟩
    rcases reference_of_handle synced h with ⟨v, rfl⟩ | ⟨c, rfl⟩
    · obtain ⟨own, number, hn, -⟩ := (handle_var synced).1 h
      have index := (number_of_variable represented holds).1 hn
      simp [Model.IsReference, Model.owns, own, index.1]
    · obtain ⟨own, handle, hh, -⟩ := (handle_constraint synced).1 h
      exact ⟨own, (exists_constraintHandle represented holds).1 ⟨_, hh⟩⟩
  · intro h
    unfold Model.IsReference at h
    split at h
    next v =>
      simp only [Model.owns, Bool.and_eq_true, beq_iff_eq, decide_eq_true_eq] at h
      have number := (number_of_variable represented holds).2 ⟨h.2, rfl⟩
      exact ⟨_, (handle_var synced).2 ⟨h.1, _, number, rfl⟩⟩
    next c =>
      obtain ⟨handle, hh⟩ := (exists_constraintHandle represented holds).2 h.2
      exact ⟨_, (handle_constraint synced).2 ⟨h.1, _, hh, rfl⟩⟩
    next => exact h.elim

theorem handle_injective {o o' : Operand N K} {handle : Handle} (h : a.handle m o = .ok handle)
    (h' : a.handle m o' = .ok handle) : o = o' := by
  -- a variable and a constraint have handles of different kinds; within a kind, the handle gives
  -- the place in the list back
  rcases reference_of_handle synced h with ⟨v, rfl⟩ | ⟨c, rfl⟩ <;>
    rcases reference_of_handle synced h' with ⟨v', rfl⟩ | ⟨c', rfl⟩
  · obtain ⟨own, number, hn, rfl⟩ := (handle_var synced).1 h
    obtain ⟨own', number', hn', same⟩ := (handle_var synced).1 h'
    obtain rfl := Handle.var.inj same
    have first := ((number_of_variable represented holds).1 hn).2
    have second := ((number_of_variable represented holds).1 hn').2
    have index : v.index = v'.index := by omega
    cases v
    cases v'
    simp_all
  · obtain ⟨_, _, _, rfl⟩ := (handle_var synced).1 h
    obtain ⟨_, _, _, same⟩ := (handle_constraint synced).1 h'
    cases same
  · obtain ⟨_, _, _, rfl⟩ := (handle_constraint synced).1 h
    obtain ⟨_, _, _, same⟩ := (handle_var synced).1 h'
    cases same
  · obtain ⟨own, handle, hh, rfl⟩ := (handle_constraint synced).1 h
    obtain ⟨own', handle', hh', same⟩ := (handle_constraint synced).1 h'
    obtain rfl := Handle.constraint.inj same
    have index : c.index = c'.index :=
      (List.getElem?_inj (List.getElem?_eq_some_iff.1 hh).1 holds.nodup).1 (hh.trans hh'.symm)
    cases c
    cases c'
    simp_all

/-- What was built from the model as it is now agrees with it. -/
theorem agrees [ZeroStart K] (closed : m.Closed) : a.Agrees m b r where
  represented := represented
  accepted := holds.accepted
  shows := shows_iff represented holds closed
  shown _ := shown_eq represented holds closed
  handles := exists_handle_iff represented holds synced
  distinct _ _ _ := handle_injective represented holds synced
  renamed v number h := by
    obtain ⟨own, number', hn, same⟩ := (handle_var synced).1 h
    obtain rfl := Handle.var.inj same
    simp [Handles.number, List.getD_eq_getElem?_getD, hn]
  entries c handle h := by
    obtain ⟨own, handle', hh, same⟩ := (handle_constraint synced).1 h
    obtain rfl := Handle.constraint.inj same
    obtain ⟨d, e, hd, he, found⟩ := entry_of_constraintHandle represented holds hh
    obtain ⟨name, set, -⟩ := ConstraintData.toEntry_eq_ok.1 he
    refine ⟨d, e, ?_, he, ?_⟩
    · rw [Model.constraintData?, if_pos own, hd]
    · rw [found, ← name, ← set]
      rfl

end Built

end Attachment

/-! ## Runs agree -/

namespace World

variable [Sub K] [Mul K] [Neg K] [Div K] [LT K] [DecidableLT K]
variable [TextNumber K] [OperatorMeaning K] [CheckedArithmetic N K V]

omit [One K] [Sub K] [Mul K] [Neg K] [Div K] [LT K] [DecidableLT K] [TextNumber K]
  [OperatorMeaning K] [CheckedArithmetic N K V] [Add K] [BEq K] [Numeral N K] [Zero K] in
theorem attached_of_state {w : World N K V} (h : w.state = .clean ∨ w.state = .solved) :
    (∃ number, w.attachment.backend = some number) ∧
      w.attachment.handleMap.revision = some w.model.revision := by
  unfold state Attachment.state Attachment.isSynced at h
  cases hb : w.attachment.backend with
  | none => simp [hb] at h
  | some number =>
    refine ⟨⟨number, rfl⟩, ?_⟩
    by_contra stale
    simp [hb, stale] at h

/-- After every run, an attachment that is up to date has a backend that shows the model as it is
now. Only an objective that the backend did not take can be hidden by one that was there before. -/
theorem run_agrees [ZeroStart K] (id : Nat) (name : Option String) (shelf : List (InMemory N K))
    (settings : Option (InMemory.Settings N)) (events : List (WorldEvent N K)) (w : World N K V)
    (reached : w = (start id name shelf settings).run events)
    (current : w.state = .clean ∨ w.state = .solved) :
    ∃ number b r, w.attachment.backend = some number ∧ w.inMemory? number = some b ∧
      w.attachment.Agrees w.model b r := by
  have coherent : w.Coherent := reached ▸ (coherent_start id name shelf settings).run events
  obtain ⟨⟨number, attached⟩, synced⟩ := attached_of_state current
  obtain ⟨b, stands, r, represented, holds⟩ :=
    (coherent.linked.built _ synced).2 rfl number attached
  exact ⟨number, b, r, attached, inMemory?_eq_some.2 stands,
    Attachment.agrees represented holds synced coherent.closed⟩

/-- A backend without variables and constraints, which counts as empty, but with an objective over
its second variable. -/
def leftover : InMemory Number Float :=
  (InMemory.new .standard).setObjective .minimize (.affine ⟨[(2, 1)], 0⟩)

/-- The backend with the leftover is adopted for a model whose objective it does not take. -/
def leftoverRun : World Number Float Quantity :=
  (start 0 none [leftover] none).run
    [.edit (.addVariable (.named (some "x"))),
      .edit (.setNonlinearObjective (some .minimize) (.expression (.nonlinear .sin [.var ⟨0, 0⟩]))),
      .adopt 0]

/-- The attachment is up to date, and yet the backend cannot show itself. -/
theorem run_agrees_leftover :
    leftoverRun.state = .clean ∧
    (∃ number b r, leftoverRun.attachment.backend = some number ∧
      leftoverRun.inMemory? number = some b ∧
      leftoverRun.attachment.Agrees leftoverRun.model b r) ∧
    ∃ b, leftoverRun.inMemory? 0 = some b ∧ b.representation = .error .unknown :=
  ⟨rfl, run_agrees 0 none [leftover] none _ leftoverRun rfl (.inl rfl), _, rfl, rfl⟩

end World

end MathProg
