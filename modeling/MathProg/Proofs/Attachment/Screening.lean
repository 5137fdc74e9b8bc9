import MathProg.Proofs.Attachment.Takeover
import MathProg.Proofs.Backend.Settings
import MathProg.Proofs.Number.FloatLaws

/-!
# Screening

Before a backend is written to, it is asked about every constraint of the model. A backend that is
refused has not been touched, and the attachment is what it was.
-/

namespace MathProg

variable {N K V : Type}

/-! ## The check -/

namespace Backend

/-- The check is a search for the first pair that is not supported: skipping a pair that was seen
before changes nothing, because all that were seen are supported. -/
theorem firstUnsupported_eq_find? (b : Backend N K V) (seen pairs : List (FunctionFamily × SetFamily))
    (supported : ∀ pair ∈ seen, b.supportsConstraint pair.1 pair.2) :
    b.firstUnsupported seen pairs
      = pairs.find? (fun pair => !b.supportsConstraint pair.1 pair.2) := by
  induction pairs generalizing seen with
  | nil => rfl
  | cons pair pairs ih =>
    rw [firstUnsupported]
    by_cases old : pair ∈ seen
    · rw [if_pos old, ih seen supported, List.find?_cons_of_neg]
      simp [supported pair old]
    · rw [if_neg old]
      by_cases fits : b.supportsConstraint pair.1 pair.2
      · rw [if_pos fits, List.find?_cons_of_neg (by simp [fits])]
        apply ih
        intro other member
        rcases List.mem_cons.1 member with rfl | member
        · exact fits
        · exact supported other member
      · rw [if_neg fits, List.find?_cons_of_pos (by simp [fits])]

/-- Whether the backend supports every constraint of a representation. -/
def SupportsAll (b : Backend N K V) (r : Representation N K) : Prop :=
  ∀ e ∈ r.constraints, b.supportsConstraint e.function.family e.set.family

theorem unsupported?_eq_none {b : Backend N K V} {r : Representation N K} :
    b.unsupported? r = none ↔ b.SupportsAll r := by
  rw [unsupported?, firstUnsupported_eq_find? b [] _ (fun _ none => nomatch none)]
  simp [SupportsAll, Entry.families]

theorem unsupported?_eq_some {b : Backend N K V} {r : Representation N K}
    {function : FunctionFamily} {set : SetFamily} (h : b.unsupported? r = some (function, set)) :
    b.supportsConstraint function set = false ∧ ∃ e ∈ r.constraints, e.families = (function, set) := by
  rw [unsupported?, firstUnsupported_eq_find? b [] _ (fun _ none => nomatch none)] at h
  constructor
  · simpa using List.find?_some h
  · simpa using List.mem_of_find?_eq_some h

end Backend

/-! ## Afterwards -/

/-- Where an attachment stands after a load of the model: the attached backend supports every
constraint that it was given. -/
def Linked.Screened (l : Linked N K V) (r : Representation N K) : Prop :=
  ∃ number b, l.attachment.backend = some number ∧ l.workshop.backends[number]? = some b ∧
    l.attachment.handleMap.handles.constraints.map (fun handle => (handle.function, handle.set))
      = r.constraints.map Entry.families ∧
    ∀ handle ∈ l.attachment.handleMap.handles.constraints,
      b.supportsConstraint handle.function handle.set

section

variable [Zero K] [One K] [Add K] [BEq K] [LT K] [DecidableLT K] [Numeral N K]
variable [CheckedArithmetic N K V] {m : Model N K} {l : Linked N K V} {t : Takeover N}
variable {r : Representation N K} {b : Backend N K V}

namespace Takeover

omit [One K] [Add K] [BEq K] [LT K] [DecidableLT K] [Numeral N K] [CheckedArithmetic N K V] in
theorem spec_prepared (t : Takeover N) : (t.prepared b).spec = b.spec := by
  cases t with
  | attach source => rfl
  | adopt number =>
    show (if b.isEmpty then b else b.clear).spec = b.spec
    split
    · rfl
    · exact b.spec_clear

/-- A takeover is refused if its backend does not support some constraint. -/
theorem exists_refusal (represented : m.represent = .ok r)
    (offered : t.offered? l.workshop = some b) (lacks : ¬ b.SupportsAll r) :
    ∃ function set, (t.op m).run.run l = (.error (.unsupportedConstraint b.name function set),
      { l with workshop := t.workshop l.workshop }) := by
  rw [← Backend.unsupported?_eq_none] at lacks
  obtain ⟨⟨function, set⟩, refused⟩ := Option.ne_none_iff_exists'.1 lacks
  exact ⟨function, set, run_refused represented offered refused⟩

/-- A backend that has been loaded supports what it was loaded with. -/
theorem screened [ZeroStart K] (closed : m.Closed) (h : ((t.op m).run.run l).1 = .ok ()) :
    ∃ r, m.represent = .ok r ∧ ((t.op m).run.run l).2.Screened r := by
  obtain ⟨r, b, c, x, represented, offered, passes, completes⟩ := exists_of_ok h
  have families := Backend.families_load (closed.tidy represented) completes
  have supports : c.supportsConstraint = b.supportsConstraint := by
    apply Backend.supportsConstraint_congr
    calc c.spec = ((t.prepared b).load r).1.spec := by rw [completes]
      _ = (t.prepared b).spec := Backend.spec_load _ r
      _ = b.spec := spec_prepared t
  refine ⟨r, represented, ?_⟩
  rw [run_loaded represented offered passes completes]
  refine ⟨t.number l.workshop, c, rfl, Workshop.getElem?_put offered, families, ?_⟩
  intro handle member
  -- every handle was given for an entry, and the backend was asked about its families
  obtain ⟨e, he, same⟩ := List.mem_map.1 (families ▸ List.mem_map_of_mem member)
  have checked := Backend.unsupported?_eq_none.1 passes e he
  rw [supports]
  obtain ⟨function, set⟩ := Prod.mk.inj same
  rw [← function, ← set]
  exact checked

end Takeover

end

/-! ## Requests -/

namespace LoadRequest

variable [Zero K] [One K] [Add K] [Sub K] [Mul K] [Neg K] [Div K] [BEq K] [LT K] [DecidableLT K]
variable [TextNumber K] [OperatorMeaning K] [Numeral N K] [CheckedArithmetic N K V]
variable {m : Model N K} {l : Linked N K V} {q : LoadRequest N}

omit [Zero K] [One K] [Add K] [Sub K] [Mul K] [Neg K] [Div K] [BEq K] [LT K] [DecidableLT K]
  [TextNumber K] [OperatorMeaning K] [Numeral N K] [CheckedArithmetic N K V] in
/-- Looking whether the objective is taken gives the number of a backend, or an error of its own. -/
theorem checkObjective_leaves : Leaves (Attachment.checkObjective m) l (fun result s => s = l ∧
    (∀ number, result = .ok number → ∃ b, l.workshop.backends[number]? = some b) ∧
    ∀ taker function set, result ≠ .error (.unsupportedConstraint taker function set)) := by
  unfold Attachment.checkObjective Attachment.attached
  simp only [Leaves.bind_iff, Leaves.attachment_iff]
  cases l.attachment.backend with
  | none => simp
  | some number =>
    simp only [Leaves.pure_iff, Leaves.backend_iff]
    cases stands : l.workshop.backends[number]? with
    | none => simp
    | some b =>
      simp only
      split
      · simp
      · simp only [Leaves.bind_iff, Leaves.attachment_iff]
        split
        · simp
        · simp [stands]

omit [BEq K] in
/-- A call touches nothing that was loaded. -/
theorem screened_called {number : Nat} {b : Backend N K V}
    (stands : l.workshop.backends[number]? = some b) {r : Representation N K} (h : l.Screened r) :
    ((Attachment.conclude m number).run.run l).2.Screened r := by
  obtain ⟨number', c, attached, stands', families, supported⟩ := h
  rw [Attachment.conclude_run stands]
  have loaded := ((l.outcome m b).keep_backend m.revision l.attachment).trans attached
  have handleMap := (l.outcome m b).keep_handleMap m.revision l.attachment
  by_cases here : number = number'
  · subst here
    obtain rfl : b = c := Option.some.inj (stands.symm.trans stands')
    refine ⟨number, (b.solve l.workshop.solver).1, loaded, Workshop.getElem?_put stands, ?_, ?_⟩
    · rw [handleMap, families]
    · rw [handleMap, Backend.supportsConstraint_congr (b.spec_solve l.workshop.solver)]
      exact supported
  · refine ⟨number', c, loaded, ?_, ?_, ?_⟩
    · exact (List.getElem?_set_ne here).trans stands'
    · rw [handleMap, families]
    · rw [handleMap]
      exact supported

omit [BEq K] in
/-- What follows a load neither reports a constraint nor touches what was loaded. -/
theorem rest_leaves (q : LoadRequest N) : Leaves (q.rest m) l (fun result s =>
    (∀ taker function set, result ≠ .error (.unsupportedConstraint taker function set)) ∧
    ∀ r : Representation N K, l.Screened r → s.Screened r) := by
  cases q with
  | solve =>
    unfold rest
    rw [Leaves.bind_iff]
    refine (checkObjective_leaves (m := m) (l := l)).mono fun result s h => ?_
    obtain ⟨rfl, found, other⟩ := h
    cases result with
    | error e =>
      refine ⟨fun taker function set same => ?_, fun r h => h⟩
      exact other taker function set (congrArg Except.error (Except.error.inj same))
    | ok number =>
      obtain ⟨b, stands⟩ := found number rfl
      refine ⟨fun taker function set same => ?_, fun r h => screened_called stands h⟩
      have result : ((Attachment.conclude m number).run.run s).1 = (s.outcome m b).result :=
        congrArg Prod.fst (Attachment.conclude_run stands)
      rw [result] at same
      cases outcome : s.outcome m b <;> rw [outcome] at same <;> cases same
  | _ => exact ⟨fun _ _ _ none => (nomatch none), fun r h => h⟩

/-- Nothing is done after a takeover that has failed. -/
theorem run_of_error {t : Takeover N} (taken : q.takeover? m l.attachment = some t)
    {e : AttachmentError} {s : Linked N K V} (h : (t.op m).run.run l = (.error e, s)) :
    (q.op m).run.run l = (.error e, s) := by
  rw [run_eq taken]
  exact Link.run_bind_error h

/-- A refusal for a constraint comes from the takeover, and from nothing before or after it. -/
theorem exists_takeover_of_unsupported {taker : String} {function : FunctionFamily} {set : SetFamily}
    (h : ((q.op m).run.run l).1 = .error (.unsupportedConstraint taker function set)) :
    ∃ t, q.takeover? m l.attachment = some t ∧
      ((t.op m).run.run l).1 = .error (.unsupportedConstraint taker function set) := by
  cases taken : q.takeover? m l.attachment with
  | none =>
    -- obstacles and what follows a load report other errors
    exfalso
    rw [run_none taken] at h
    split at h
    next e obstacle =>
      cases h
      simpa using obstacle?_cases obstacle
    next => exact (rest_leaves q).1 _ _ _ h
  | some t =>
    refine ⟨t, rfl, ?_⟩
    rw [run_eq taken] at h
    cases first : (t.op m).run.run l with
    | mk result s =>
      cases result with
      | error e =>
        rw [Link.run_bind_error first] at h
        exact h
      | ok u =>
        rw [Link.run_bind_ok first] at h
        exact absurd h ((rest_leaves q).1 _ _ _)

/-- For every attachment, every model that has come about by calls, and every request that may load a
backend: the request is refused for a constraint exactly if it comes to a takeover whose backend does
not support some constraint of the model. Then it names the backend and a pair of families that the
backend does not support, the attachment is what it was, and so is everything on the shelf, where the
refused backend stands as it was offered. A load that completes leaves a backend attached that
supports every constraint it was given. -/
theorem run_screened [ZeroStart K] (id : Nat) (name : Option String)
    (calls : List (ModelCall N K)) (m : Model N K)
    (reached : m = ModelCall.afterAll calls (.empty id name)) (l : Linked N K V)
    (q : LoadRequest N) :
    ((∃ taker function set,
        ((q.op m).run.run l).1 = .error (.unsupportedConstraint taker function set)) ↔
      ∃ t r b, q.takeover? m l.attachment = some t ∧ m.represent = .ok r ∧
        t.offered? l.workshop = some b ∧ ¬ b.SupportsAll r) ∧
    (∀ taker function set,
      ((q.op m).run.run l).1 = .error (.unsupportedConstraint taker function set) →
      ∃ t r b, q.takeover? m l.attachment = some t ∧ m.represent = .ok r ∧
        t.offered? l.workshop = some b ∧ taker = b.name ∧
        b.supportsConstraint function set = false ∧
        (∃ e ∈ r.constraints, e.families = (function, set)) ∧
        ((q.op m).run.run l).2 = { l with workshop := t.workshop l.workshop }) ∧
    (∀ t, q.takeover? m l.attachment = some t → ((t.op m).run.run l).1 = .ok () →
      ∃ r, m.represent = .ok r ∧ ((q.op m).run.run l).2.Screened r) := by
  have closed : m.Closed := by
    rw [reached]
    exact (ModelCall.follows_afterAll calls _).closed (Model.closed_empty id name)
  refine ⟨⟨?_, ?_⟩, ?_, ?_⟩
  · rintro ⟨taker, function, set, h⟩
    obtain ⟨t, taken, refused⟩ := exists_takeover_of_unsupported h
    obtain ⟨r, b, represented, offered, -, lacks⟩ := Takeover.exists_of_unsupported refused
    refine ⟨t, r, b, taken, represented, offered, ?_⟩
    rw [← Backend.unsupported?_eq_none, lacks]
    simp
  · rintro ⟨t, r, b, taken, represented, offered, lacks⟩
    obtain ⟨function, set, run⟩ := Takeover.exists_refusal represented offered lacks
    exact ⟨b.name, function, set, congrArg Prod.fst (run_of_error taken run)⟩
  · intro taker function set h
    obtain ⟨t, taken, refused⟩ := exists_takeover_of_unsupported h
    obtain ⟨r, b, represented, offered, name, lacks⟩ := Takeover.exists_of_unsupported refused
    obtain ⟨refuses, member⟩ := Backend.unsupported?_eq_some lacks
    have run := run_of_error taken (Takeover.run_refused represented offered lacks)
    exact ⟨t, r, b, taken, represented, offered, name, refuses, member, congrArg Prod.snd run⟩
  · intro t taken completes
    obtain ⟨r, represented, screened⟩ := Takeover.screened closed completes
    refine ⟨r, represented, ?_⟩
    have first : (t.op m).run.run l = (.ok (), ((t.op m).run.run l).2) := Prod.ext completes rfl
    rw [run_eq taken, Link.run_bind_ok first]
    exact (rest_leaves q).2 r screened

/-- A source of backends that support no constraint at all. -/
def pickySource : BackendSource Number :=
  .fresh (.inMemory { InMemory.Settings.standard with supportedConstraints := some [] })

/-- An integer variable is refused by such a backend, here on the way to a solve. -/
theorem run_screened_integer :
    let m : Model Number Float :=
      ModelCall.afterAll [.addVariable ⟨some "x", none, none, none, true, false⟩] (.empty 0 none)
    let l : Linked Number Float Quantity := ⟨.empty, .new (some pickySource)⟩
    ((op m solve).run.run l).1 = .error (.unsupportedConstraint "mock" .var .integer) ∧
    ∃ t r b, takeover? m l.attachment solve = some t ∧ m.represent = .ok r ∧
      t.offered? l.workshop = some b ∧ b.supportsConstraint .var .integer = false ∧
      ((op m solve).run.run l).2 = { l with workshop := t.workshop l.workshop } := by
  intro m l
  have refused : ((op m solve).run.run l).1
      = .error (.unsupportedConstraint "mock" .var .integer) := rfl
  obtain ⟨-, untouched, -⟩ := run_screened 0 none _ m rfl l .solve
  obtain ⟨t, r, b, taken, represented, offered, -, lacks, -, left⟩ := untouched _ _ _ refused
  exact ⟨refused, t, r, b, taken, represented, offered, lacks, left⟩

end LoadRequest

end MathProg
