import MathProg.Proofs.Attachment.Stages

/-!
# Taking over a backend

A backend is built from a source or adopted, and is then loaded. What becomes of the attachment and
of the shelf is decided by three questions: whether there is a backend at all, whether it supports
every constraint, and whether its load completes.
-/

namespace MathProg

variable {N K V : Type}

namespace Link

variable {α β : Type} {op op' : Link N K V α} {next : α → Link N K V β} {l : Linked N K V}

theorem run_discard : (discard op : Link N K V Unit).run.run l
    = ((op.run.run l).1.map (fun _ => ()), (op.run.run l).2) := by
  show ((fun _ => ()) <$> op : Link N K V Unit).run.run l = _
  simp only [ExceptT.run_map, StateT.run_map]
  rfl

theorem run_bind_pure {op : Link N K V Unit} :
    (op >>= fun _ => pure ()).run.run l = op.run.run l :=
  congrArg (fun op : Link N K V Unit => op.run.run l) (bind_pure op)

theorem run_bind_congr (h : op.run.run l = op'.run.run l) :
    (op >>= next).run.run l = (op' >>= next).run.run l := by
  simp only [ExceptT.run_bind, StateT.run_bind, h]

end Link

/-- A way to get a backend: from a source, or one that is handed in. -/
inductive Takeover (N : Type) where
  | attach (source : BackendSource N)
  | adopt (number : Nat)

/-- What a caller can ask for that may end in a load. -/
inductive LoadRequest (N : Type) where
  | attach (source : Option (BackendSource N))
  | adopt (number : Nat)
  | ensureSynced
  | solve

namespace Takeover

/-- Where the backend comes from. -/
def source : Takeover N → BackendSource N
  | attach source => source
  | adopt number => .existing number

/-- What is remembered of a backend that has passed the check. -/
def note (a : Attachment N K) : Takeover N → Attachment N K
  | attach source => { a with source := some source, isAdopted := false }
  | adopt _ => { a with isAdopted := true }

/-- The number of the backend. -/
def number [Zero K] (w : Workshop N K V) (t : Takeover N) : Nat :=
  (w.obtain t.source).1

/-- The workshop with the backend in it. -/
def workshop [Zero K] (w : Workshop N K V) (t : Takeover N) : Workshop N K V :=
  (w.obtain t.source).2

/-- The backend as it is offered. -/
def offered? [Zero K] (w : Workshop N K V) (t : Takeover N) : Option (Backend N K V) :=
  (t.workshop w).backends[t.number w]?

/-- The backend as it is when the load begins. -/
def prepared [Zero K] (b : Backend N K V) : Takeover N → Backend N K V
  | attach _ => b
  | adopt _ => if b.isEmpty then b else b.clear

/-- The attachment with a backend that has been loaded. -/
def loaded [Zero K] (w : Workshop N K V) (a : Attachment N K) (m : Model N K) (t : Takeover N)
    (x : Loaded) : Attachment N K :=
  { t.note a with
    backend := some (t.number w)
    hasObjective := x.hasObjective
    solvedRevision := none
    results := .none
    handleMap := ⟨x.handles, some m.revision⟩ }

/-- The attachment after a load that has failed. -/
def failed (a : Attachment N K) (t : Takeover N) : Attachment N K :=
  { t.note a with handleMap := .none }

variable [Zero K] [One K] [Add K] [BEq K] [LT K] [DecidableLT K] [Numeral N K]
variable [CheckedArithmetic N K V]

def op (m : Model N K) : Takeover N → Link N K V Unit
  | attach source => discard (Attachment.attach m (some source))
  | adopt number => Attachment.adopt m number

/-! ## What a takeover does -/

variable {m : Model N K} {l : Linked N K V} {t : Takeover N} {r : Representation N K}
variable {b c : Backend N K V}

/-- How a takeover ends, and what it leaves. -/
def outcome (l : Linked N K V) (m : Model N K) (t : Takeover N) :
    Except AttachmentError Unit × Linked N K V :=
  match m.represent with
  | .error e => (.error (.number e), l)
  | .ok r =>
    match t.offered? l.workshop with
    | none => (.error .notAttached, { l with workshop := t.workshop l.workshop })
    | some b =>
      match b.unsupported? r with
      | some (function, set) =>
        (.error (.unsupportedConstraint b.name function set),
          { l with workshop := t.workshop l.workshop })
      | none =>
        match (t.prepared b).load r with
        | (c, .error e) =>
          (.error (.backend e),
            ⟨(t.workshop l.workshop).put (t.number l.workshop) c, t.failed l.attachment⟩)
        | (c, .ok x) =>
          (.ok (), ⟨(t.workshop l.workshop).put (t.number l.workshop) c,
            t.loaded l.workshop l.attachment m x⟩)

omit [Zero K] [One K] [Add K] [BEq K] [LT K] [DecidableLT K] [Numeral N K]
  [CheckedArithmetic N K V] in
theorem put_put (w : Workshop N K V) (number : Nat) (b c : Backend N K V) :
    (w.put number b).put number c = w.put number c := by
  simp [Workshop.put]

omit [One K] in
/-- The load that ends a takeover, of the backend as it has been prepared. -/
theorem load_leaves {a : Attachment N K} {w : Workshop N K V}
    (attachment : l.attachment = t.note a) (shelf : ∀ c, l.workshop.put (t.number w) c
      = (t.workshop w).put (t.number w) c)
    (stands : l.workshop.backends[t.number w]? = some b) :
    Leaves (Attachment.load m (t.number w) r) l (fun result s => (result, s) =
      match b.load r with
      | (c, .error e) => (.error (.backend e), ⟨(t.workshop w).put (t.number w) c, t.failed a⟩)
      | (c, .ok x) => (.ok (), ⟨(t.workshop w).put (t.number w) c, t.loaded w a m x⟩)) := by
  unfold Attachment.load
  simp only [Leaves.bind_iff, Leaves.backend_iff, stands, Leaves.linkChange_iff, Leaves.put_iff,
    Leaves.lift_iff]
  cases b.load r with
  | mk c result =>
    cases result with
    | error e => simp only [Except.mapError, shelf, attachment, failed]
    | ok x => simp only [Except.mapError, shelf, attachment, loaded]

/-- Attaching obtains the backend before it looks at its constraints. -/
theorem op_attach_leaves (source : BackendSource N) :
    Leaves (op m (.attach source)) l (fun result s => (result, s) = outcome l m (.attach source)) := by
  unfold outcome
  refine Leaves.map_iff.2 ?_
  unfold Attachment.attach
  simp only [Leaves.bind_iff, Leaves.attachment_iff, Option.some_or, Leaves.lift_iff]
  cases m.represent with
  | error e => rfl
  | ok r =>
    simp only [Except.mapError, Leaves.obtain_iff, Leaves.backend_iff]
    cases stands : offered? (K := K) (V := V) l.workshop (.attach source) with
    | none =>
      rw [show (l.workshop.obtain source).2.backends[(l.workshop.obtain source).1]? = none
        from stands]
      rfl
    | some b =>
      rw [show (l.workshop.obtain source).2.backends[(l.workshop.obtain source).1]? = some b
        from stands]
      simp only [Leaves.check_iff]
      cases b.unsupported? r with
      | some pair => rfl
      | none =>
        simp only [Leaves.linkChange_iff]
        let noted := Takeover.note l.attachment (.attach source)
        refine (load_leaves (t := .attach source) (w := l.workshop)
          (l := ⟨(l.workshop.obtain source).2, noted⟩) rfl (fun _ => rfl) stands).mono
          fun result s hs => ?_
        -- a takeover discards the number that attaching hands back
        cases result with
        | error e => exact hs
        | ok u => exact hs

/-- Adopting clears the backend before the load if anything is in it. -/
theorem op_adopt_leaves (number : Nat) :
    Leaves (op m (.adopt number)) l (fun result s => (result, s) = outcome l m (.adopt number)) := by
  unfold outcome
  show Leaves (Attachment.adopt m number) l _
  unfold Attachment.adopt
  simp only [Leaves.bind_iff, Leaves.lift_iff]
  cases m.represent with
  | error e => rfl
  | ok r =>
    simp only [Except.mapError, Leaves.backend_iff]
    cases stands : offered? (K := K) (V := V) l.workshop (.adopt number) with
    | none =>
      rw [show l.workshop.backends[number]? = none from stands]
      rfl
    | some b =>
      rw [show l.workshop.backends[number]? = some b from stands]
      simp only [Leaves.check_iff]
      cases b.unsupported? r with
      | some pair => rfl
      | none =>
        by_cases empty : b.isEmpty
        · rw [if_neg (by simp [empty])]
          simp only [Leaves.bind_iff, Leaves.linkChange_iff, prepared, if_pos empty]
          exact load_leaves (t := .adopt number) (w := l.workshop) rfl (fun _ => rfl) stands
        · -- what is written when the load ends takes the place of the cleared backend
          rw [if_pos (by simp [empty])]
          simp only [Leaves.bind_iff, Leaves.put_iff, Leaves.linkChange_iff, prepared,
            if_neg empty]
          exact load_leaves (t := .adopt number) (w := l.workshop) rfl
            (fun c => put_put l.workshop number b.clear c) (Workshop.getElem?_put stands)

/-- A takeover ends and leaves what its outcome says. -/
theorem run_eq (t : Takeover N) : (t.op m).run.run l = t.outcome l m := by
  cases t with
  | attach source => exact op_attach_leaves source
  | adopt number => exact op_adopt_leaves number

/-! ## The three ways to end -/

theorem run_refused (represented : m.represent = .ok r) (offered : t.offered? l.workshop = some b)
    {function : FunctionFamily} {set : SetFamily}
    (refused : b.unsupported? r = some (function, set)) :
    (t.op m).run.run l = (.error (.unsupportedConstraint b.name function set),
      { l with workshop := t.workshop l.workshop }) := by
  rw [run_eq, outcome, represented]
  simp only [offered, refused]

theorem run_failed (represented : m.represent = .ok r) (offered : t.offered? l.workshop = some b)
    (passes : b.unsupported? r = none) {e : BackendError}
    (fails : (t.prepared b).load r = (c, .error e)) :
    (t.op m).run.run l = (.error (.backend e),
      ⟨(t.workshop l.workshop).put (t.number l.workshop) c, t.failed l.attachment⟩) := by
  rw [run_eq, outcome, represented]
  simp only [offered, passes, fails]

theorem run_loaded (represented : m.represent = .ok r) (offered : t.offered? l.workshop = some b)
    (passes : b.unsupported? r = none) {x : Loaded}
    (completes : (t.prepared b).load r = (c, .ok x)) :
    (t.op m).run.run l = (.ok (), ⟨(t.workshop l.workshop).put (t.number l.workshop) c,
      t.loaded l.workshop l.attachment m x⟩) := by
  rw [run_eq, outcome, represented]
  simp only [offered, passes, completes]

/-- Only a backend that is offered and passes the check can be loaded. -/
theorem exists_of_ok (h : ((t.op m).run.run l).1 = .ok ()) :
    ∃ r b c x, m.represent = .ok r ∧ t.offered? l.workshop = some b ∧ b.unsupported? r = none ∧
      (t.prepared b).load r = (c, .ok x) := by
  rw [run_eq, outcome] at h
  split at h
  next => cases h
  next r represented =>
    split at h
    next => cases h
    next b offered =>
      split at h
      next => cases h
      next passes =>
        split at h
        next => cases h
        next c x completes => exact ⟨r, b, c, x, represented, offered, passes, completes⟩

/-- Only a backend that is offered and does not pass the check can be refused for a constraint. -/
theorem exists_of_unsupported {taker : String} {function : FunctionFamily} {set : SetFamily}
    (h : ((t.op m).run.run l).1 = .error (.unsupportedConstraint taker function set)) :
    ∃ r b, m.represent = .ok r ∧ t.offered? l.workshop = some b ∧ taker = b.name ∧
      b.unsupported? r = some (function, set) := by
  rw [run_eq, outcome] at h
  split at h
  next => cases h
  next r represented =>
    split at h
    next => cases h
    next b offered =>
      split at h
      next refused =>
        cases h
        exact ⟨r, b, represented, offered, rfl, refused⟩
      next =>
        split at h
        next => cases h
        next => cases h

end Takeover

/-! ## The takeover that a request comes to -/

namespace Attachment

/-- How the backend is to be built again, if it has to be and there is something to build it from. -/
def rebuild (a : Attachment N K) (m : Model N K) : Option (Takeover N) :=
  match a.state m with
  | .empty => a.source.map .attach
  | .stale => if a.isAdopted then a.backend.map .adopt else a.source.map .attach
  | _ => none

/-- Why the backend cannot be built again, if it has to be. -/
def obstacle? (a : Attachment N K) (m : Model N K) : Option AttachmentError :=
  match a.state m with
  | .empty => some .noSource
  | .stale => some (if a.isAdopted then .notAttached else .noSource)
  | _ => none

/-- An attachment that can be rebuilt is not idle. -/
theorem not_isIdle {a : Attachment N K} {m : Model N K} {t : Takeover N} (h : a.rebuild m = some t) :
    ¬ a.isIdle := by
  intro idle
  obtain ⟨backend, source⟩ := Bool.and_eq_true_iff.1 idle
  have empty : a.state m = .empty := if_pos backend
  rw [rebuild, empty] at h
  simp [Option.isNone_iff_eq_none.1 source] at h

end Attachment

namespace LoadRequest

/-- The takeover that a request comes to, if it comes to one. -/
def takeover? (m : Model N K) (a : Attachment N K) : LoadRequest N → Option (Takeover N)
  | attach source => (source.or a.source).map .attach
  | adopt number => some (.adopt number)
  | ensureSynced => a.rebuild m
  | solve => a.rebuild m

/-- What keeps a request from a takeover that it needs. -/
def obstacle? (m : Model N K) (a : Attachment N K) : LoadRequest N → Option AttachmentError
  | attach _ => some .noSource
  | adopt _ => none
  | ensureSynced => a.obstacle? m
  | solve => if a.isIdle then some .nothingToSolve else a.obstacle? m

section

variable [Zero K] [One K] [Add K] [Sub K] [Mul K] [Neg K] [Div K] [BEq K] [LT K] [DecidableLT K]
variable [TextNumber K] [OperatorMeaning K] [Numeral N K] [CheckedArithmetic N K V]

def op (m : Model N K) : LoadRequest N → Link N K V Unit
  | attach source => discard (Attachment.attach m source)
  | adopt number => Attachment.adopt m number
  | ensureSynced => Attachment.ensureSynced m
  | solve => Attachment.solve m

/-- What a request does once its backend is up to date. -/
def rest (m : Model N K) : LoadRequest N → Link N K V Unit
  | solve => Attachment.checkObjective m >>= Attachment.conclude m
  | _ => pure ()

end

end LoadRequest

namespace Attachment

variable [Zero K] [One K] [Add K] [BEq K] [LT K] [DecidableLT K] [Numeral N K]
variable [CheckedArithmetic N K V] {m : Model N K} {l : Linked N K V}

/-- Attaching comes to the source that is given, or else to the one that is remembered. -/
theorem attach_run {source? : Option (BackendSource N)} {source : BackendSource N}
    (chosen : source?.or l.attachment.source = some source) :
    (discard (attach m source?) : Link N K V Unit).run.run l
      = ((Takeover.attach source).op m).run.run l := by
  have start : (Link.attachment : Link N K V _).run.run l = (.ok l.attachment, l) := rfl
  have same : (attach m source? : Link N K V Nat).run.run l
      = (attach m (some source)).run.run l := by
    unfold attach
    rw [Link.run_bind_ok start, Link.run_bind_ok start, chosen]
    rfl
  show (discard _ : Link N K V Unit).run.run l = (discard _ : Link N K V Unit).run.run l
  rw [Link.run_discard, Link.run_discard, same]

theorem attach_run_none {source? : Option (BackendSource N)}
    (none : source?.or l.attachment.source = none) :
    (discard (attach m source?) : Link N K V Unit).run.run l = (.error .noSource, l) := by
  have start : (Link.attachment : Link N K V _).run.run l = (.ok l.attachment, l) := rfl
  have stops : (attach m source? : Link N K V Nat).run.run l = (.error .noSource, l) := by
    unfold attach
    rw [Link.run_bind_ok start, none]
    rfl
  rw [Link.run_discard, stops]
  rfl

/-- Coming up to date is the takeover that rebuilds the backend; without one nothing happens. -/
theorem ensureSynced_run (m : Model N K) (l : Linked N K V) :
    (ensureSynced m).run.run l =
      match l.attachment.rebuild m with
      | some t => (t.op m).run.run l
      | none => ((l.attachment.obstacle? m).elim (.ok ()) .error, l) := by
  have start : (Link.attachment : Link N K V _).run.run l = (.ok l.attachment, l) := rfl
  unfold ensureSynced rebuild obstacle?
  rw [Link.run_bind_ok start]
  -- what comes to the source that is remembered
  have built : (discard (attach m none) : Link N K V Unit).run.run l =
      match l.attachment.source.map Takeover.attach with
      | some t => (t.op m).run.run l
      | none => (.error .noSource, l) := by
    cases remembered : l.attachment.source with
    | none => exact attach_run_none remembered
    | some source => exact attach_run remembered
  cases l.attachment.state m with
  | empty => exact built
  | stale =>
    by_cases adopted : l.attachment.isAdopted
    · simp only [if_pos adopted]
      cases known : l.attachment.backend with
      | none =>
        apply Link.run_bind_error
        unfold Attachment.attached
        rw [Link.run_bind_ok start, known]
        rfl
      | some number =>
        apply Link.run_bind_ok
        unfold Attachment.attached
        rw [Link.run_bind_ok start, known]
        rfl
    · simp only [if_neg adopted]
      exact built
  | clean => rfl
  | solved => rfl

end Attachment

namespace LoadRequest

variable [Zero K] [One K] [Add K] [Sub K] [Mul K] [Neg K] [Div K] [BEq K] [LT K] [DecidableLT K]
variable [TextNumber K] [OperatorMeaning K] [Numeral N K] [CheckedArithmetic N K V]
variable {m : Model N K} {l : Linked N K V} {q : LoadRequest N} {t : Takeover N}

/-- A request is its takeover, and what it does afterwards. -/
theorem run_eq (h : q.takeover? m l.attachment = some t) :
    (q.op m).run.run l = (t.op m >>= fun _ => q.rest m).run.run l := by
  cases q with
  | attach source? =>
    obtain ⟨source, chosen, rfl⟩ := Option.map_eq_some_iff.1 h
    exact (Attachment.attach_run chosen).trans Link.run_bind_pure.symm
  | adopt number =>
    cases h
    exact Link.run_bind_pure.symm
  | ensureSynced =>
    have synced := Attachment.ensureSynced_run m l
    rw [show l.attachment.rebuild m = some t from h] at synced
    exact synced.trans Link.run_bind_pure.symm
  | solve =>
    have busy := Attachment.not_isIdle h
    have synced := Attachment.ensureSynced_run m l
    rw [show l.attachment.rebuild m = some t from h] at synced
    show (Attachment.solve m).run.run l = _
    rw [Attachment.solve_eq, Link.run_bind_congr (Attachment.prepare_run busy), bind_assoc]
    exact Link.run_bind_congr synced

/-- A request without a takeover loads nothing. -/
theorem run_none (h : q.takeover? m l.attachment = none) :
    (q.op m).run.run l =
      match q.obstacle? m l.attachment with
      | some e => (.error e, l)
      | none => (q.rest m).run.run l := by
  cases q with
  | attach source? => exact Attachment.attach_run_none (Option.map_eq_none_iff.1 h)
  | adopt number => cases h
  | ensureSynced =>
    have synced := Attachment.ensureSynced_run m l
    rw [show l.attachment.rebuild m = none from h] at synced
    refine synced.trans ?_
    show _ = match l.attachment.obstacle? m with | some e => _ | none => _
    cases l.attachment.obstacle? m <;> rfl
  | solve =>
    have synced := Attachment.ensureSynced_run m l
    rw [show l.attachment.rebuild m = none from h] at synced
    show (Attachment.solve m).run.run l = _
    rw [Attachment.solve_eq, obstacle?]
    -- with nothing to rebuild, preparing changes nothing: it stops at the obstacle or goes through
    by_cases idle : l.attachment.isIdle
    · rw [if_pos idle]
      exact Link.run_bind_error (Attachment.prepare_run_idle idle)
    · rw [if_neg idle, Link.run_bind_congr (Attachment.prepare_run idle), bind_assoc]
      cases obstacle : l.attachment.obstacle? m with
      | none =>
        rw [obstacle] at synced
        exact Link.run_bind_ok synced
      | some e =>
        rw [obstacle] at synced
        exact Link.run_bind_error synced

omit [Zero K] [One K] [Add K] [Sub K] [Mul K] [Neg K] [Div K] [BEq K] [LT K] [DecidableLT K]
  [TextNumber K] [OperatorMeaning K] [Numeral N K] [CheckedArithmetic N K V] in
theorem obstacle?_cases {a : Attachment N K} {e : AttachmentError}
    (h : q.obstacle? m a = some e) : e = .noSource ∨ e = .notAttached ∨ e = .nothingToSolve := by
  have own {e : AttachmentError} (h : a.obstacle? m = some e) :
      e = .noSource ∨ e = .notAttached := by
    unfold Attachment.obstacle? at h
    split at h
    · cases h
      exact .inl rfl
    · cases h
      split
      · exact .inr rfl
      · exact .inl rfl
    · cases h
  cases q with
  | attach source? =>
    cases h
    exact .inl rfl
  | adopt number => cases h
  | ensureSynced => exact (own h).imp id .inl
  | solve =>
    change (if a.isIdle then some .nothingToSolve else a.obstacle? m) = some e at h
    split at h
    · cases h
      exact .inr (.inr rfl)
    · exact (own h).imp id .inl

end LoadRequest

end MathProg
