import MathProg.Proofs.Attachment.Agreement
import MathProg.Proofs.Attachment.Stages

/-!
# The history of an attachment

Runs over backends of every kind, with a record of the backend that the last completed load has
written to and of how every call since then has ended. The record is not read by anything that
happens: what the attachment remembers can be compared with it.
-/

namespace MathProg

variable {N K V : Type}

/-! ## Runs -/

/-- What may happen next, with backends of every kind. Sources of backends build a new one every
time. -/
inductive Happening (N K V : Type) where
  | edit (call : ModelCall N K)
  | attach (spec : Option (BackendSpec N))
  | setSource (spec : Option (BackendSpec N))
  | adopt (number : Nat)
  | detach
  | ensureSynced
  | solve
  /-- Somebody injects solution data into an in-memory backend. -/
  | inject (number : Nat) (i : Injection N)
  /-- The solver gets another script. -/
  | script (script : Script N)
  /-- Somebody puts another backend on the shelf, with anything in it. -/
  | provide (b : Backend N K V)
  /-- Somebody writes into a backend. Nobody writes into the attached one. -/
  | write (number : Nat) (b : Backend N K V)

/-- A call of a backend: the revision of the model then, and how the call has ended. -/
structure Call (N K : Type) where
  revision : Nat
  outcome : SolveOutcome N K

/-- A world with the backend that the last completed load has written to, unless it has been
detached, and with the calls since then, the latest first. -/
structure Chronicle (N K V : Type) where
  world : World N K V
  loaded : Option Nat
  calls : List (Call N K)

namespace World

def shelf (w : World N K V) : List (Backend N K V) :=
  w.linked.workshop.backends

/-- The world with another backend in a place of the shelf. -/
def place (w : World N K V) (number : Nat) (b : Backend N K V) : World N K V :=
  { w with linked := { w.linked with workshop := w.linked.workshop.put number b } }

variable [Zero K] [One K] [Add K] [Sub K] [Mul K] [Neg K] [Div K] [BEq K] [LT K] [DecidableLT K]
variable [TextNumber K] [OperatorMeaning K] [Numeral N K] [CheckedArithmetic N K V]

/-- The world after something has happened. -/
def next (w : World N K V) : Happening N K V → World N K V
  | .edit call => { w with model := call.after w.model }
  | .attach spec => w.link (Attachment.attach w.model (spec.map .fresh))
  | .setSource spec => w.link (Attachment.setSource (spec.map .fresh))
  | .adopt number => w.link (Attachment.adopt w.model number)
  | .detach => w.link Attachment.detach
  | .ensureSynced => w.link (Attachment.ensureSynced w.model)
  | .solve => w.link (Attachment.solve w.model)
  | .inject number i =>
    match w.shelf[number]? with
    | some (.inMemory b) =>
      match b.inject i with
      | .ok b => w.place number (.inMemory b)
      | .error _ => w
    | _ => w
  | .script script =>
    { w with linked := { w.linked with workshop :=
      { w.linked.workshop with solver := { w.linked.workshop.solver with script } } } }
  | .provide b =>
    { w with linked := { w.linked with workshop :=
      { w.linked.workshop with backends := w.shelf ++ [b] } } }
  | .write number b => if w.attachment.backend = some number then w else w.place number b

end World

/-! ## Records -/

namespace Call

def isAnswered (c : Call N K) : Bool :=
  match c.outcome with
  | .answered _ => true
  | _ => false

/-- The results that calls leave, the latest first: a report that could not be read leaves what was
there before. -/
def standing : List (Call N K) → Results N K
  | [] => .none
  | c :: calls =>
    match c.outcome with
    | .answered snapshot => snapshot
    | .failed e => .ofFailure c.revision e.text
    | .unread _ => standing calls

end Call

namespace Chronicle

/-- A new model and a new attachment, among backends with anything in them. -/
def start [Zero K] (id : Nat) (name : Option String) (shelf : List (Backend N K V))
    (solver : ScriptedSolver N) (spec : Option (BackendSpec N)) : Chronicle N K V :=
  ⟨⟨.empty id name, ⟨⟨shelf, solver⟩, .new (spec.map .fresh)⟩⟩, none, []⟩

/-- After an operation that may load a backend. -/
def linking (c : Chronicle N K V) (op : Link N K V (Option Nat)) : Chronicle N K V :=
  match (op.run.run c.world.linked).1 with
  | .ok (some number) => ⟨c.world.link op, some number, []⟩
  | _ => { c with world := c.world.link op }

/-- The calls of the revision that the model has now. -/
def currentCalls (c : Chronicle N K V) : List (Call N K) :=
  c.calls.filter (fun call => call.revision == c.world.model.revision)

variable [Zero K] [One K] [Add K] [BEq K] [LT K] [DecidableLT K] [Numeral N K]
variable [CheckedArithmetic N K V]

/-- Just before the call of a solve, or where the solve stops instead. -/
def ready (c : Chronicle N K V) : Chronicle N K V :=
  if c.world.attachment.isIdle then c else c.linking (Attachment.resync c.world.model)

/-- The number of the backend that a solve is going to call, or why it calls none. -/
def request (c : Chronicle N K V) : Except AttachmentError Nat :=
  ((Attachment.prepare c.world.model).run.run c.world.linked).1

section

variable [Sub K] [Mul K] [Neg K] [Div K] [TextNumber K] [OperatorMeaning K]

/-- After the call of a solve. -/
def called (c : Chronicle N K V) (number : Nat) : Chronicle N K V where
  world := c.world.link (Attachment.conclude c.world.model number)
  loaded := c.loaded
  calls := (c.world.shelf[number]?.map (fun b =>
    ⟨c.world.model.revision, c.world.linked.outcome c.world.model b⟩)).toList ++ c.calls

/-- After a solve. -/
def solved (c : Chronicle N K V) : Chronicle N K V :=
  match c.request with
  | .ok number => c.ready.called number
  | .error _ => c.ready

/-- After something has happened. -/
def after (c : Chronicle N K V) : Happening N K V → Chronicle N K V
  | .attach spec => c.linking (some <$> Attachment.attach c.world.model (spec.map .fresh))
  | .adopt number =>
    c.linking ((fun _ => some number) <$> Attachment.adopt c.world.model number)
  | .ensureSynced => c.linking (Attachment.resync c.world.model)
  | .setSource spec => ⟨c.world.next (.setSource spec), none, []⟩
  | .detach => ⟨c.world.next .detach, none, []⟩
  | .solve => c.solved
  | h => { c with world := c.world.next h }

/-- After a run. -/
def run (c : Chronicle N K V) (hs : List (Happening N K V)) : Chronicle N K V :=
  hs.foldl after c

end

/-! ## The record changes nothing -/

omit [Zero K] [One K] [Add K] [BEq K] [LT K] [DecidableLT K] [Numeral N K]
  [CheckedArithmetic N K V] in
@[simp] theorem linking_world (c : Chronicle N K V) (op : Link N K V (Option Nat)) :
    (c.linking op).world = c.world.link op := by
  unfold linking
  split <;> rfl

omit [Zero K] [One K] [Add K] [BEq K] [LT K] [DecidableLT K] [Numeral N K]
  [CheckedArithmetic N K V] in
theorem link_map {α β : Type} (w : World N K V) (f : α → β) (op : Link N K V α) :
    w.link (f <$> op) = w.link op := by
  unfold World.link
  simp only [ExceptT.run_map, StateT.run_map]
  rfl

theorem link_ensureSynced (w : World N K V) :
    w.link (Attachment.ensureSynced w.model) = w.link (Attachment.resync w.model) := by
  rw [Attachment.ensureSynced_eq]
  exact link_map w _ _

theorem ready_model (c : Chronicle N K V) : c.ready.world.model = c.world.model := by
  unfold ready
  split
  · rfl
  · rw [linking_world]
    rfl

/-- What comes before the call of a solve. -/
theorem prepare_run (c : Chronicle N K V) :
    (Attachment.prepare c.world.model).run.run c.world.linked
      = (c.request, c.ready.world.linked) := by
  refine Prod.ext rfl ?_
  by_cases idle : c.world.attachment.isIdle
  · rw [ready, if_pos idle, Attachment.prepare_run_idle idle]
  · rw [ready, if_neg idle, linking_world, ← link_ensureSynced, Attachment.prepare_run idle]
    unfold World.link
    cases synced : (Attachment.ensureSynced c.world.model).run.run c.world.linked with
    | mk result t =>
      cases result with
      | error e => rw [Link.run_bind_error synced]
      | ok u =>
        rw [Link.run_bind_ok synced]
        exact Attachment.checkObjective_keeps

section

variable [Sub K] [Mul K] [Neg K] [Div K] [TextNumber K] [OperatorMeaning K]

/-- A solve stops before its call, or it makes the call. -/
theorem solve_run (c : Chronicle N K V) :
    (∀ e, c.request = .error e →
      (Attachment.solve c.world.model).run.run c.world.linked = (.error e, c.ready.world.linked)) ∧
    ∀ number, c.request = .ok number →
      (Attachment.solve c.world.model).run.run c.world.linked
        = (Attachment.conclude c.world.model number).run.run c.ready.world.linked := by
  have prepared := c.prepare_run
  rw [Attachment.solve_eq]
  constructor
  · intro e stops
    rw [stops] at prepared
    exact Link.run_bind_error prepared
  · intro number goes
    rw [goes] at prepared
    exact Link.run_bind_ok prepared

theorem solved_world (c : Chronicle N K V) : c.solved.world = c.world.next .solve := by
  obtain ⟨stops, goes⟩ := c.solve_run
  have same := c.ready_model
  unfold solved World.next World.link
  cases request : c.request with
  | error e =>
    rw [stops e request]
    rw [← same]
  | ok number =>
    rw [goes number request]
    simp only [called, World.link, same]

/-- The record is of what happens, and does not touch it. -/
theorem after_world (c : Chronicle N K V) (h : Happening N K V) :
    (c.after h).world = c.world.next h := by
  cases h with
  | attach spec => exact (c.linking_world _).trans (link_map _ _ _)
  | adopt number => exact (c.linking_world _).trans (link_map _ _ _)
  | ensureSynced => exact (c.linking_world _).trans (link_ensureSynced _).symm
  | solve => exact c.solved_world
  | _ => rfl

/-- Whatever happens, the model is edited or stays what it is. -/
theorem next_steps (w : World N K V) (h : Happening N K V) :
    w.model.Steps (w.next h).model := by
  cases h with
  | edit call => exact call.steps w.model
  | inject number i =>
    rw [World.next]
    split
    · split <;> exact .refl _
    · exact .refl _
  | write number b =>
    rw [World.next]
    split <;> exact .refl _
  | _ => exact .refl _

theorem steps_run (c : Chronicle N K V) (hs : List (Happening N K V)) :
    c.world.model.Steps (c.run hs).world.model := by
  induction hs generalizing c with
  | nil => exact .refl _
  | cons h hs ih =>
    have first := next_steps c.world h
    rw [← c.after_world] at first
    exact first.trans (ih (c.after h))

end

/-! ## The invariant -/

/-- What holds after every run: what an attachment remembers is what its record says. -/
structure Sound (c : Chronicle N K V) : Prop where
  afresh : c.world.linked.BuildsAfresh
  backend : c.world.attachment.backend = c.loaded
  attached : c.loaded = none → c.calls = []
  solvedRevision : c.world.attachment.solvedRevision
    = (c.calls.find? Call.isAnswered).map Call.revision
  results : c.world.attachment.results = Call.standing c.calls
  taken : c.world.attachment.hasObjective = false → c.calls = []
  together : ∀ call ∈ c.calls, ∀ other ∈ c.calls, call.revision = other.revision
  snapshots : ∀ call ∈ c.calls, ∀ snapshot, call.outcome = .answered snapshot →
    snapshot.revision = some call.revision
  inStep : ∀ revision, c.world.attachment.handleMap.revision = some revision →
    revision ≤ c.world.model.revision ∧ (∀ call ∈ c.calls, call.revision = revision) ∧
      (revision = c.world.model.revision → ∀ number, c.loaded = some number →
        ∃ b, c.world.shelf[number]? = some b ∧ c.world.attachment.IsLoaded c.world.model b)

theorem sound_start (id : Nat) (name : Option String) (shelf : List (Backend N K V))
    (solver : ScriptedSolver N) (spec : Option (BackendSpec N)) :
    (start id name shelf solver spec).Sound where
  afresh source hs := by
    obtain ⟨spec, -, rfl⟩ := Option.map_eq_some_iff.1 hs
    exact ⟨spec, rfl⟩
  backend := rfl
  attached _ := rfl
  solvedRevision := rfl
  results := rfl
  taken _ := rfl
  together _ none := nomatch none
  snapshots _ none := nomatch none
  inStep _ none := nomatch none

/-- An operation that may load a backend starts a new record if it does. -/
theorem Sound.linking {c : Chronicle N K V} (h : c.Sound) {op : Link N K V (Option Nat)}
    (links : Leaves op c.world.linked (Linked.Links c.world.model c.world.linked)) :
    (c.linking op).Sound := by
  -- without a load the record goes on, as far as the attachment is still in step
  have missed (m : c.world.linked.Missed (op.run.run c.world.linked).2)
      (afresh : (op.run.run c.world.linked).2.BuildsAfresh) :
      Sound { c with world := c.world.link op } := by
    refine ⟨afresh, m.backend.trans h.backend, h.attached, m.solvedRevision.trans h.solvedRevision,
      m.results.trans h.results, fun refused => h.taken (m.hasObjective.symm.trans refused),
      h.together, h.snapshots, fun revision hr => ?_⟩
    rcases m.kept with none | ⟨same, shelf⟩
    · exact nomatch none.symm.trans hr
    · obtain ⟨low, calls, built⟩ := h.inStep revision ((congrArg _ same).symm.trans hr)
      refine ⟨low, calls, fun now number loaded => ?_⟩
      obtain ⟨b, stands, isLoaded⟩ := built now number loaded
      exact ⟨b, shelf number b stands, isLoaded.congr same m.hasObjective⟩
  obtain ⟨afresh, links⟩ := links
  unfold Chronicle.linking
  cases result : (op.run.run c.world.linked).1 with
  | error e =>
    rw [result] at links
    exact missed links afresh
  | ok number? =>
    rw [result] at links
    cases number? with
    | none => exact missed links afresh
    | some number =>
      -- with one there are no calls yet, and the load is the one that was completed last
      refine ⟨afresh, links.backend, fun _ => rfl, links.solvedRevision, links.results,
        fun _ => rfl, fun _ none => (nomatch none), fun _ none => (nomatch none),
        fun revision hr => ?_⟩
      obtain rfl : c.world.model.revision = revision :=
        Option.some.inj (links.revision.symm.trans hr)
      refine ⟨Nat.le_refl _, fun _ none => (nomatch none), fun _ number' loaded => ?_⟩
      obtain rfl : number = number' := Option.some.inj loaded
      exact links.built

/-- Nothing else touches the attachment; a change of the model only makes it fall out of step, and
its backend may get other solution data. -/
theorem Sound.withWorld {c : Chronicle N K V} (h : c.Sound) {w : World N K V}
    (same : w.attachment = c.world.attachment) (steps : c.world.model.Steps w.model)
    (kept : ∀ (number : Nat) (b : Backend N K V), c.loaded = some number →
      c.world.shelf[number]? = some b → ∃ b', w.shelf[number]? = some b' ∧ b.SameProblem b') :
    Sound { c with world := w } := by
  refine ⟨?_, same ▸ h.backend, h.attached, same ▸ h.solvedRevision, same ▸ h.results,
    same ▸ h.taken, h.together, h.snapshots, fun revision hr => ?_⟩
  · have afresh := h.afresh
    unfold Linked.BuildsAfresh at afresh ⊢
    rw [show w.linked.attachment = c.world.linked.attachment from same]
    exact afresh
  · rw [same] at hr
    obtain ⟨low, calls, built⟩ := h.inStep revision hr
    rcases steps.raises with unchanged | later
    · rw [unchanged]
      refine ⟨low, calls, fun now number loaded => ?_⟩
      obtain ⟨b, stands, isLoaded⟩ := built now number loaded
      obtain ⟨b', stands', again⟩ := kept number b loaded stands
      rw [same]
      exact ⟨b', stands', isLoaded.sameProblem again⟩
    · -- the model has moved on, so that nothing is claimed of the backend any more
      have behind : revision < w.model.revision := Nat.lt_of_le_of_lt low later
      exact ⟨Nat.le_of_lt behind, calls, fun now => absurd now (Nat.ne_of_lt behind)⟩

/-- Detaching ends the record. -/
theorem Sound.detached {w : World N K V} (afresh : w.linked.BuildsAfresh)
    {source : Option (BackendSource N)} (new : w.attachment = .new source) :
    Sound ⟨w, none, []⟩ where
  afresh := afresh
  backend := by rw [new]; rfl
  attached _ := rfl
  solvedRevision := by rw [new]; rfl
  results := by rw [new]; rfl
  taken _ := rfl
  together _ none := nomatch none
  snapshots _ none := nomatch none
  inStep revision hr := by
    rw [new] at hr
    cases hr

theorem Sound.ready {c : Chronicle N K V} (h : c.Sound) : c.ready.Sound := by
  unfold Chronicle.ready
  split
  · exact h
  · exact h.linking (Attachment.resync_links h.afresh)

theorem ready_of_busy {c : Chronicle N K V} (busy : ¬ c.world.attachment.isIdle) :
    c.ready.world.linked
      = ((Attachment.ensureSynced c.world.model).run.run c.world.linked).2 := by
  rw [ready, if_neg busy, linking_world, ← link_ensureSynced]
  rfl

/-- Once it is up to date, an attachment has its backend from a completed load of the model as it is
now, and a solve looks at the objective. -/
theorem Sound.of_synced {c : Chronicle N K V} (h : c.Sound) (busy : ¬ c.world.attachment.isIdle)
    (synced : ((Attachment.ensureSynced c.world.model).run.run c.world.linked).1 = .ok ()) :
    (c.ready.world.state = .clean ∨ c.ready.world.state = .solved) ∧
      ∃ number b, c.ready.loaded = some number ∧ c.ready.world.shelf[number]? = some b ∧
        c.ready.world.attachment.IsLoaded c.world.model b ∧
        c.request =
          if c.world.model.objective.isNonlinear && !b.supportsNonlinear then .error .nonlinear
          else if !c.ready.world.attachment.hasObjective then
            .error (.unsupportedObjective b.name c.world.model.objective.kindName)
          else .ok number := by
  have sound := h.ready
  have left := ready_of_busy busy
  have model := c.ready_model
  have state : c.ready.world.state = .clean ∨ c.ready.world.state = .solved := by
    unfold World.state World.attachment
    rw [model, left]
    exact Attachment.ensureSynced_current h.afresh synced
  obtain ⟨attached, revision⟩ := Attachment.isCurrent_iff.1 state
  obtain ⟨number, attached⟩ := Option.isSome_iff_exists.1 attached
  have loaded : c.ready.loaded = some number := sound.backend.symm.trans attached
  obtain ⟨b, stands, isLoaded⟩ := (sound.inStep _ revision).2.2 rfl number loaded
  rw [model] at isLoaded
  refine ⟨state, number, b, loaded, stands, isLoaded, ?_⟩
  -- what is left of the request is the check of the objective
  have run : (Attachment.ensureSynced c.world.model).run.run c.world.linked
      = (.ok (), c.ready.world.linked) := Prod.ext synced left.symm
  rw [request, Attachment.prepare_run busy, Link.run_bind_ok run,
    Attachment.checkObjective_run attached stands]
  rfl

/-- A solve calls a backend only if it is attached and up to date, and has taken the objective. -/
theorem Sound.of_request {c : Chronicle N K V} (h : c.Sound) {number : Nat}
    (goes : c.request = .ok number) :
    (c.ready.world.state = .clean ∨ c.ready.world.state = .solved) ∧
      c.ready.loaded = some number ∧ c.ready.world.attachment.hasObjective = true ∧
      ∃ b, c.ready.world.shelf[number]? = some b ∧
        c.ready.world.attachment.IsLoaded c.world.model b := by
  have busy : ¬ c.world.attachment.isIdle := by
    intro idle
    rw [request, Attachment.prepare_run_idle idle] at goes
    cases goes
  -- a synchronisation that failed would have been the end of the request
  have synced : ((Attachment.ensureSynced c.world.model).run.run c.world.linked).1 = .ok () := by
    rw [request, Attachment.prepare_run busy] at goes
    cases synced : (Attachment.ensureSynced c.world.model).run.run c.world.linked with
    | mk result t =>
      cases result with
      | error e =>
        rw [Link.run_bind_error synced] at goes
        cases goes
      | ok u => rfl
  obtain ⟨state, number', b, loaded, stands, isLoaded, request⟩ := h.of_synced busy synced
  rw [goes] at request
  split at request
  · cases request
  · split at request
    · cases request
    next taken =>
      obtain rfl : number = number' := Except.ok.inj request
      exact ⟨state, loaded, by simpa using taken, b, stands, isLoaded⟩

section

variable [Sub K] [Mul K] [Neg K] [Div K] [TextNumber K] [OperatorMeaning K]

/-- A call is recorded as it has been kept. -/
theorem Sound.called {c : Chronicle N K V} (h : c.Sound) {number : Nat} {b : Backend N K V}
    (current : c.world.attachment.handleMap.revision = some c.world.model.revision)
    (loaded : c.loaded = some number) (taken : c.world.attachment.hasObjective = true)
    (stands : c.world.shelf[number]? = some b) : (c.called number).Sound := by
  obtain ⟨-, earlier, built⟩ := h.inStep _ current
  obtain ⟨b', stands', isLoaded⟩ := built rfl number loaded
  obtain rfl : b = b' := Option.some.inj (stands.symm.trans stands')
  -- how the call ends decides what is kept, and the record says the same by its definition
  obtain ⟨outcome, same⟩ : ∃ outcome, c.world.linked.outcome c.world.model b = outcome := ⟨_, rfl⟩
  have world : (c.called number).world.linked =
      ⟨{ c.world.linked.workshop.put number (b.solve c.world.linked.workshop.solver).1 with
          solver := (b.solve c.world.linked.workshop.solver).2.1 },
        outcome.keep c.world.model.revision c.world.attachment⟩ := by
    simp only [Chronicle.called, World.link, Attachment.conclude_run stands, same]
    rfl
  have attachment : (c.called number).world.attachment
      = outcome.keep c.world.model.revision c.world.attachment := congrArg Linked.attachment world
  have calls : (c.called number).calls = ⟨c.world.model.revision, outcome⟩ :: c.calls := by
    simp [Chronicle.called, stands, same]
  have revisions : ∀ call ∈ (c.called number).calls, call.revision = c.world.model.revision := by
    intro call hc
    rw [calls] at hc
    rcases List.mem_cons.1 hc with rfl | hc
    · rfl
    · exact earlier call hc
  -- what a call leaves alone
  have source : (c.called number).world.attachment.source = c.world.attachment.source := by
    rw [attachment, SolveOutcome.keep_source]
  have backend : (c.called number).world.attachment.backend = c.world.attachment.backend := by
    rw [attachment, SolveOutcome.keep_backend]
  have handleMap : (c.called number).world.attachment.handleMap
      = c.world.attachment.handleMap := by
    rw [attachment, SolveOutcome.keep_handleMap]
  have hasObjective : (c.called number).world.attachment.hasObjective
      = c.world.attachment.hasObjective := by
    rw [attachment, SolveOutcome.keep_hasObjective]
  refine ⟨fun s hs => h.afresh s (source.symm.trans hs), backend.trans h.backend, ?_, ?_, ?_, ?_,
    ?_, ?_, fun revision hr => ?_⟩
  · exact fun none => nomatch loaded.symm.trans none
  · rw [attachment, calls]
    cases outcome with
    | answered snapshot => rfl
    | failed e => exact h.solvedRevision
    | unread e => exact h.solvedRevision
  · rw [attachment, calls]
    cases outcome with
    | answered snapshot => rfl
    | failed e => rfl
    | unread e => exact h.results
  · exact fun refused => nomatch taken.symm.trans (hasObjective.symm.trans refused)
  · exact fun call hc other ho => (revisions call hc).trans (revisions other ho).symm
  · intro call hc snapshot answered
    rw [calls] at hc
    rcases List.mem_cons.1 hc with rfl | hc
    · exact Linked.revision_of_answered (same.trans answered)
    · exact h.snapshots call hc snapshot answered
  · rw [handleMap, current] at hr
    obtain rfl := Option.some.inj hr
    refine ⟨Nat.le_refl _, revisions, fun _ number' hn => ?_⟩
    obtain rfl : number = number' := Option.some.inj (loaded.symm.trans hn)
    refine ⟨(b.solve c.world.linked.workshop.solver).1, ?_, ?_⟩
    · unfold World.shelf
      rw [world]
      exact Workshop.getElem?_put stands
    · exact (isLoaded.congr handleMap hasObjective).sameProblem (b.solve_sameProblem _)

/-- A solve keeps the record true, however it ends. -/
theorem Sound.solved {c : Chronicle N K V} (h : c.Sound) : c.solved.Sound := by
  unfold Chronicle.solved
  cases goes : c.request with
  | error e => exact h.ready
  | ok number =>
    obtain ⟨state, loaded, taken, b, stands, -⟩ := h.of_request goes
    exact h.ready.called (Attachment.isCurrent_iff.1 state).2 loaded taken stands

/-- Nothing that happens makes the record wrong. -/
theorem Sound.after {c : Chronicle N K V} (h : c.Sound) (happening : Happening N K V) :
    (c.after happening).Sound := by
  have fresh (spec : Option (BackendSpec N)) : ∀ source : BackendSource N,
      spec.map BackendSource.fresh = some source → ∃ spec, source = .fresh spec := by
    intro source hs
    obtain ⟨spec, -, rfl⟩ := Option.map_eq_some_iff.1 hs
    exact ⟨spec, rfl⟩
  have others {w : World N K V} (same : w.attachment = c.world.attachment)
      (model : w.model = c.world.model)
      (kept : ∀ (number : Nat) (b : Backend N K V), c.loaded = some number →
        c.world.shelf[number]? = some b → ∃ b', w.shelf[number]? = some b' ∧ b.SameProblem b') :
      Sound { c with world := w } :=
    h.withWorld same (model ▸ .refl _) kept
  -- a backend in the place of another one must hold the same problem only if it is attached
  have placed {number : Nat} {b' : Backend N K V} (fits : ∀ b, c.loaded = some number →
      c.world.shelf[number]? = some b → b.SameProblem b') :
      Sound { c with world := c.world.place number b' } := by
    refine others rfl rfl fun number' b loaded stands => ?_
    by_cases here : number = number'
    · subst here
      exact ⟨b', Workshop.getElem?_put stands, fits b loaded stands⟩
    · refine ⟨b, ?_, .refl b⟩
      exact (List.getElem?_set_ne here).trans stands
  cases happening with
  | edit call =>
    exact h.withWorld rfl (call.steps c.world.model) fun _ b _ stands => ⟨b, stands, .refl b⟩
  | attach spec => exact h.linking (Leaves.map_iff.2 (Attachment.attach_links h.afresh (fresh spec)))
  | setSource spec => exact .detached (fresh spec) rfl
  | adopt number => exact h.linking (Leaves.map_iff.2 (Attachment.adopt_links h.afresh number))
  | detach => exact .detached (fun source hs => h.afresh source hs) rfl
  | ensureSynced => exact h.linking (Attachment.resync_links h.afresh)
  | solve => exact h.solved
  | inject number i =>
    change Sound { c with world := c.world.next (.inject number i) }
    rw [World.next]
    split
    next b stands =>
      split
      next b' injected =>
        refine placed fun d _ stands' => ?_
        obtain rfl : .inMemory b = d := Option.some.inj (stands.symm.trans stands')
        exact InMemory.inject_sameProblem injected
      next => exact h
    next => exact h
  | script script => exact others rfl rfl fun _ b _ stands => ⟨b, stands, .refl b⟩
  | provide b' =>
    refine others rfl rfl fun number b _ stands => ⟨b, ?_, .refl b⟩
    have inside := (List.getElem?_eq_some_iff.1 stands).1
    exact (List.getElem?_append_left inside).trans stands
  | write number b =>
    change Sound { c with world := c.world.next (.write number b) }
    rw [World.next]
    split
    next => exact h
    next other =>
      exact placed fun _ loaded _ => absurd (h.backend.trans loaded) other

theorem Sound.run {c : Chronicle N K V} (h : c.Sound) (hs : List (Happening N K V)) :
    (c.run hs).Sound := by
  induction hs generalizing c with
  | nil => exact h
  | cons happening hs ih => exact ih (h.after happening)

end

end Chronicle

end MathProg
