import MathProg.Proofs.Attachment.Problem

/-!
# The stages of a solve

A solve first sees to it that its backend is up to date and takes the objective, then calls the
backend, and then keeps what the backend reports. A load is complete or it leaves the attachment out
of step with its model; nothing else writes to a backend before it is called.
-/

namespace MathProg

variable {N K V : Type}

/-- How the call of a solve ends: with a snapshot of what the backend reports, with a failure of the
backend, or with a report that cannot be read. -/
inductive SolveOutcome (N K : Type) where
  | answered (snapshot : Results N K)
  | failed (e : BackendError)
  | unread (e : BackendError)

namespace Link

variable {α β : Type} {op : Link N K V α} {next : α → Link N K V β} {l t : Linked N K V}

theorem run_bind_ok {a : α} (h : op.run.run l = (.ok a, t)) :
    (op >>= next).run.run l = (next a).run.run t := by
  simp only [ExceptT.run_bind, StateT.run_bind, h]
  rfl

theorem run_bind_error {e : AttachmentError} (h : op.run.run l = (.error e, t)) :
    (op >>= next).run.run l = (.error e, t) := by
  simp only [ExceptT.run_bind, StateT.run_bind, h]
  rfl

end Link

/-! ## Loads -/

/-- What an attached backend may have been through since it was loaded from the model: a call, or
solution data from outside. -/
def Attachment.IsLoaded [Zero K] [One K] [Add K] [BEq K] [LT K] [DecidableLT K] [Numeral N K]
    [CheckedArithmetic N K V] (a : Attachment N K) (m : Model N K) (b : Backend N K V) : Prop :=
  ∃ (r : Representation N K) (blank loaded : Backend N K V), m.represent = .ok r ∧ blank.isEmpty ∧
    blank.load r = (loaded, .ok ⟨a.handleMap.handles, a.hasObjective⟩) ∧ loaded.SameProblem b

section

variable [Zero K] [One K] [Add K] [BEq K] [LT K] [DecidableLT K] [Numeral N K]
variable [CheckedArithmetic N K V] {a : Attachment N K} {m : Model N K} {b : Backend N K V}

theorem Attachment.IsLoaded.congr (h : a.IsLoaded m b) {a' : Attachment N K}
    (handleMap : a'.handleMap = a.handleMap) (hasObjective : a'.hasObjective = a.hasObjective) :
    a'.IsLoaded m b := by
  unfold IsLoaded at h ⊢
  rw [handleMap, hasObjective]
  exact h

theorem Attachment.IsLoaded.sameProblem (h : a.IsLoaded m b) {b' : Backend N K V}
    (same : b.SameProblem b') : a.IsLoaded m b' := by
  obtain ⟨r, blank, loaded, represented, empty, loading, kept⟩ := h
  exact ⟨r, blank, loaded, represented, empty, loading, kept.trans same⟩

end

namespace Linked

/-- The backend with the number has just been loaded from the model, and is attached. -/
structure Loaded [Zero K] [One K] [Add K] [BEq K] [LT K] [DecidableLT K] [Numeral N K]
    [CheckedArithmetic N K V] (t : Linked N K V) (m : Model N K) (number : Nat) : Prop where
  backend : t.attachment.backend = some number
  revision : t.attachment.handleMap.revision = some m.revision
  solvedRevision : t.attachment.solvedRevision = none
  results : t.attachment.results = .none
  built : ∃ b, t.workshop.backends[number]? = some b ∧ t.attachment.IsLoaded m b

/-- No load has been completed: the attachment keeps its backend and its results, but may have
fallen out of step. -/
structure Missed (l t : Linked N K V) : Prop where
  backend : t.attachment.backend = l.attachment.backend
  solvedRevision : t.attachment.solvedRevision = l.attachment.solvedRevision
  results : t.attachment.results = l.attachment.results
  hasObjective : t.attachment.hasObjective = l.attachment.hasObjective
  kept : t.attachment.handleMap.revision = none ∨
    t.attachment.handleMap = l.attachment.handleMap ∧
      ∀ (number : Nat) (b : Backend N K V), l.workshop.backends[number]? = some b →
        t.workshop.backends[number]? = some b

/-- Backends are built afresh whenever one is built. -/
def BuildsAfresh (l : Linked N K V) : Prop :=
  ∀ source, l.attachment.source = some source → ∃ spec, source = .fresh spec

theorem Missed.refl (l : Linked N K V) : l.Missed l :=
  ⟨rfl, rfl, rfl, rfl, .inr ⟨rfl, fun _ _ stands => stands⟩⟩

/-- What an operation is about that may load a backend: it tells its number once the load is
complete. -/
def Links [Zero K] [One K] [Add K] [BEq K] [LT K] [DecidableLT K] [Numeral N K]
    [CheckedArithmetic N K V] (m : Model N K) (l : Linked N K V)
    (result : Except AttachmentError (Option Nat)) (t : Linked N K V) : Prop :=
  t.BuildsAfresh ∧
    match result with
    | .ok (some number) => t.Loaded m number
    | _ => l.Missed t

end Linked

namespace Backend

theorem isEmpty_ofSpec [Zero K] (spec : BackendSpec N) :
    (ofSpec spec : Backend N K V).isEmpty := by
  cases spec <;> rfl

theorem isEmpty_clear [Zero K] (b : Backend N K V) : b.clear.isEmpty := by
  cases b <;> rfl

end Backend

namespace Attachment

variable [Zero K] [One K] [Add K] [BEq K] [LT K] [DecidableLT K] [Numeral N K]
variable [CheckedArithmetic N K V] {m : Model N K} {l : Linked N K V}

/-- A load of an empty backend is completed, or the attachment is out of step. -/
theorem load_loads {number : Nat} {b : Backend N K V}
    (stands : l.workshop.backends[number]? = some b) (empty : b.isEmpty)
    {r : Representation N K} (represented : m.represent = .ok r) :
    Leaves (load m number r) l (fun result t => t.attachment.source = l.attachment.source ∧
      match result with
      | .ok _ => t.Loaded m number
      | .error _ => l.Missed t ∧ t.attachment.handleMap.revision = none) := by
  unfold load
  simp only [Leaves.bind_iff, Leaves.backend_iff, stands, Leaves.linkChange_iff, Leaves.put_iff,
    Leaves.lift_iff]
  cases loading : b.load r with
  | mk c result =>
    cases result with
    -- the handles were dropped before the backend was written to
    | error e => exact ⟨trivial, ⟨rfl, rfl, rfl, rfl, .inl rfl⟩, rfl⟩
    | ok loaded =>
      refine ⟨trivial, rfl, rfl, rfl, rfl, c, Workshop.getElem?_put stands, ?_⟩
      exact ⟨r, b, c, represented, empty, loading, .refl c⟩

/-- Attaching gives the number of the backend that has been loaded. -/
theorem attach_links (afresh : l.BuildsAfresh) {source? : Option (BackendSource N)}
    (fresh : ∀ source, source? = some source → ∃ spec, source = .fresh spec) :
    Leaves (attach m source?) l (fun result t => Linked.Links m l (result.map some) t) := by
  unfold attach
  simp only [Leaves.bind_iff, Leaves.attachment_iff]
  cases chosen : source?.or l.attachment.source with
  | none => exact ⟨afresh, .refl l⟩
  | some source =>
    obtain ⟨spec, rfl⟩ : ∃ spec, source = .fresh spec := by
      rcases Option.or_eq_some_iff.1 chosen with given | ⟨-, remembered⟩
      · exact fresh source given
      · exact afresh source remembered
    simp only [Leaves.bind_iff, Leaves.lift_iff]
    cases represented : m.represent with
    | error e => exact ⟨afresh, .refl l⟩
    | ok r =>
      -- the new backend stands behind those that are there, whose numbers stay
      let shelf : List (Backend N K V) := l.workshop.backends ++ [.ofSpec spec]
      have stands : shelf[l.workshop.backends.length]? = some (.ofSpec spec) := by simp [shelf]
      have keeps (number : Nat) (b : Backend N K V)
          (old : l.workshop.backends[number]? = some b) : shelf[number]? = some b := by
        have inside := (List.getElem?_eq_some_iff.1 old).1
        rw [← old]
        exact List.getElem?_append_left inside
      simp only [shelf] at stands keeps
      simp only [Except.mapError, Leaves.obtain_iff, Workshop.obtain, Workshop.build,
        Leaves.backend_iff, stands, Leaves.check_iff]
      split
      next => exact ⟨afresh, rfl, rfl, rfl, rfl, .inr ⟨rfl, keeps⟩⟩
      next =>
        simp only [Leaves.linkChange_iff]
        refine (load_loads stands (Backend.isEmpty_ofSpec spec) represented).mono
          fun result t ht => ?_
        have afresh' : t.BuildsAfresh := fun source hs =>
          ⟨spec, (Option.some.inj (ht.1.symm.trans hs)).symm⟩
        cases result with
        | error e =>
          obtain ⟨missed, broken⟩ := ht.2
          exact ⟨afresh', missed.backend, missed.solvedRevision, missed.results,
            missed.hasObjective, .inl broken⟩
        | ok u => exact ⟨afresh', ht.2⟩

/-- Adopting a backend loads it once it is empty. -/
theorem adopt_links (afresh : l.BuildsAfresh) (number : Nat) :
    Leaves (adopt m number) l
      (fun result t => Linked.Links m l (result.map (fun _ => some number)) t) := by
  unfold adopt
  simp only [Leaves.bind_iff, Leaves.lift_iff]
  cases represented : m.represent with
  | error e => exact ⟨afresh, .refl l⟩
  | ok r =>
    simp only [Except.mapError, Leaves.backend_iff]
    cases stands : l.workshop.backends[number]? with
    | none => exact ⟨afresh, .refl l⟩
    | some b =>
      simp only [Leaves.check_iff]
      split
      next => exact ⟨afresh, .refl l⟩
      next =>
        -- emptied or not, the backend is empty when it is loaded
        have loads (l' : Linked N K V) (c : Backend N K V)
            (stands' : l'.workshop.backends[number]? = some c) (empty : c.isEmpty)
            (same : l'.attachment = { l.attachment with isAdopted := true }) :
            Leaves (load m number r) l' (fun result t =>
              Linked.Links m l (result.map (fun _ => some number)) t) := by
          refine (load_loads stands' empty represented).mono fun result t ht => ?_
          have source : t.attachment.source = l.attachment.source := by rw [ht.1, same]
          refine ⟨fun s hs => afresh s (source ▸ hs), ?_⟩
          cases result with
          | error e =>
            obtain ⟨missed, broken⟩ := ht.2
            exact ⟨by rw [missed.backend, same], by rw [missed.solvedRevision, same],
              by rw [missed.results, same], by rw [missed.hasObjective, same], .inl broken⟩
          | ok u => exact ht.2
        by_cases empty : b.isEmpty
        · rw [if_neg (by simp [empty])]
          simp only [Leaves.bind_iff, Leaves.linkChange_iff]
          exact loads _ b stands empty rfl
        · rw [if_pos (by simp [empty])]
          simp only [Leaves.bind_iff, Leaves.put_iff, Leaves.linkChange_iff]
          exact loads _ b.clear (Workshop.getElem?_put stands) (Backend.isEmpty_clear b) rfl

/-! ## Coming up to date -/

/-- Builds the backend again where that is needed, and tells the number of the one that has been
loaded. -/
def resync (m : Model N K) : Link N K V (Option Nat) := do
  let a ← Link.attachment
  match a.state m with
  | .empty => some <$> attach m none
  | .stale =>
    if a.isAdopted then do
      let number ← attached
      (fun _ => some number) <$> adopt m number
    else some <$> attach m none
  | _ => return none

theorem ensureSynced_eq : (ensureSynced m : Link N K V Unit) = discard (resync m) := by
  have discarded {α : Type} (op : Link N K V α) : discard op = (fun _ => ()) <$> op := by
    simp [discard, Functor.discard, map_const]
  unfold ensureSynced resync
  simp only [discarded, map_bind]
  congr 1
  funext a
  cases a.state m with
  | stale => cases a.isAdopted <;> simp
  | _ => simp

theorem resync_links (afresh : l.BuildsAfresh) :
    Leaves (resync m) l (Linked.Links m l) := by
  have built : Leaves (some <$> attach m none) l (Linked.Links m l) :=
    Leaves.map_iff.2 (attach_links afresh (by simp))
  unfold resync
  simp only [Leaves.bind_iff, Leaves.attachment_iff]
  split
  next => exact built
  next =>
    split
    next =>
      unfold Attachment.attached
      simp only [Leaves.bind_iff, Leaves.attachment_iff]
      cases l.attachment.backend with
      | none => exact ⟨afresh, .refl l⟩
      | some number => exact Leaves.map_iff.2 (adopt_links afresh number)
    next => exact built
  next => exact ⟨afresh, .refl l⟩

omit [One K] [BEq K] [Numeral N K] [Zero K] [Add K] [LT K] [DecidableLT K]
  [CheckedArithmetic N K V] in
/-- A backend is attached and in step with the model. -/
theorem isCurrent_iff {a : Attachment N K} :
    a.state m = .clean ∨ a.state m = .solved ↔
      a.backend.isSome ∧ a.handleMap.revision = some m.revision := by
  unfold state isSynced
  cases a.backend with
  | none => simp
  | some number =>
    by_cases synced : a.handleMap.revision = some m.revision
    · by_cases solved : a.solvedRevision = some m.revision <;> simp [synced, solved]
    · simp [synced]

omit [One K] [BEq K] [Numeral N K] [Zero K] [Add K] [LT K] [DecidableLT K]
  [CheckedArithmetic N K V] in
theorem isSolved_iff {a : Attachment N K} :
    a.state m = .solved ↔ a.backend.isSome ∧ a.handleMap.revision = some m.revision ∧
      a.solvedRevision = some m.revision := by
  unfold state isSynced
  cases a.backend with
  | none => simp
  | some number =>
    by_cases synced : a.handleMap.revision = some m.revision
    · by_cases solved : a.solvedRevision = some m.revision <;> simp [synced, solved]
    · simp [synced]

/-- Nothing is loaded again if and only if nothing has to be. -/
theorem resync_none : Leaves (resync m : Link N K V (Option Nat)) l (fun result t =>
    result = .ok none → t = l ∧ (l.attachment.state m = .clean ∨ l.attachment.state m = .solved)) := by
  -- an operation that tells a number has loaded something
  have loads {α : Type} (number : α → Nat) (op : Link N K V α) (P : Prop) :
      Leaves ((fun a => some (number a)) <$> op) l (fun result t => result = .ok none → t = l ∧ P) := by
    refine Leaves.map_iff.2 ?_
    unfold Leaves
    intro none
    cases result : (op.run.run l).1 <;> rw [result] at none <;> cases none
  unfold resync
  simp only [Leaves.bind_iff, Leaves.attachment_iff]
  cases state : l.attachment.state m with
  | empty => exact loads id _ _
  | stale =>
    simp only
    split
    next =>
      unfold Attachment.attached
      simp only [Leaves.bind_iff, Leaves.attachment_iff]
      cases l.attachment.backend with
      | none =>
        intro none
        cases none
      | some number => exact loads (fun _ => number) _ _
    next => exact loads id _ _
  | clean => exact fun _ => ⟨rfl, .inl rfl⟩
  | solved => exact fun _ => ⟨rfl, .inr rfl⟩

/-- Coming up to date without an error means being up to date. -/
theorem ensureSynced_current (afresh : l.BuildsAfresh) :
    Leaves (ensureSynced m : Link N K V Unit) l (fun result t => result = .ok () →
      t.attachment.state m = .clean ∨ t.attachment.state m = .solved) := by
  have links := resync_links (m := m) afresh
  have unchanged := resync_none (m := m) (l := l)
  rw [ensureSynced_eq]
  refine Leaves.map_iff.2 ?_
  unfold Leaves at links unchanged ⊢
  generalize (resync m).run.run l = resynced at links unchanged ⊢
  rcases resynced with ⟨_ | _ | number, t⟩
  · exact fun none => nomatch none
  · obtain ⟨rfl, current⟩ := unchanged rfl
    exact fun _ => current
  · have loaded := links.2
    exact fun _ => isCurrent_iff.2 ⟨by rw [loaded.backend]; rfl, loaded.revision⟩

/-! ## Up to the call -/

/-- Nothing is attached, and there is nothing to attach. -/
def isIdle (a : Attachment N K) : Bool :=
  a.backend.isNone && a.source.isNone

/-- Everything a solve does before its call; gives the number of the backend to be called. -/
def prepare (m : Model N K) : Link N K V Nat := do
  if (← Link.attachment).isIdle then throw .nothingToSolve
  ensureSynced m
  checkObjective m

omit [Zero K] [One K] [Add K] [BEq K] [LT K] [DecidableLT K] [Numeral N K]
  [CheckedArithmetic N K V] in
/-- A number is given to the call if the attached backend has taken the objective. -/
theorem checkObjective_run {number : Nat} {b : Backend N K V}
    (attached : l.attachment.backend = some number)
    (stands : l.workshop.backends[number]? = some b) :
    (checkObjective m).run.run l =
      (if m.objective.isNonlinear && !b.supportsNonlinear then .error .nonlinear
        else if !l.attachment.hasObjective then
          .error (.unsupportedObjective b.name m.objective.kindName)
        else .ok number, l) := by
  have leaves : Leaves (checkObjective m) l (fun result t =>
      result = (if m.objective.isNonlinear && !b.supportsNonlinear then .error .nonlinear
        else if !l.attachment.hasObjective then
          .error (.unsupportedObjective b.name m.objective.kindName)
        else .ok number) ∧ t = l) := by
    unfold checkObjective Attachment.attached
    simp only [Leaves.bind_iff, Leaves.attachment_iff, attached, Leaves.pure_iff,
      Leaves.backend_iff, stands]
    by_cases nonlinear : (m.objective.isNonlinear && !b.supportsNonlinear) = true
    · rw [if_pos nonlinear, if_pos nonlinear]
      exact ⟨rfl, rfl⟩
    · rw [if_neg nonlinear, if_neg nonlinear]
      simp only [Leaves.bind_iff, Leaves.attachment_iff]
      by_cases refused : (!l.attachment.hasObjective) = true
      · rw [if_pos refused, if_pos refused]
        exact ⟨rfl, rfl⟩
      · rw [if_neg refused, if_neg refused]
        exact ⟨rfl, rfl⟩
  exact Prod.ext leaves.1 leaves.2

omit [Zero K] [One K] [Add K] [BEq K] [LT K] [DecidableLT K] [Numeral N K]
  [CheckedArithmetic N K V] in
/-- Looking whether the objective is taken changes nothing. -/
theorem checkObjective_keeps : ((checkObjective m).run.run l).2 = l := by
  have leaves : Leaves (checkObjective m) l (fun _ t => t = l) := by
    unfold checkObjective Attachment.attached
    simp only [Leaves.bind_iff, Leaves.attachment_iff]
    cases l.attachment.backend with
    | none => rfl
    | some number =>
      simp only [Leaves.pure_iff, Leaves.backend_iff]
      cases l.workshop.backends[number]? with
      | none => trivial
      | some b =>
        simp only
        split
        · rfl
        · simp only [Leaves.bind_iff, Leaves.attachment_iff]
          split <;> rfl
  exact leaves

theorem prepare_run_idle (idle : l.attachment.isIdle) :
    (prepare m).run.run l = (.error .nothingToSolve, l) := by
  have leaves : Leaves (prepare m) l (fun result t => result = .error .nothingToSolve ∧ t = l) := by
    unfold prepare
    simp only [Leaves.bind_iff, Leaves.attachment_iff, if_pos idle]
    exact ⟨rfl, rfl⟩
  exact Prod.ext leaves.1 leaves.2

theorem ensureSynced_idle (idle : l.attachment.isIdle) :
    (ensureSynced m).run.run l = (.error .noSource, l) := by
  obtain ⟨backend, source⟩ := Bool.and_eq_true_iff.1 idle
  have empty : l.attachment.state m = .empty := if_pos backend
  have leaves : Leaves (ensureSynced m) l (fun result t => result = .error .noSource ∧ t = l) := by
    unfold ensureSynced
    simp only [Leaves.bind_iff, Leaves.attachment_iff, empty]
    refine Leaves.map_iff.2 ?_
    unfold attach
    simp only [Leaves.bind_iff, Leaves.attachment_iff, Option.isNone_iff_eq_none.1 source]
    exact ⟨rfl, rfl⟩
  exact Prod.ext leaves.1 leaves.2

/-- Unless there is nothing to attach, a solve first comes up to date. -/
theorem prepare_run (busy : ¬ l.attachment.isIdle) :
    (prepare m).run.run l = (ensureSynced m >>= fun _ => checkObjective m).run.run l := by
  unfold prepare
  have start : (Link.attachment : Link N K V _).run.run l = (.ok l.attachment, l) := rfl
  rw [Link.run_bind_ok start, if_neg busy]

/-! ## The call -/

variable [Sub K] [Mul K] [Neg K] [Div K] [TextNumber K] [OperatorMeaning K]

/-- The call of a solve, and what is kept of how it ends. -/
def conclude (m : Model N K) (number : Nat) : Link N K V Unit := do
  match ← callBackend number with
  | .ok () => collect m number
  | .error e =>
    Link.change (fun a => { a with results := .ofFailure m.revision e.text })
    throw (.backend e)

theorem solve_eq : (solve m : Link N K V Unit) = prepare m >>= conclude m := by
  unfold solve prepare conclude isIdle
  simp only [bind_assoc]
  congr 1
  funext a
  split
  next => rfl
  next => exact (bind_assoc ..).symm

end Attachment

/-- How a call of a backend ends. -/
def Linked.outcome [Zero K] [One K] [Add K] [Sub K] [Mul K] [Neg K] [Div K] [LT K] [DecidableLT K]
    [TextNumber K] [OperatorMeaning K] [Numeral N K] [CheckedArithmetic N K V]
    (l : Linked N K V) (m : Model N K) (b : Backend N K V) : SolveOutcome N K :=
  let called := b.solve l.workshop.solver
  match called.2.2 with
  | .error e => .failed e
  | .ok () =>
    match Results.collect m.revision called.1 l.attachment.handleMap.handles with
    | .ok snapshot => .answered snapshot
    | .error e => .unread e

/-- A snapshot is one of the model as it is when the call is made. -/
theorem Linked.revision_of_answered [Zero K] [One K] [Add K] [Sub K] [Mul K] [Neg K] [Div K] [LT K]
    [DecidableLT K] [TextNumber K] [OperatorMeaning K] [Numeral N K] [CheckedArithmetic N K V]
    {l : Linked N K V} {m : Model N K} {b : Backend N K V} {snapshot : Results N K}
    (h : l.outcome m b = .answered snapshot) : snapshot.revision = some m.revision := by
  unfold outcome at h
  simp only at h
  split at h
  · cases h
  · split at h
    next collected =>
      obtain rfl := SolveOutcome.answered.inj h
      unfold Results.collect at collected
      obtain ⟨slots, -, built⟩ := Fallible.bind_eq_ok.1 collected
      obtain rfl := Fallible.pure_eq_ok.1 built
      rfl
    · cases h

namespace SolveOutcome

/-- What a solve gives to its caller. -/
def result : SolveOutcome N K → Except AttachmentError Unit
  | answered _ => .ok ()
  | failed e => .error (.backend e)
  | unread e => .error (.backend e)

/-- After a call that ends well a solve returns if the report can be read. -/
theorem result_outcome_eq_ok [Zero K] [One K] [Add K] [Sub K] [Mul K] [Neg K] [Div K] [LT K]
    [DecidableLT K] [TextNumber K] [OperatorMeaning K] [Numeral N K] [CheckedArithmetic N K V]
    {l : Linked N K V} {m : Model N K} {b c : Backend N K V} {solver : ScriptedSolver N}
    (called : b.solve l.workshop.solver = (c, solver, .ok ())) :
    (l.outcome m b).result = .ok () ↔
      ∃ snapshot, Results.collect m.revision c l.attachment.handleMap.handles = .ok snapshot := by
  unfold Linked.outcome
  simp only [called]
  cases Results.collect m.revision c l.attachment.handleMap.handles with
  | error e => exact iff_of_false nofun nofun
  | ok snapshot => exact iff_of_true rfl ⟨snapshot, rfl⟩

/-- What an attachment keeps. -/
def keep (revision : Nat) (a : Attachment N K) : SolveOutcome N K → Attachment N K
  | answered snapshot => { a with results := snapshot, solvedRevision := some revision }
  | failed e => { a with results := .ofFailure revision e.text }
  | unread _ => a

section Keep

variable (revision : Nat) (a : Attachment N K) (o : SolveOutcome N K)

@[simp]
theorem keep_source : (o.keep revision a).source = a.source := by
  cases o <;> rfl

@[simp]
theorem keep_backend : (o.keep revision a).backend = a.backend := by
  cases o <;> rfl

@[simp]
theorem keep_handleMap : (o.keep revision a).handleMap = a.handleMap := by
  cases o <;> rfl

@[simp]
theorem keep_hasObjective : (o.keep revision a).hasObjective = a.hasObjective := by
  cases o <;> rfl

end Keep

end SolveOutcome

/-- The attachment and its backend after a call. -/
theorem Attachment.conclude_run [Zero K] [One K] [Add K] [Sub K] [Mul K] [Neg K] [Div K] [LT K]
    [DecidableLT K] [TextNumber K] [OperatorMeaning K] [Numeral N K] [CheckedArithmetic N K V]
    {l : Linked N K V} {m : Model N K} {number : Nat} {b : Backend N K V}
    (stands : l.workshop.backends[number]? = some b) :
    (conclude m number).run.run l = ((l.outcome m b).result,
      ⟨{ l.workshop.put number (b.solve l.workshop.solver).1 with
          solver := (b.solve l.workshop.solver).2.1 },
        (l.outcome m b).keep m.revision l.attachment⟩) := by
  have leaves : Leaves (conclude m number) l (fun result t =>
      result = (l.outcome m b).result ∧ t =
        ⟨{ l.workshop.put number (b.solve l.workshop.solver).1 with
            solver := (b.solve l.workshop.solver).2.1 },
          (l.outcome m b).keep m.revision l.attachment⟩) := by
    unfold conclude callBackend
    simp only [Leaves.bind_iff, Leaves.backend_iff, stands, Leaves.get_iff, Leaves.set_iff,
      Leaves.pure_iff]
    unfold Linked.outcome
    cases called : b.solve l.workshop.solver with
    | mk c rest =>
      obtain ⟨solver, _ | u⟩ := rest
      · exact ⟨rfl, rfl⟩
      · -- results are read from the backend that the call has put back
        have there := Workshop.getElem?_put stands (c := c)
        unfold collect
        simp only [Leaves.bind_iff, Leaves.backend_iff, there, Leaves.attachment_iff,
          Leaves.lift_iff]
        cases Results.collect m.revision c l.attachment.handleMap.handles with
        | error e => exact ⟨rfl, rfl⟩
        | ok snapshot => exact ⟨rfl, rfl⟩
  exact Prod.ext leaves.1 leaves.2

end MathProg
