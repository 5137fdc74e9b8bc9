import MathProg.Proofs.Attachment.History

/-!
# Solves over whole runs

A backend is called only after a complete load of the model as it is now, with the objective of the
model in it. How the calls have ended decides what is readable, and nearly decides whether the
attachment counts as solved: a failure that comes after an answer does not take the answer back.
-/

namespace MathProg

variable {N K V : Type}

/-! ## Objectives that are refused -/

/-- Whether the backend cannot take the objective of a model: a nonlinear one without support for
nonlinear problems, or another one of a type that it does not support. -/
def Backend.refuses (b : Backend N K V) (m : Model N K) (r : Representation N K) : Bool :=
  if m.objective.isNonlinear then !b.supportsNonlinear else !b.supportsObjective r.objective.family

/-- How a refused objective is reported. -/
def Backend.refusal (b : Backend N K V) (m : Model N K) : AttachmentError :=
  if m.objective.isNonlinear then .nonlinear else .unsupportedObjective b.name m.objective.kindName

variable [Zero K] [One K] [Add K] [BEq K] [Numeral N K]

theorem Backend.acceptsObjective_eq_not_refuses {m : Model N K} {r : Representation N K}
    (represented : m.represent = .ok r) (b : Backend N K V) :
    b.acceptsObjective r.objective = !b.refuses m r := by
  have objective := (Model.represent_eq_ok.1 represented).2.2.1
  -- only of a nonlinear function is more than the family looked at
  have plain {f : Function K} (h : f.family ≠ .nonlinear) :
      b.acceptsObjective f = b.supportsObjective f.family := by
    cases f with
    | nonlinear head args => exact absurd rfl h
    | _ => rfl
  unfold refuses
  cases ho : m.objective with
  | linear e =>
    rw [ho] at objective
    rw [← Except.ok.inj objective]
    exact (plain (by simp [Function.family])).trans (Bool.not_not _).symm
  | quadratic e =>
    rw [ho] at objective
    rw [← Except.ok.inj objective]
    refine (plain fun same => ?_).trans (Bool.not_not _).symm
    have family := e.family_toFunction
    simp [same, Algebraic.scalarFamilies] at family
  | nonlinear op args =>
    rw [ho] at objective
    obtain ⟨fs, -, built⟩ := Fallible.bind_eq_ok.1 objective
    rw [← Fallible.pure_eq_ok.1 built]
    exact (Bool.not_not _).symm

/-! ## The backend that is called -/

variable [LT K] [DecidableLT K] [CheckedArithmetic N K V]

namespace Chronicle

/-- The backend with the number is the one that the last completed load has written to, that load
was one of the model as it is now, and the objective of the model was taken and is there. -/
structure Callable (c : Chronicle N K V) (number : Nat) : Prop where
  state : c.world.state = .clean ∨ c.world.state = .solved
  attached : c.world.attachment.backend = some number
  loaded : c.loaded = some number
  built : ∃ b r, c.world.shelf[number]? = some b ∧ c.world.attachment.IsLoaded c.world.model b ∧
    c.world.model.represent = .ok r ∧ b.acceptsObjective r.objective ∧
    b.HoldsObjective r.sense
      (r.objective.mapVariables (Handles.number c.world.attachment.handleMap.handles.vars))

/-- A solve that finds its backend refusing the objective stops there; one that does not calls it. -/
theorem Sound.request_eq {c : Chronicle N K V} (h : c.Sound)
    (synced : ((Attachment.ensureSynced c.world.model).run.run c.world.linked).1 = .ok ()) :
    ∃ number b r, c.ready.world.attachment.backend = some number ∧
      c.ready.world.shelf[number]? = some b ∧ c.world.model.represent = .ok r ∧
      c.request = (if b.refuses c.world.model r then .error (b.refusal c.world.model)
        else .ok number) ∧
      (b.refuses c.world.model r →
        (c.ready.world.attachment.currentResults c.world.model).slots = []) := by
  have busy : ¬ c.world.attachment.isIdle := by
    intro idle
    rw [Attachment.ensureSynced_idle idle] at synced
    cases synced
  obtain ⟨-, number, b, loaded, stands, isLoaded, request⟩ := h.of_synced busy synced
  obtain ⟨r, blank, full, represented, -, loading, same⟩ := isLoaded
  have taken : c.ready.world.attachment.hasObjective = !b.refuses c.world.model r := by
    rw [← Backend.acceptsObjective_eq_not_refuses represented, same.acceptsObjective_eq]
    exact (Backend.load_ok loading).1
  refine ⟨number, b, r, h.ready.backend.trans loaded, stands, represented, ?_, fun refused => ?_⟩
  · rw [request, taken]
    unfold Backend.refuses Backend.refusal
    cases c.world.model.objective.isNonlinear <;> cases b.supportsNonlinear <;>
      cases b.supportsObjective r.objective.family <;> rfl
  · -- a backend that has refused the objective has never been called since its load
    have none : c.ready.calls = [] := h.ready.taken (by rw [taken, refused]; rfl)
    have results : c.ready.world.attachment.results = .none := by
      rw [h.ready.results, none]
      rfl
    unfold Attachment.currentResults Results.current
    rw [results]
    split <;> rfl

/-- What a solve calls can be called. -/
theorem Sound.callable {c : Chronicle N K V} (h : c.Sound) {number : Nat}
    (goes : c.request = .ok number) : c.ready.Callable number := by
  obtain ⟨state, loaded, taken, b, stands, isLoaded⟩ := h.of_request goes
  refine ⟨state, h.ready.backend.trans loaded, loaded, ?_⟩
  rw [c.ready_model]
  obtain ⟨r, blank, full, represented, empty, loading, same⟩ := isLoaded
  obtain ⟨accepted, holds⟩ := Backend.load_ok loading
  refine ⟨b, r, stands, ⟨r, blank, full, represented, empty, loading, same⟩, represented, ?_, ?_⟩
  · rw [same.acceptsObjective_eq]
    exact accepted.symm.trans taken
  · exact same.holdsObjective (holds taken)

/-- Where coming up to date fails, nothing is called. -/
theorem request_of_error {c : Chronicle N K V} {e : AttachmentError}
    (failed : ((Attachment.ensureSynced c.world.model).run.run c.world.linked).1 = .error e) :
    ∃ e', c.request = .error e' := by
  by_cases idle : c.world.attachment.isIdle
  · exact ⟨.nothingToSolve, by rw [request, Attachment.prepare_run_idle idle]⟩
  · have synced : (Attachment.ensureSynced c.world.model).run.run c.world.linked
        = (.error e, _) := Prod.ext failed rfl
    exact ⟨e, by rw [request, Attachment.prepare_run idle, Link.run_bind_error synced]⟩

variable [Sub K] [Mul K] [Neg K] [Div K] [TextNumber K] [OperatorMeaning K]

/-- Over every run of edits and operations: a solve that calls a backend calls the one that the last
completed load has written to, of the model as it is now and with its objective. Where the backend
refuses the objective there is no call, the solve reports it, and no results are readable. Where
coming up to date fails, the solve fails without a call, too. -/
theorem run_solve (id : Nat) (name : Option String) (shelf : List (Backend N K V))
    (solver : ScriptedSolver N) (spec : Option (BackendSpec N)) (hs : List (Happening N K V))
    (c : Chronicle N K V) (reached : c = (start id name shelf solver spec).run hs) :
    (∀ number, c.request = .ok number → c.ready.Callable number ∧
      (Attachment.solve c.world.model).run.run c.world.linked
        = (Attachment.conclude c.world.model number).run.run c.ready.world.linked) ∧
    (∀ e, c.request = .error e → c.solved = c.ready ∧
      (Attachment.solve c.world.model).run.run c.world.linked
        = (.error e, c.ready.world.linked)) ∧
    (∀ e, ((Attachment.ensureSynced c.world.model).run.run c.world.linked).1 = .error e →
      ∃ e', c.request = .error e') ∧
    (((Attachment.ensureSynced c.world.model).run.run c.world.linked).1 = .ok () →
      ∃ number b r, c.ready.world.attachment.backend = some number ∧
        c.ready.world.shelf[number]? = some b ∧ c.world.model.represent = .ok r ∧
        c.request = (if b.refuses c.world.model r then .error (b.refusal c.world.model)
          else .ok number) ∧
        (b.refuses c.world.model r →
          (c.ready.world.attachment.currentResults c.world.model).slots = [])) := by
  have sound : c.Sound := reached ▸ (sound_start id name shelf solver spec).run hs
  obtain ⟨stops, goes⟩ := c.solve_run
  refine ⟨fun number h => ⟨sound.callable h, goes number h⟩, fun e h => ⟨?_, stops e h⟩,
    fun e => request_of_error, sound.request_eq⟩
  rw [solved, h]

/-- A model with a nonlinear objective and a backend that takes none. -/
def refusedRun : Chronicle Number Float Quantity :=
  (start 0 none [] .standard (some (.inMemory .standard))).run
    [.edit (.addVariable (.named (some "x"))),
      .edit (.setNonlinearObjective (some .minimize) (.expression (.nonlinear .sin [.var ⟨0, 0⟩])))]

/-- The backend is loaded all the same, and the solve stops at the objective. -/
theorem run_solve_refused :
    refusedRun.request = .error .nonlinear ∧
    (Attachment.solve refusedRun.world.model).run.run refusedRun.world.linked
      = (.error .nonlinear, refusedRun.ready.world.linked) ∧
    refusedRun.ready.world.state = .clean :=
  ⟨rfl, ((run_solve 0 none [] .standard _ _ refusedRun rfl).2.1 .nonlinear rfl).2, rfl⟩

end Chronicle

/-! ## What calls leave -/

omit [Zero K] [One K] [Add K] [BEq K] [Numeral N K] [LT K] [DecidableLT K]
  [CheckedArithmetic N K V] in
theorem Call.isAnswered_iff {call : Call N K} :
    call.isAnswered = true ↔ ∃ snapshot, call.outcome = .answered snapshot := by
  unfold isAnswered
  cases call.outcome <;> simp

omit [Zero K] [One K] [Add K] [BEq K] [Numeral N K] [LT K] [DecidableLT K]
  [CheckedArithmetic N K V] in
/-- What stands after calls of one revision are results of that revision, if there are any. -/
theorem Call.revision_standing {calls : List (Call N K)} {revision : Nat}
    (same : ∀ call ∈ calls, call.revision = revision)
    (snapshots : ∀ call ∈ calls, ∀ snapshot, call.outcome = .answered snapshot →
      snapshot.revision = some call.revision) :
    standing calls = .none ∨ (standing calls).revision = some revision := by
  induction calls with
  | nil => exact .inl rfl
  | cons call calls ih =>
    have first : call.revision = revision := same call (List.mem_cons_self ..)
    unfold standing
    split
    next snapshot answered =>
      rw [snapshots call (List.mem_cons_self ..) snapshot answered, first]
      exact .inr rfl
    next e failed =>
      rw [first]
      exact .inr rfl
    next e unread =>
      exact ih (fun other ho => same other (List.mem_cons_of_mem _ ho))
        fun other ho => snapshots other (List.mem_cons_of_mem _ ho)

namespace Chronicle

/-- Calls are all of one revision, so either all of them are current or none is. -/
theorem Sound.currentCalls_eq {c : Chronicle N K V} (h : c.Sound) :
    c.currentCalls = c.calls ∧ (∀ call ∈ c.calls, call.revision = c.world.model.revision) ∨
      c.currentCalls = [] ∧ ∃ revision ≠ c.world.model.revision,
        ∀ call ∈ c.calls, call.revision = revision := by
  cases hc : c.calls with
  | nil => exact .inl ⟨by rw [currentCalls, hc]; rfl, fun _ none => nomatch none⟩
  | cons first calls =>
    have all : ∀ call ∈ c.calls, call.revision = first.revision := fun call hm =>
      h.together call hm first (hc ▸ List.mem_cons_self ..)
    rw [← hc, currentCalls]
    by_cases now : first.revision = c.world.model.revision
    · rw [now] at all
      exact .inl ⟨List.filter_eq_self.2 fun call hm => beq_iff_eq.2 (all call hm), all⟩
    · refine .inr ⟨List.filter_eq_nil_iff.2 fun call hm => ?_, _, now, all⟩
      rw [all call hm]
      simpa using now

/-- The results that can be read are those that stand after the current calls. -/
theorem Sound.currentResults_eq {c : Chronicle N K V} (h : c.Sound) :
    c.world.attachment.currentResults c.world.model = Call.standing c.currentCalls := by
  unfold Attachment.currentResults Results.current Results.isCurrent
  rw [h.results]
  rcases h.currentCalls_eq with ⟨calls, all⟩ | ⟨none, revision, other, all⟩
  · rw [calls]
    rcases Call.revision_standing all h.snapshots with nothing | now
    · rw [nothing]
      split <;> rfl
    · rw [now, if_pos (beq_self_eq_true _)]
  · rw [none]
    rcases Call.revision_standing all h.snapshots with nothing | before
    · rw [nothing]
      split <;> rfl
    · rw [before, if_neg (by simpa using other)]
      rfl

/-- An attachment in step counts as solved as soon as one of the current calls has been answered. -/
theorem Sound.solved_iff {c : Chronicle N K V} (h : c.Sound) :
    c.world.state = .solved ↔ c.world.attachment.isSynced c.world.model ∧
      ∃ call ∈ c.currentCalls, call.isAnswered := by
  have synced_iff : c.world.attachment.isSynced c.world.model ↔
      c.world.attachment.handleMap.revision = some c.world.model.revision := beq_iff_eq
  unfold World.state
  rw [Attachment.isSolved_iff, synced_iff, h.solvedRevision, h.backend]
  constructor
  · rintro ⟨-, synced, solved⟩
    refine ⟨synced, ?_⟩
    obtain ⟨call, found, now⟩ := Option.map_eq_some_iff.1 solved
    refine ⟨call, List.mem_filter.2 ⟨List.mem_of_find?_eq_some found, beq_iff_eq.2 now⟩, ?_⟩
    exact List.find?_some found
  · rintro ⟨synced, call, hc, answered⟩
    have member : call ∈ c.calls := (List.mem_filter.1 hc).1
    refine ⟨?_, synced, ?_⟩
    · cases loaded : c.loaded with
      | none => rw [h.attached loaded] at member; cases member
      | some number => rfl
    · obtain ⟨found, hf⟩ := Option.isSome_iff_exists.1 (List.find?_isSome.2 ⟨call, member, answered⟩)
      rw [hf, Option.map_some, (h.inStep _ synced).2.1 found (List.mem_of_find?_eq_some hf)]

variable [Sub K] [Mul K] [Neg K] [Div K] [TextNumber K] [OperatorMeaning K]

/-- Over every run of edits and operations: the readable results are those that the calls since the
last load have left, and an attachment that is in step counts as solved if and only if one of them
was answered. As long as none has failed after an answer, this means the latest one, whose snapshot
is then what is readable. -/
theorem run_solved (id : Nat) (name : Option String) (shelf : List (Backend N K V))
    (solver : ScriptedSolver N) (spec : Option (BackendSpec N)) (hs : List (Happening N K V))
    (c : Chronicle N K V) (reached : c = (start id name shelf solver spec).run hs) :
    (c.world.state = .solved ↔ c.world.attachment.isSynced c.world.model ∧
      ∃ call ∈ c.currentCalls, call.isAnswered) ∧
    c.world.attachment.currentResults c.world.model = Call.standing c.currentCalls ∧
    ((∀ call calls, c.currentCalls = call :: calls → call.isAnswered = false →
        ∀ earlier ∈ calls, earlier.isAnswered = false) →
      (c.world.state = .solved ↔ c.world.attachment.isSynced c.world.model ∧
        ∃ call calls snapshot, c.currentCalls = call :: calls ∧
          call.outcome = .answered snapshot ∧
          c.world.attachment.currentResults c.world.model = snapshot)) := by
  have sound : c.Sound := reached ▸ (sound_start id name shelf solver spec).run hs
  refine ⟨sound.solved_iff, sound.currentResults_eq, fun final => ?_⟩
  rw [sound.solved_iff, sound.currentResults_eq]
  refine and_congr_right fun _ => ⟨?_, ?_⟩
  · rintro ⟨call, hc, answered⟩
    cases current : c.currentCalls with
    | nil => rw [current] at hc; cases hc
    | cons latest calls =>
      -- an answer further back would have a failure after it
      have last : latest.isAnswered = true := by
        by_contra failed
        have none := final latest calls current (Bool.eq_false_iff.2 failed)
        rw [current] at hc
        rcases List.mem_cons.1 hc with rfl | earlier
        · exact failed answered
        · exact nomatch (none call earlier).symm.trans answered
      obtain ⟨snapshot, outcome⟩ := Call.isAnswered_iff.1 last
      refine ⟨latest, calls, snapshot, rfl, outcome, ?_⟩
      rw [Call.standing, outcome]
  · rintro ⟨call, calls, snapshot, current, outcome, -⟩
    exact ⟨call, current ▸ List.mem_cons_self .., Call.isAnswered_iff.2 ⟨snapshot, outcome⟩⟩

/-- A solver that answers once and then breaks down. -/
def brokenRun : Chronicle Number Float Quantity :=
  (start 0 none [] .standard (some (.algebraic ⟨"scripted", none, [], false⟩))).run
    [.edit (.addVariable (.named (some "x"))), .solve, .script (.failure "boom"), .solve]

/-- The latest call has failed, and the failure is what is readable, but the attachment still counts
as solved. -/
theorem run_solved_broken :
    brokenRun.world.state = .solved ∧
    (∃ earlier, brokenRun.currentCalls = [⟨1, .failed (.failed "boom")⟩, earlier]) ∧
    brokenRun.world.attachment.currentResults brokenRun.world.model = .ofFailure 1 "boom" := by
  have readable := (run_solved 0 none [] .standard _ _ brokenRun rfl).2.1
  exact ⟨rfl, ⟨_, rfl⟩, readable⟩

end Chronicle

end MathProg
