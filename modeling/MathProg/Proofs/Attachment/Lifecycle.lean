import MathProg.Attachment.Lifecycle
import MathProg.Proofs.Backend.Load

/-!
# What the operations on an attachment keep

All backends being in-memory ones, a backend that was built from a revision of the model holds the
representation of that revision, whatever operation came last and whether it succeeded or failed.
-/

namespace MathProg

variable {N K V : Type}

/-! ## Steps of operations -/

namespace Leaves

variable {α : Type} {l : Linked N K V}

@[simp] theorem attachment_iff {post : Except AttachmentError (Attachment N K) → Linked N K V → Prop} :
    Leaves Link.attachment l post ↔ post (.ok l.attachment) l :=
  Iff.rfl

@[simp] theorem linkChange_iff {f : Attachment N K → Attachment N K}
    {post : Except AttachmentError Unit → Linked N K V → Prop} :
    Leaves (Link.change f) l post ↔ post (.ok ()) { l with attachment := f l.attachment } :=
  Iff.rfl

@[simp] theorem lift_iff {ε : Type} {cause : ε → AttachmentError} {x : Except ε α}
    {post : Except AttachmentError α → Linked N K V → Prop} :
    Leaves (Link.lift cause x) l post ↔ post (x.mapError cause) l := by
  cases x <;> rfl

@[simp] theorem backend_iff {number : Nat}
    {post : Except AttachmentError (Backend N K V) → Linked N K V → Prop} :
    Leaves (Link.backend number) l post ↔
      match l.workshop.backends[number]? with
      | some b => post (.ok b) l
      | none => post (.error .notAttached) l := by
  unfold Link.backend
  rw [bind_iff, get_iff]
  simp only
  cases l.workshop.backends[number]? <;> rfl

@[simp] theorem put_iff {number : Nat} {b : Backend N K V}
    {post : Except AttachmentError Unit → Linked N K V → Prop} :
    Leaves (Link.put number b) l post ↔
      post (.ok ()) { l with workshop := l.workshop.put number b } :=
  Iff.rfl

@[simp] theorem obtain_iff [Zero K] {source : BackendSource N}
    {post : Except AttachmentError Nat → Linked N K V → Prop} :
    Leaves (Link.obtain source) l post ↔
      post (.ok (l.workshop.obtain source).1) { l with workshop := (l.workshop.obtain source).2 } :=
  Iff.rfl

@[simp] theorem check_iff {b : Backend N K V} {r : Representation N K}
    {post : Except AttachmentError Unit → Linked N K V → Prop} :
    Leaves (Attachment.check b r) l post ↔
      match b.unsupported? r with
      | some (function, set) => post (.error (.unsupportedConstraint b.name function set)) l
      | none => post (.ok ()) l := by
  unfold Attachment.check
  cases b.unsupported? r <;> rfl

end Leaves

/-! ## The invariant -/

variable [Zero K] [One K] [Add K] [BEq K] [Numeral N K]

/-- The backend of an attachment holds the model as it is now. -/
def Attachment.IsBuilt (a : Attachment N K) (m : Model N K) (b : InMemory N K) : Prop :=
  ∃ r, m.represent = .ok r ∧ b.Holds r a.handleMap.handles a.hasObjective

/-- Whatever is on the shelf or can be built is an in-memory backend. -/
structure Linked.InMemoryOnly (l : Linked N K V) : Prop where
  shelf : ∀ b ∈ l.workshop.backends, ∃ c, b = .inMemory c
  source : ∀ source, l.attachment.source = some source →
    ∃ settings, source = .fresh (.inMemory settings)

/-- No revision that an attachment remembers lies ahead of the model; if it is the model's own, the
attached backend has been built from the model. -/
structure Linked.Coherent (l : Linked N K V) (m : Model N K) : Prop where
  only : l.InMemoryOnly
  built : ∀ revision, l.attachment.handleMap.revision = some revision → revision ≤ m.revision ∧
    (revision = m.revision → ∀ number, l.attachment.backend = some number →
      ∃ b, l.workshop.backends[number]? = some (.inMemory b) ∧ l.attachment.IsBuilt m b)

omit [Zero K] [One K] [Add K] [BEq K] [Numeral N K] in
theorem Linked.InMemoryOnly.put {l : Linked N K V} (h : l.InMemoryOnly) (number : Nat)
    (b : InMemory N K) {a : Attachment N K} (same : a.source = l.attachment.source) :
    Linked.InMemoryOnly (V := V) ⟨l.workshop.put number (.inMemory b), a⟩ := by
  refine ⟨fun c hc => ?_, fun source hs => h.source source (same ▸ hs)⟩
  rcases List.mem_or_eq_of_mem_set hc with hc | rfl
  · exact h.shelf c hc
  · exact ⟨b, rfl⟩

omit [Zero K] [One K] [Add K] [BEq K] [Numeral N K] in
theorem Workshop.getElem?_put {w : Workshop N K V} {number : Nat} {b c : Backend N K V}
    (stands : w.backends[number]? = some b) : (w.put number c).backends[number]? = some c := by
  have inside : number < w.backends.length := (List.getElem?_eq_some_iff.1 stands).1
  simp [put, inside]

/-- A backend more on the shelf does not disturb the attached one. -/
theorem Linked.Coherent.withBackend {m : Model N K} {l : Linked N K V} (h : l.Coherent m)
    (b : InMemory N K) :
    Linked.Coherent (V := V) ⟨{ l.workshop with backends := l.workshop.backends ++ [.inMemory b] },
      l.attachment⟩ m := by
  refine ⟨⟨fun c hc => ?_, h.only.source⟩, fun revision hr => ?_⟩
  · rcases List.mem_append.1 hc with hc | hc
    · exact h.only.shelf c hc
    · exact ⟨b, List.mem_singleton.1 hc⟩
  · refine ⟨(h.built revision hr).1, fun same number hn => ?_⟩
    obtain ⟨c, hc, built⟩ := (h.built revision hr).2 same number hn
    have inside := (List.getElem?_eq_some_iff.1 hc).1
    exact ⟨c, by rw [List.getElem?_append_left inside, hc], built⟩

namespace Attachment

/-! ## Detaching -/

theorem detach_leaves {m : Model N K} {l : Linked N K V} (h : l.Coherent m) :
    Leaves detach l (fun _ t => t.Coherent m) :=
  ⟨⟨h.only.shelf, h.only.source⟩, fun _ none => nomatch none⟩

theorem setSource_leaves {m : Model N K} {l : Linked N K V} (h : l.Coherent m)
    {source? : Option (BackendSource N)}
    (fresh : ∀ source, source? = some source → ∃ settings, source = .fresh (.inMemory settings)) :
    Leaves (setSource source?) l (fun _ t => t.Coherent m) :=
  ⟨⟨h.only.shelf, fresh⟩, fun _ none => nomatch none⟩

/-! ## Building -/

variable [LT K] [DecidableLT K] [CheckedArithmetic N K V]

/-- Writing into an empty in-memory backend succeeds and builds it from the model. -/
theorem load_leaves {m : Model N K} {l : Linked N K V} (only : l.InMemoryOnly) {number : Nat}
    {b : InMemory N K} (stands : l.workshop.backends[number]? = some (.inMemory b))
    (empty : b.isEmpty) {r : Representation N K} (represented : m.represent = .ok r) :
    Leaves (load m number r) l (fun _ t => t.Coherent m) := by
  obtain ⟨loaded, handles, load_eq, holds, -⟩ := Backend.load_inMemory (V := V) empty r
  unfold load
  simp only [Leaves.bind_iff, Leaves.backend_iff, stands, Leaves.linkChange_iff, load_eq,
    Leaves.put_iff, Leaves.lift_iff, Except.mapError]
  refine ⟨only.put number loaded rfl, fun revision hr => ?_⟩
  obtain rfl : m.revision = revision := by simpa using hr
  refine ⟨Nat.le_refl _, fun _ number' hn => ?_⟩
  obtain rfl : number = number' := by simpa using hn
  exact ⟨loaded, Workshop.getElem?_put stands, r, represented, holds⟩

theorem attach_leaves {m : Model N K} {l : Linked N K V} (h : l.Coherent m)
    {source? : Option (BackendSource N)}
    (fresh : ∀ source, source? = some source → ∃ settings, source = .fresh (.inMemory settings)) :
    Leaves (attach m source?) l (fun _ t => t.Coherent m) := by
  unfold attach
  simp only [Leaves.bind_iff, Leaves.attachment_iff]
  cases chosen : source?.or l.attachment.source with
  | none => exact h
  | some source =>
    obtain ⟨settings, rfl⟩ : ∃ settings, source = .fresh (.inMemory settings) := by
      rcases Option.or_eq_some_iff.1 chosen with given | ⟨-, remembered⟩
      · exact fresh source given
      · exact h.only.source source remembered
    simp only [Leaves.bind_iff, Leaves.lift_iff]
    cases represented : m.represent with
    | error e => exact h
    | ok r =>
      simp only [Except.mapError, Leaves.obtain_iff, Workshop.obtain, Workshop.build]
      -- the new backend is behind all others, so what is attached stays in its place
      let b : InMemory N K := .new settings
      let shelf := l.workshop.backends ++ [.inMemory b]
      have more := h.withBackend b
      have stands : shelf[l.workshop.backends.length]? = some (.inMemory b) := by simp [shelf]
      simp only [Backend.ofSpec, Leaves.backend_iff, shelf, b] at stands ⊢
      simp only [stands, Leaves.check_iff]
      split
      next => exact more
      next =>
        simp only [Leaves.linkChange_iff]
        have only : (⟨{ l.workshop with backends := l.workshop.backends ++ [.inMemory b] },
            { l.attachment with
              source := some (.fresh (.inMemory settings)), isAdopted := false }⟩ :
            Linked N K V).InMemoryOnly :=
          ⟨more.only.shelf, fun source hs => ⟨settings, (Option.some.inj hs).symm⟩⟩
        refine (load_leaves only stands rfl represented).mono fun result t ht => ?_
        cases result <;> exact ht

/-- Adopting a backend, which is emptied first unless it counts as empty. -/
theorem adopt_leaves {m : Model N K} {l : Linked N K V} (h : l.Coherent m) (number : Nat) :
    Leaves (adopt m number) l (fun _ t => t.Coherent m) := by
  unfold adopt
  simp only [Leaves.bind_iff, Leaves.lift_iff]
  cases represented : m.represent with
  | error e => exact h
  | ok r =>
    simp only [Except.mapError, Leaves.backend_iff]
    cases stands : l.workshop.backends[number]? with
    | none => exact h
    | some b =>
      obtain ⟨b, rfl⟩ := h.only.shelf b (List.mem_of_getElem? stands)
      simp only [Leaves.check_iff]
      split
      next => exact h
      next =>
        -- either way the load begins on an empty backend, as `load_leaves` asks
        by_cases empty : (Backend.inMemory b : Backend N K V).isEmpty
        · rw [if_neg (by simp [empty])]
          simp only [Leaves.bind_iff, Leaves.linkChange_iff]
          have only : (⟨l.workshop, { l.attachment with isAdopted := true }⟩ :
              Linked N K V).InMemoryOnly := ⟨h.only.shelf, h.only.source⟩
          exact load_leaves only stands empty represented
        · rw [if_pos (by simp [empty])]
          simp only [Leaves.bind_iff, Leaves.put_iff, Leaves.linkChange_iff]
          have only : (⟨l.workshop.put number (.inMemory b.clear),
              { l.attachment with isAdopted := true }⟩ : Linked N K V).InMemoryOnly :=
            h.only.put number b.clear rfl
          exact load_leaves only (Workshop.getElem?_put stands) rfl represented

theorem ensureSynced_leaves {m : Model N K} {l : Linked N K V} (h : l.Coherent m) :
    Leaves (ensureSynced m) l (fun _ t => t.Coherent m) := by
  have attached : Leaves (discard (attach m none) : Link N K V Unit) l (fun _ t => t.Coherent m) :=
    Leaves.map_iff.2 (attach_leaves h (by simp))
  unfold ensureSynced
  simp only [Leaves.bind_iff, Leaves.attachment_iff]
  split
  next => exact attached
  next =>
    split
    next =>
      unfold Attachment.attached
      simp only [Leaves.bind_iff, Leaves.attachment_iff]
      cases l.attachment.backend with
      | none => exact h
      | some number => exact adopt_leaves h number
    next => exact attached
  next => exact h

end Attachment

/-! ## Solving -/

namespace InMemory

/-- Another solution, of the same problem under the same settings. -/
structure SameProblem (b c : InMemory N K) : Prop where
  problem : c.problem = b.problem
  settings : c.settings = b.settings

omit [One K] [Numeral N K] in
theorem SameProblem.holds {b c : InMemory N K} (same : b.SameProblem c) {r : Representation N K}
    {handles : Handles} {hasObjective : Bool} (h : b.Holds r handles hasObjective) :
    c.Holds r handles hasObjective := by
  have accepts : c.accepts r.objective = b.accepts r.objective := by
    unfold accepts supportsObjective
    rw [same.settings]
  refine ⟨?_, h.vars, ?_, ?_, h.nodup, h.accepted.trans accepts.symm, ?_⟩ <;> rw [same.problem]
  exacts [h.names, h.entries, h.constraints, h.objective]

omit [Zero K] [One K] [Add K] [BEq K] in
theorem inject_sameProblem {b c : InMemory N K} {i : Injection N} (h : b.inject i = .ok c) :
    b.SameProblem c := by
  -- every kind of data ends in the same write, after at most one reading of a name or a number
  have write {s : Solution N K} (hs : (pure { b with solution := s } :
      Except BackendError (InMemory N K)) = .ok c) : b.SameProblem c := by
    cases Fallible.pure_eq_ok.1 hs
    exact ⟨rfl, rfl⟩
  cases i <;> simp only [inject] at h
  case raw | resultCount => exact write h
  case failure => cases h
  case termination | statistic | dual =>
    split at h
    · first
      | exact write h
      | obtain ⟨_, -, h⟩ := Fallible.bind_eq_ok.1 h
        exact write h
    · cases h
  all_goals
    obtain ⟨_, -, h⟩ := Fallible.bind_eq_ok.1 h
    exact write h

omit [Zero K] [One K] [Add K] [BEq K] in
theorem injectAll_sameProblem (is : List (Injection N)) (b : InMemory N K) :
    b.SameProblem (b.injectAll is).1 := by
  induction is generalizing b with
  | nil => exact ⟨rfl, rfl⟩
  | cons i is ih =>
    rw [injectAll]
    cases injected : b.inject i with
    | error e => exact ⟨rfl, rfl⟩
    | ok c =>
      have first := inject_sameProblem injected
      have rest := ih c
      exact ⟨rest.problem.trans first.problem, rest.settings.trans first.settings⟩

omit [Zero K] [One K] [Add K] [BEq K] in
theorem solve_sameProblem (b : InMemory N K) : b.SameProblem b.solve.1 := by
  have rest := injectAll_sameProblem b.settings.onSolve { b with solveCount := b.solveCount + 1 }
  exact ⟨rest.problem, rest.settings⟩

end InMemory

/-- Solution data may change in any backend. -/
theorem Linked.Coherent.withSolution {m : Model N K} {l : Linked N K V} (h : l.Coherent m)
    {number : Nat} {b c : InMemory N K} (stands : l.workshop.backends[number]? = some (.inMemory b))
    (same : b.SameProblem c) (solver : ScriptedSolver N) :
    Linked.Coherent (V := V)
      ⟨{ l.workshop.put number (.inMemory c) with solver }, l.attachment⟩ m := by
  refine ⟨⟨(h.only.put number c rfl).shelf, h.only.source⟩, fun revision hr =>
    ⟨(h.built revision hr).1, ?_⟩⟩
  intro current number' hn
  obtain ⟨d, hd, r, represented, holds⟩ := (h.built revision hr).2 current number' hn
  by_cases here : number = number'
  · subst here
    obtain rfl : b = d := by simpa [stands] using hd
    exact ⟨c, Workshop.getElem?_put stands, r, represented, same.holds holds⟩
  · refine ⟨d, ?_, r, represented, holds⟩
    change (l.workshop.backends.set number _)[number']? = _
    rw [List.getElem?_set_ne here, hd]

namespace Attachment

theorem checkObjective_leaves {m : Model N K} {l : Linked N K V} (h : l.Coherent m) :
    Leaves (checkObjective m) l (fun _ t => t.Coherent m) := by
  unfold checkObjective Attachment.attached
  simp only [Leaves.bind_iff, Leaves.attachment_iff]
  cases l.attachment.backend with
  | none => exact h
  | some number =>
    simp only [Leaves.pure_iff, Leaves.backend_iff]
    cases l.workshop.backends[number]? with
    | none => exact h
    | some b =>
      simp only
      split
      · exact h
      · simp only [Leaves.bind_iff, Leaves.attachment_iff]
        split <;> exact h

variable [LT K] [DecidableLT K] [CheckedArithmetic N K V]
variable [Sub K] [Mul K] [Neg K] [Div K] [TextNumber K] [OperatorMeaning K]

omit [Mul K] [OperatorMeaning K] in
theorem callBackend_leaves {m : Model N K} {l : Linked N K V} (h : l.Coherent m) (number : Nat) :
    Leaves (callBackend number) l (fun _ t => t.Coherent m) := by
  unfold callBackend
  simp only [Leaves.bind_iff, Leaves.backend_iff]
  cases stands : l.workshop.backends[number]? with
  | none => exact h
  | some b =>
    obtain ⟨b, rfl⟩ := h.only.shelf b (List.mem_of_getElem? stands)
    exact h.withSolution stands b.solve_sameProblem l.workshop.solver

omit [Div K] [TextNumber K] in
theorem collect_leaves {m : Model N K} {l : Linked N K V} (h : l.Coherent m) (number : Nat) :
    Leaves (collect m number) l (fun _ t => t.Coherent m) := by
  unfold collect
  simp only [Leaves.bind_iff, Leaves.backend_iff]
  cases l.workshop.backends[number]? with
  | none => exact h
  | some b =>
    simp only [Leaves.attachment_iff, Leaves.lift_iff]
    cases Results.collect m.revision b l.attachment.handleMap.handles with
    | error e => exact h
    | ok results => exact ⟨⟨h.only.shelf, h.only.source⟩, h.built⟩

theorem solve_leaves {m : Model N K} {l : Linked N K V} (h : l.Coherent m) :
    Leaves (solve m) l (fun _ t => t.Coherent m) := by
  unfold solve
  simp only [Leaves.bind_iff, Leaves.attachment_iff]
  split
  next => exact h
  next =>
    simp only [Leaves.bind_iff]
    refine (ensureSynced_leaves h).mono fun result t ht => ?_
    cases result with
    | error e => exact ht
    | ok u =>
      simp only
      refine (checkObjective_leaves ht).mono fun result t ht => ?_
      cases result with
      | error e => exact ht
      | ok number =>
        simp only
        refine (callBackend_leaves ht number).mono fun result t ht => ?_
        cases result with
        | error e => exact ht
        | ok outcome =>
          cases outcome with
          | ok u => exact collect_leaves ht number
          -- a failed call replaces the results only, and `Coherent` does not read them
          | error e => exact ⟨⟨ht.only.shelf, ht.only.source⟩, ht.built⟩

end Attachment

end MathProg
