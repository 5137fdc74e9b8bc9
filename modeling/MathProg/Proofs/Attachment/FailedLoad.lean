import MathProg.Attachment.Query
import MathProg.Proofs.Attachment.Screening
import MathProg.Number.Checked

/-!
# When a load fails

A backend may pass the check and still refuse a constraint or the objective when it is written. What
was attached before then stays attached with its results, but the attachment has forgotten its
handles, and remembers the source or the adoption that has just failed.
-/

namespace MathProg

variable {N K V : Type}

namespace Takeover

/-- What is built again after a takeover has failed: a source that was taken is tried once more, and
an adoption comes to the backend that is still attached. -/
def retry (a : Attachment N K) : Takeover N → Option (Takeover N)
  | attach source => some (.attach source)
  | adopt _ =>
    match a.backend with
    | some number => some (.adopt number)
    | none => a.source.map .attach

/-- The source that is remembered once a backend has passed the check. -/
def rememberedSource (a : Attachment N K) : Takeover N → Option (BackendSource N)
  | attach source => some source
  | adopt _ => a.source

def isAdoption : Takeover N → Bool
  | attach _ => false
  | adopt _ => true

/-- What a takeover leaves behind whose load has failed. -/
structure LeavesBehind [Zero K] (t : Takeover N) (l s : Linked N K V) : Prop where
  backend : s.attachment.backend = l.attachment.backend
  results : ∀ m, s.attachment.currentResults m = l.attachment.currentResults m
  /-- Only the backend that has failed is another one. -/
  others : ∀ (number : Nat) (b : Backend N K V), number ≠ t.number l.workshop →
    l.workshop.backends[number]? = some b → s.workshop.backends[number]? = some b
  source : s.attachment.source = t.rememberedSource l.attachment
  isAdopted : s.attachment.isAdopted = t.isAdoption
  handles : ∀ m o, s.attachment.handle m o = .error .notAttached
  state : ∀ m, s.attachment.state m = if l.attachment.backend.isNone then .empty else .stale
  rebuild : ∀ m, s.attachment.rebuild m = t.retry l.attachment

variable [Zero K]

theorem workshop_keeps {w : Workshop N K V} {number : Nat} {b : Backend N K V} (t : Takeover N)
    (stands : w.backends[number]? = some b) : (t.workshop w).backends[number]? = some b := by
  unfold workshop
  cases t.source with
  | fresh spec =>
    have inside := (List.getElem?_eq_some_iff.1 stands).1
    exact (List.getElem?_append_left inside).trans stands
  | existing other => exact stands

theorem offered?_fresh (w : Workshop N K V) (spec : BackendSpec N) :
    offered? w (.attach (.fresh spec)) = some (.ofSpec spec) := by
  show (w.backends ++ [Backend.ofSpec spec])[w.backends.length]? = _
  simp

omit [Zero K] in
theorem state_failed (a : Attachment N K) (t : Takeover N) (m : Model N K) :
    (t.failed a).state m = if a.backend.isNone then .empty else .stale := by
  have backend : (t.failed a).backend = a.backend := by cases t <;> rfl
  have revision : (t.failed a).isSynced m = false := rfl
  rw [Attachment.state, backend, revision]
  split <;> rfl

omit [Zero K] in
theorem rebuild_failed (a : Attachment N K) (t : Takeover N) (m : Model N K) :
    (t.failed a).rebuild m = t.retry a := by
  rw [Attachment.rebuild, state_failed]
  cases t with
  | attach source => cases a.backend <;> rfl
  | adopt number => cases backend : a.backend <;> simp [retry, failed, note, backend]

omit [Zero K] in
/-- Nothing is lost only where there was nothing to lose. -/
theorem failed_eq_iff (a : Attachment N K) (t : Takeover N) :
    t.failed a = a ↔ a.handleMap = .none ∧ a.source = t.rememberedSource a ∧
      a.isAdopted = t.isAdoption := by
  constructor
  · intro same
    have handles : (t.failed a).handleMap = a.handleMap := congrArg Attachment.handleMap same
    have source : (t.failed a).source = a.source := congrArg Attachment.source same
    have adopted : (t.failed a).isAdopted = a.isAdopted := congrArg Attachment.isAdopted same
    cases t <;> exact ⟨handles.symm, source.symm, adopted.symm⟩
  · obtain ⟨source, backend, isAdopted, hasObjective, solvedRevision, handleMap, results⟩ := a
    rintro ⟨handles, remembered, adopted⟩
    obtain rfl : handleMap = .none := handles
    cases t with
    | attach new =>
      obtain rfl : source = some new := remembered
      obtain rfl : isAdopted = false := adopted
      rfl
    | adopt number =>
      obtain rfl : isAdopted = true := adopted
      rfl

theorem leavesBehind (l : Linked N K V) (t : Takeover N) (c : Backend N K V) :
    t.LeavesBehind l
      ⟨(t.workshop l.workshop).put (t.number l.workshop) c, t.failed l.attachment⟩ where
  backend := by cases t <;> rfl
  results m := by cases t <;> rfl
  others number b other stands := by
    show ((t.workshop l.workshop).backends.set _ c)[number]? = some b
    rw [List.getElem?_set_ne other.symm]
    exact workshop_keeps t stands
  source := by cases t <;> rfl
  isAdopted := by cases t <;> rfl
  handles m o := rfl
  state := state_failed l.attachment t
  rebuild := rebuild_failed l.attachment t

variable [One K] [Add K] [BEq K] [LT K] [DecidableLT K] [Numeral N K] [CheckedArithmetic N K V]

/-- For every attachment and every model, and every takeover whose backend supports all constraints
but fails while it is written: the failure comes out, and the attachment keeps its backend and its
results. It keeps neither its handles nor its state, unless it had none, and remembers what has
failed: a source that builds new backends fails again in the same way as soon as the backend is to be
built again, and after an adoption the backend that is still attached is emptied and loaded again,
even if it came from a source. -/
theorem run_load_failed (m : Model N K) (l : Linked N K V) (t : Takeover N) {r : Representation N K}
    {b c : Backend N K V} {e : BackendError} (represented : m.represent = .ok r)
    (offered : t.offered? l.workshop = some b) (supported : b.SupportsAll r)
    (fails : (t.prepared b).load r = (c, .error e)) :
    ∃ s, (t.op m).run.run l = (.error (.backend e), s) ∧ t.LeavesBehind l s ∧
      (s.attachment = l.attachment ↔ l.attachment.handleMap = .none ∧
        l.attachment.source = t.rememberedSource l.attachment ∧
        l.attachment.isAdopted = t.isAdoption) ∧
      (∀ m' t', t.retry l.attachment = some t' →
        (Attachment.ensureSynced m').run.run s = (t'.op m').run.run s) ∧
      ∀ spec, t = .attach (.fresh spec) →
        ((Attachment.ensureSynced m).run.run s).1 = .error (.backend e) := by
  have passes : b.unsupported? r = none := Backend.unsupported?_eq_none.2 supported
  let s : Linked N K V :=
    ⟨(t.workshop l.workshop).put (t.number l.workshop) c, t.failed l.attachment⟩
  have left : t.LeavesBehind l s := t.leavesBehind l c
  have again (m' : Model N K) (t' : Takeover N) (ht : t.retry l.attachment = some t') :
      (Attachment.ensureSynced m').run.run s = (t'.op m').run.run s := by
    rw [Attachment.ensureSynced_run, left.rebuild m', ht]
  refine ⟨s, run_failed represented offered passes fails, left, ?_, again, ?_⟩
  · exact failed_eq_iff l.attachment t
  · rintro spec rfl
    -- the backend that is built then is the same one under another number
    have second : offered? s.workshop (.attach (.fresh spec)) = some b := by
      rw [offered?_fresh, ← offered?_fresh l.workshop spec, offered]
    rw [again m (.attach (.fresh spec)) rfl, run_failed represented second passes fails]

/-- A model with a constraint that has lost its only variable. -/
def vanishedCalls : List (ModelCall Number Float) :=
  [.addVariable (.named (some "x")),
    .addConstraint (.expression (.linear ⟨[(⟨0, 0⟩, 0)], 0⟩)) (.lessThan (.integer 1)) none]

/-- An algebraic backend takes no constraint without a variable. The attachment is in step with its
in-memory backend before, and out of step with it afterwards. -/
theorem run_load_failed_vanished :
    let m : Model Number Float := ModelCall.afterAll vanishedCalls (.empty 0 none)
    let l : Linked Number Float Quantity :=
      ((Attachment.ensureSynced m).run.run ⟨.empty, .new (some (.fresh (.inMemory .standard)))⟩).2
    let algebraic : BackendSource Number := .fresh (.algebraic ⟨"scripted", none, [], false⟩)
    l.attachment.state m = .clean ∧
    ∃ s, ((Takeover.attach algebraic).op m).run.run l
        = (.error (.backend .invalidConstraint), s) ∧
      s.attachment.backend = some 0 ∧ s.attachment.source = some algebraic ∧
      s.attachment.state m = .stale ∧
      ((Attachment.ensureSynced m).run.run s).1 = .error (.backend .invalidConstraint) := by
  intro m l algebraic
  obtain ⟨s, run, left, -, -, again⟩ := run_load_failed m l (.attach algebraic)
    (r := ⟨[some "x"], .feasibility, .affine .zero, [⟨none, .affine .zero, .lessThan (.integer 1)⟩]⟩)
    (e := .invalidConstraint) rfl rfl (fun e he => by obtain rfl := List.mem_singleton.1 he; rfl) rfl
  exact ⟨rfl, s, run, left.backend, left.source, left.state m, again _ rfl⟩

end Takeover

end MathProg
