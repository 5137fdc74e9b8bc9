import MathProg.Proofs.Attachment.History
import MathProg.Proofs.Attachment.Screening
import MathProg.Proofs.Backend.Alike

/-!
# Adopting a used backend

A backend that is adopted is emptied first, unless it counts as empty already. It counts as empty as
soon as it has neither variables nor constraints, whatever else has been left in it. Where nothing
else is left, its past has no effect on anything that is read later; where a solution is left, this
solution is still there after the adoption.
-/

namespace MathProg

variable {N K V : Type}

/-! ## Worlds that differ in counters alone -/

section

variable {α β : Type} {R : α → β → Prop} {xs : List α} {ys : List β}

theorem forall₂_set (h : List.Forall₂ R xs ys) (i : Nat) {x : α} {y : β} (related : R x y) :
    List.Forall₂ R (xs.set i x) (ys.set i y) := by
  induction h generalizing i with
  | nil => exact .nil
  | cons first rest ih =>
    cases i with
    | zero => exact .cons related rest
    | succ i => exact .cons first (ih i)

end

/-- Whether two workshops hold the same backends, up to their counters. -/
structure Workshop.Alike (w w' : Workshop N K V) : Prop where
  backends : List.Forall₂ Backend.Alike w.backends w'.backends
  solver : w'.solver = w.solver

structure Linked.Alike (l l' : Linked N K V) : Prop where
  workshop : l.workshop.Alike l'.workshop
  attachment : l'.attachment = l.attachment

structure World.Alike (w w' : World N K V) : Prop where
  linked : w.linked.Alike w'.linked
  model : w'.model = w.model

namespace Workshop

variable {w w' : Workshop N K V}

theorem Alike.refl (w : Workshop N K V) : w.Alike w :=
  ⟨List.forall₂_same.2 fun b _ => .refl b, rfl⟩

theorem Alike.put (h : w.Alike w') (number : Nat) {b c : Backend N K V} (same : b.Alike c) :
    (w.put number b).Alike (w'.put number c) :=
  ⟨forall₂_set h.backends number same, h.solver⟩

theorem Alike.obtain [Zero K] (h : w.Alike w') (source : BackendSource N) :
    (w'.obtain source).1 = (w.obtain source).1 ∧
      (w.obtain source).2.Alike (w'.obtain source).2 := by
  cases source with
  | fresh spec =>
    refine ⟨h.backends.length_eq.symm, ?_, h.solver⟩
    exact List.rel_append h.backends (.cons (.refl _) .nil)
  | existing number => exact ⟨rfl, h⟩

theorem Alike.missing (h : w.Alike w') {number : Nat} (empty : w.backends[number]? = none) :
    w'.backends[number]? = none := by
  have related := Fallible.rel_getElem? h.backends number
  rw [empty] at related
  generalize w'.backends[number]? = place at related ⊢
  cases related
  rfl

theorem Alike.standing (h : w.Alike w') {number : Nat} {b : Backend N K V}
    (stands : w.backends[number]? = some b) :
    ∃ solves clears, w'.backends[number]? = some (b.counted solves clears) := by
  have related := Fallible.rel_getElem? h.backends number
  rw [stands] at related
  generalize w'.backends[number]? = place at related ⊢
  cases related with
  | some same =>
    obtain ⟨solves, clears, rfl⟩ := same
    exact ⟨solves, clears, rfl⟩

end Workshop

/-! ## Takeovers -/

namespace Takeover

variable [Zero K]

theorem prepared_alike {b c : Backend N K V} (t : Takeover N) (h : b.Alike c) :
    (t.prepared b).Alike (t.prepared c) := by
  obtain ⟨solves, clears, rfl⟩ := h
  cases t with
  | attach source => exact ⟨solves, clears, rfl⟩
  | adopt number =>
    unfold prepared
    rw [Backend.isEmpty_counted]
    by_cases empty : b.isEmpty
    · rw [if_pos empty, if_pos empty]
      exact ⟨solves, clears, rfl⟩
    · rw [if_neg empty, if_neg empty]
      apply Backend.IsBlank.alike b.isBlank_clear (Backend.isBlank_clear _)
      simp

/-- What is adopted is blank when it is loaded, unless something is left where it counts as empty. -/
theorem isBlank_prepared {b : Backend N K V} (number : Nat) (clean : b.isEmpty → b.IsBlank) :
    ((adopt number : Takeover N).prepared b).IsBlank := by
  show (if b.isEmpty then b else b.clear).IsBlank
  split
  next empty => exact clean empty
  next => exact b.isBlank_clear

variable [One K] [Add K] [BEq K] [LT K] [DecidableLT K] [Numeral N K] [CheckedArithmetic N K V]
variable {m : Model N K} {l l' : Linked N K V} {t : Takeover N} {b c : Backend N K V}

/-- Backends that are alike when their loads begin are alike when the loads end. -/
theorem run_alike_of_prepared {r : Representation N K} (represented : m.represent = .ok r)
    (attachment : l'.attachment = l.attachment)
    (number : t.number l'.workshop = t.number l.workshop)
    (shelf : ∀ d d', d.Alike d' → ((t.workshop l.workshop).put (t.number l.workshop) d).Alike
      ((t.workshop l'.workshop).put (t.number l.workshop) d'))
    (offered : t.offered? l.workshop = some b) (offered' : t.offered? l'.workshop = some c)
    (passes : b.unsupported? r = none) (passes' : c.unsupported? r = none)
    (prepared : (t.prepared b).Alike (t.prepared c)) :
    ((t.op m).run.run l').1 = ((t.op m).run.run l).1 ∧
      ((t.op m).run.run l).2.Alike ((t.op m).run.run l').2 := by
  obtain ⟨solves, clears, same⟩ := prepared
  cases loading : (t.prepared b).load r with
  | mk d result =>
    have loading' : (t.prepared c).load r = (d.counted solves clears, result) := by
      rw [same, Backend.load_counted, loading]
    have kept := shelf d (d.counted solves clears) ⟨solves, clears, rfl⟩
    -- both loads give this result, so the shelves and the attachments are left to compare
    cases result with
    | error e =>
      rw [run_failed represented offered passes loading,
        run_failed represented offered' passes' loading']
      refine ⟨rfl, number ▸ kept, ?_⟩
      rw [attachment]
    | ok x =>
      rw [run_loaded represented offered passes loading,
        run_loaded represented offered' passes' loading']
      refine ⟨rfl, number ▸ kept, ?_⟩
      rw [attachment, loaded, loaded, number]

/-- A takeover answers alike in workshops that are alike. -/
theorem run_alike (h : l.Alike l') (t : Takeover N) :
    ((t.op m).run.run l').1 = ((t.op m).run.run l).1 ∧
      ((t.op m).run.run l).2.Alike ((t.op m).run.run l').2 := by
  obtain ⟨number, workshop⟩ := h.workshop.obtain t.source
  have number : t.number l'.workshop = t.number l.workshop := number
  have workshop : (t.workshop l.workshop).Alike (t.workshop l'.workshop) := workshop
  -- every guard reads what the two have in common, so both runs go the same way
  cases represented : m.represent with
  | error e =>
    rw [run_eq, run_eq, outcome, outcome, represented]
    exact ⟨rfl, h⟩
  | ok r =>
    cases offered : t.offered? l.workshop with
    | none =>
      have offered' : t.offered? l'.workshop = none := by
        rw [offered?, number]
        exact workshop.missing offered
      rw [run_eq, run_eq, outcome, outcome, represented]
      simp only [offered, offered']
      exact ⟨trivial, workshop, h.attachment⟩
    | some b =>
      obtain ⟨solves, clears, stands⟩ := workshop.standing offered
      have offered' : t.offered? l'.workshop = some (b.counted solves clears) := by
        rw [offered?, number]
        exact stands
      have unsupported : (b.counted solves clears).unsupported? r = b.unsupported? r :=
        Backend.unsupported?_congr (b.spec_counted solves clears) r
      cases passes : b.unsupported? r with
      | none =>
        exact run_alike_of_prepared represented h.attachment number
          (fun d d' same => workshop.put _ same) offered offered' passes
          (unsupported.trans passes) (prepared_alike t ⟨solves, clears, rfl⟩)
      | some pair =>
        rw [run_refused represented offered passes,
          run_refused represented offered' (unsupported.trans passes), Backend.name_counted]
        exact ⟨rfl, workshop, h.attachment⟩

end Takeover

/-! ## Requests -/

namespace LoadRequest

variable [Zero K] [One K] [Add K] [Sub K] [Mul K] [Neg K] [Div K] [BEq K] [LT K] [DecidableLT K]
variable [TextNumber K] [OperatorMeaning K] [Numeral N K] [CheckedArithmetic N K V]
variable {m : Model N K} {l l' : Linked N K V} {q : LoadRequest N}

omit [Zero K] [One K] [Add K] [Sub K] [Mul K] [Neg K] [Div K] [BEq K] [LT K] [DecidableLT K]
  [TextNumber K] [OperatorMeaning K] [Numeral N K] [CheckedArithmetic N K V] in
theorem checkObjective_run_missing
    (missing : ∀ number, l.attachment.backend = some number →
      l.workshop.backends[number]? = none) :
    (Attachment.checkObjective m).run.run l = (.error .notAttached, l) := by
  have leaves : Leaves (Attachment.checkObjective m) l
      (fun result s => (result, s) = (.error .notAttached, l)) := by
    unfold Attachment.checkObjective Attachment.attached
    simp only [Leaves.bind_iff, Leaves.attachment_iff]
    cases attached : l.attachment.backend with
    | none => rfl
    | some number =>
      simp only [Leaves.pure_iff, Leaves.backend_iff, missing number attached]
  exact leaves

omit [BEq K] in
theorem conclude_run_missing {number : Nat} (missing : l.workshop.backends[number]? = none) :
    (Attachment.conclude m number).run.run l = (.error .notAttached, l) := by
  have leaves : Leaves (Attachment.conclude m number) l
      (fun result s => (result, s) = (.error .notAttached, l)) := by
    unfold Attachment.conclude Attachment.callBackend
    simp only [Leaves.bind_iff, Leaves.backend_iff, missing]
  exact leaves

omit [Zero K] [One K] [Add K] [Sub K] [Mul K] [Neg K] [Div K] [BEq K] [LT K] [DecidableLT K]
  [TextNumber K] [OperatorMeaning K] [Numeral N K] [CheckedArithmetic N K V] in
theorem checkObjective_alike (h : l.Alike l') :
    (Attachment.checkObjective m).run.run l'
      = (((Attachment.checkObjective m).run.run l).1, l') := by
  -- the attached backend, as far as it is there
  cases found : l.attachment.backend.bind (fun number => l.workshop.backends[number]?) with
  | none =>
    have missing (number : Nat) (attached : l.attachment.backend = some number) :
        l.workshop.backends[number]? = none := by
      simpa [attached] using found
    rw [checkObjective_run_missing missing, checkObjective_run_missing]
    rw [h.attachment]
    exact fun number attached => h.workshop.missing (missing number attached)
  | some b =>
    obtain ⟨number, attached, stands⟩ := Option.bind_eq_some_iff.1 found
    obtain ⟨solves, clears, stands'⟩ := h.workshop.standing stands
    have attached' : l'.attachment.backend = some number := by rw [h.attachment, attached]
    rw [Attachment.checkObjective_run attached stands,
      Attachment.checkObjective_run attached' stands', h.attachment]
    simp only [Backend.supportsNonlinear_counted, Backend.name_counted]

omit [BEq K] in
theorem conclude_alike (h : l.Alike l') (number : Nat) :
    ((Attachment.conclude m number).run.run l').1
        = ((Attachment.conclude m number).run.run l).1 ∧
      ((Attachment.conclude m number).run.run l).2.Alike
        ((Attachment.conclude m number).run.run l').2 := by
  cases stands : l.workshop.backends[number]? with
  | none =>
    rw [conclude_run_missing stands, conclude_run_missing (h.workshop.missing stands)]
    exact ⟨rfl, h⟩
  | some b =>
    obtain ⟨solves, clears, stands'⟩ := h.workshop.standing stands
    have outcome : l'.outcome m (b.counted solves clears) = l.outcome m b := by
      unfold Linked.outcome
      rw [h.workshop.solver, h.attachment, Backend.solve_counted]
      simp only [Backend.collect_counted]
    rw [Attachment.conclude_run stands, Attachment.conclude_run stands', outcome,
      h.workshop.solver, h.attachment, Backend.solve_counted]
    exact ⟨rfl, ⟨⟨forall₂_set h.workshop.backends number ⟨_, _, rfl⟩, rfl⟩, rfl⟩⟩

omit [BEq K] in
theorem rest_alike (h : l.Alike l') (q : LoadRequest N) :
    ((q.rest m).run.run l').1 = ((q.rest m).run.run l).1 ∧
      ((q.rest m).run.run l).2.Alike ((q.rest m).run.run l').2 := by
  cases q with
  | solve =>
    have checked' := checkObjective_alike (m := m) h
    show ((Attachment.checkObjective m >>= Attachment.conclude m).run.run l').1 = _ ∧ _
    unfold rest
    cases checked : (Attachment.checkObjective m).run.run l with
    | mk result s =>
      obtain rfl : s = l := (congrArg Prod.snd checked).symm.trans Attachment.checkObjective_keeps
      rw [checked] at checked'
      cases result with
      | error e =>
        rw [Link.run_bind_error checked, Link.run_bind_error checked']
        exact ⟨rfl, h⟩
      | ok number =>
        rw [Link.run_bind_ok checked, Link.run_bind_ok checked']
        exact conclude_alike h number
  | _ => exact ⟨rfl, h⟩

/-- A request answers alike if its takeover does. -/
theorem run_alike_of_takeover {t : Takeover N} (taken : q.takeover? m l.attachment = some t)
    (taken' : q.takeover? m l'.attachment = some t)
    (same : ((t.op m).run.run l').1 = ((t.op m).run.run l).1 ∧
      ((t.op m).run.run l).2.Alike ((t.op m).run.run l').2) :
    ((q.op m).run.run l').1 = ((q.op m).run.run l).1 ∧
      ((q.op m).run.run l).2.Alike ((q.op m).run.run l').2 := by
  rw [run_eq taken, run_eq taken']
  obtain ⟨result, left⟩ := same
  cases first : (t.op m).run.run l with
  | mk answer s =>
    cases first' : (t.op m).run.run l' with
    | mk answer' s' =>
      rw [first, first'] at result left
      obtain rfl : answer' = answer := result
      cases answer' with
      | error e =>
        rw [Link.run_bind_error first, Link.run_bind_error first']
        exact ⟨rfl, left⟩
      | ok u =>
        rw [Link.run_bind_ok first, Link.run_bind_ok first']
        exact rest_alike left q

/-- A request answers alike in workshops that are alike. -/
theorem run_alike (h : l.Alike l') (q : LoadRequest N) :
    ((q.op m).run.run l').1 = ((q.op m).run.run l).1 ∧
      ((q.op m).run.run l).2.Alike ((q.op m).run.run l').2 := by
  cases taken : q.takeover? m l.attachment with
  | none =>
    have taken' : q.takeover? m l'.attachment = none := by rw [h.attachment, taken]
    rw [run_none taken, run_none taken', h.attachment]
    cases q.obstacle? m l.attachment with
    | some e => exact ⟨rfl, h⟩
    | none => exact rest_alike h q
  | some t =>
    have taken' : q.takeover? m l'.attachment = some t := by rw [h.attachment, taken]
    exact run_alike_of_takeover taken taken' (t.run_alike h)

end LoadRequest

/-! ## Whole runs -/

namespace World

variable [Zero K] [One K] [Add K] [Sub K] [Mul K] [Neg K] [Div K] [BEq K] [LT K] [DecidableLT K]
variable [TextNumber K] [OperatorMeaning K] [Numeral N K] [CheckedArithmetic N K V]
variable {w w' : World N K V}

/-- The world after a run of happenings. -/
def onward (w : World N K V) (hs : List (Happening N K V)) : World N K V :=
  hs.foldl next w

/-- Whether two worlds cannot be told apart by asking: the attachments remember the same, every read
of every backend is the same, and every request is answered in the same way. -/
structure ShowsSame (w w' : World N K V) : Prop where
  model : w'.model = w.model
  attachment : w'.attachment = w.attachment
  solver : w'.linked.workshop.solver = w.linked.workshop.solver
  shelf : List.Forall₂ Backend.SameReads w.shelf w'.shelf
  answers : ∀ q : LoadRequest N, ((q.op w'.model).run.run w'.linked).1
    = ((q.op w.model).run.run w.linked).1

theorem Alike.showsSame (h : w.Alike w') : w.ShowsSame w' where
  model := h.model
  attachment := h.linked.attachment
  solver := h.linked.workshop.solver
  shelf := h.linked.workshop.backends.imp fun _ _ same => same.sameReads
  answers q := by
    rw [h.model]
    exact (q.run_alike h.linked).1

theorem Alike.link (h : w.Alike w') (q : LoadRequest N) :
    (w.link (q.op w.model)).Alike (w'.link (q.op w'.model)) := by
  refine ⟨?_, h.model⟩
  show Linked.Alike _ ((q.op w'.model).run.run w'.linked).2
  rw [h.model]
  exact (q.run_alike h.linked).2

omit [Zero K] [One K] [Add K] [Sub K] [Mul K] [Neg K] [Div K] [BEq K] [LT K] [DecidableLT K]
  [TextNumber K] [OperatorMeaning K] [Numeral N K] [CheckedArithmetic N K V] in
theorem Alike.place (h : w.Alike w') (number : Nat) {b c : Backend N K V} (same : b.Alike c) :
    (w.place number b).Alike (w'.place number c) :=
  ⟨⟨h.linked.workshop.put number same, h.linked.attachment⟩, h.model⟩

/-- An injection is taken or refused in both worlds. -/
theorem Alike.inject (h : w.Alike w') (number : Nat) (i : Injection N) :
    (w.next (.inject number i)).Alike (w'.next (.inject number i)) := by
  rw [next, next]
  cases stands : w.shelf[number]? with
  | none =>
    rw [show w'.shelf[number]? = none from h.linked.workshop.missing stands]
    exact h
  | some b =>
    obtain ⟨solves, clears, stands'⟩ := h.linked.workshop.standing stands
    rw [show w'.shelf[number]? = some (b.counted solves clears) from stands']
    cases b with
    | algebraic b => exact h
    | inMemory b =>
      simp only [Backend.counted, InMemory.inject_counted]
      cases b.inject i with
      | error e => exact h
      | ok c => exact h.place number ⟨solves, clears, rfl⟩

/-- Worlds that are alike stay alike whatever happens. -/
theorem Alike.next (h : w.Alike w') (happening : Happening N K V) :
    (w.next happening).Alike (w'.next happening) := by
  obtain ⟨⟨⟨shelf, solver⟩, attachment⟩, model⟩ := h
  have h : w.Alike w' := ⟨⟨⟨shelf, solver⟩, attachment⟩, model⟩
  cases happening with
  | edit call => exact ⟨h.linked, congrArg call.after model⟩
  | attach spec =>
    -- the number of the new backend is left out
    have request (w : World N K V) : w.link ((LoadRequest.attach (spec.map .fresh)).op w.model)
        = w.next (.attach spec) :=
      Chronicle.link_map w (fun _ => ()) (Attachment.attach w.model (spec.map .fresh))
    rw [← request w, ← request w']
    exact h.link (.attach (spec.map .fresh))
  | setSource spec => exact ⟨⟨⟨shelf, solver⟩, rfl⟩, model⟩
  | adopt number => exact h.link (.adopt number)
  | detach => exact ⟨⟨⟨shelf, solver⟩, congrArg Attachment.detached attachment⟩, model⟩
  | ensureSynced => exact h.link .ensureSynced
  | solve => exact h.link .solve
  | inject number i => exact h.inject number i
  | script script =>
    exact ⟨⟨⟨shelf, congrArg (fun s => { s with script }) solver⟩, attachment⟩, model⟩
  | provide b =>
    exact ⟨⟨⟨List.rel_append shelf (.cons (.refl b) .nil), solver⟩, attachment⟩, model⟩
  | write number b =>
    have remembered : w'.attachment = w.attachment := attachment
    rw [World.next, World.next, remembered]
    split
    · exact h
    · exact h.place number (.refl b)

theorem Alike.onward (h : w.Alike w') (hs : List (Happening N K V)) :
    (w.onward hs).Alike (w'.onward hs) := by
  induction hs generalizing w w' with
  | nil => exact h
  | cons happening hs ih => exact ih (h.next happening)

/-! ## The adoption -/

/-- For every world, every backend in it, whatever has been written into it, injected into it or
solved with it, and every request that comes to adopting it and whose load completes: if the backend
is blank wherever it counts as empty, then nothing that is read from then on, in any further run,
tells it from a new one with the same settings. If it does count as empty, then the solution that has
been left in it is still there after the load. -/
theorem adoption_forgets (w : World N K V) (number : Nat) (b : Backend N K V)
    (stands : w.shelf[number]? = some b) (q : LoadRequest N)
    (adopts : q.takeover? w.model w.attachment = some (.adopt number))
    (completes : (((Takeover.adopt number).op w.model).run.run w.linked).1 = .ok ()) :
    ((b.isEmpty → b.IsBlank) →
      ((q.op w.model).run.run (w.place number b.renewed).linked).1
          = ((q.op w.model).run.run w.linked).1 ∧
        ∀ hs, ((w.link (q.op w.model)).onward hs).ShowsSame
          (((w.place number b.renewed).link (q.op w.model)).onward hs)) ∧
    (b.isEmpty → ∃ c, b.SameSolution c ∧
      (((Takeover.adopt number).op w.model).run.run w.linked).2.workshop.backends[number]?
        = some c) := by
  obtain ⟨r, b', c, x, represented, offered, passes, loading⟩ := Takeover.exists_of_ok completes
  obtain rfl : b = b' := Option.some.inj (stands.symm.trans offered)
  constructor
  · intro clean
    have spec : b.renewed.spec = b.spec := Backend.spec_ofSpec b.spec
    let adoption : Takeover N := .adopt number
    let fresh : Linked N K V := (w.place number b.renewed).linked
    have same : ((adoption.op w.model).run.run fresh).1
          = ((adoption.op w.model).run.run w.linked).1 ∧
        ((adoption.op w.model).run.run w.linked).2.Alike
          ((adoption.op w.model).run.run fresh).2 :=
      Takeover.run_alike_of_prepared represented rfl rfl (fun d d' alike => by
        -- the other place of the shelf is written to in both worlds
        show (w.linked.workshop.put number d).Alike
          ((w.linked.workshop.put number b.renewed).put number d')
        rw [Takeover.put_put]
        exact (Workshop.Alike.refl _).put number alike)
      offered (Workshop.getElem?_put stands) passes
      ((Backend.unsupported?_congr spec r).trans passes)
      (Backend.IsBlank.alike (Takeover.isBlank_prepared number clean)
        (Takeover.isBlank_prepared number fun _ => b.isBlank_renewed)
        (by rw [Takeover.spec_prepared, Takeover.spec_prepared, spec]))
    have adopts' : q.takeover? w.model fresh.attachment = some adoption := adopts
    obtain ⟨answer, left⟩ := LoadRequest.run_alike_of_takeover adopts adopts' same
    refine ⟨answer, fun hs => ?_⟩
    have alike : (w.link (q.op w.model)).Alike
        ((w.place number b.renewed).link (q.op w.model)) := ⟨left, rfl⟩
    exact (alike.onward hs).showsSame
  · intro empty
    have untouched : (Takeover.adopt number : Takeover N).prepared b = b := if_pos empty
    refine ⟨c, ?_, ?_⟩
    · have kept := b.sameSolution_load r
      rw [untouched] at loading
      rw [loading] at kept
      exact kept
    · rw [Takeover.run_loaded represented offered passes loading]
      exact Workshop.getElem?_put offered

/-- A backend without a problem that was told of a result. -/
def toldEmpty : InMemory Number Float :=
  { InMemory.new .standard with
    solution := { InMemory.Solution.empty with resultCount := 1 } }

/-- The same with a variable. -/
def toldUsed : InMemory Number Float :=
  { toldEmpty with problem := { InMemory.Problem.empty with variableNames := [none] } }

/-- A model with a variable, and a backend to adopt. -/
def adoptionWorld (b : InMemory Number Float) : World Number Float Quantity :=
  ⟨ModelCall.afterAll [.addVariable (.named (some "x"))] (.empty 0 none),
    ⟨⟨[.inMemory b], .standard⟩, .new none⟩⟩

/-- The variable makes the difference: with it the result is forgotten, without it the result is still
told after the adoption. -/
theorem adoption_forgets_told :
    (∀ hs, (((adoptionWorld toldUsed).next (.adopt 0)).onward hs).ShowsSame
      (((adoptionWorld (.new .standard)).next (.adopt 0)).onward hs)) ∧
    ∃ c, ((adoptionWorld toldEmpty).next (.adopt 0)).shelf[0]? = some c ∧ c.resultCount = 1 := by
  constructor
  · have forgets := adoption_forgets (adoptionWorld toldUsed) 0 (.inMemory toldUsed) rfl (.adopt 0)
      rfl rfl
    exact (forgets.1 fun empty => nomatch empty).2
  · have keeps := adoption_forgets (adoptionWorld toldEmpty) 0 (.inMemory toldEmpty) rfl (.adopt 0)
      rfl rfl
    obtain ⟨c, same, stands⟩ := keeps.2 rfl
    refine ⟨c, stands, ?_⟩
    cases c with
    | inMemory c => exact congrArg InMemory.Solution.resultCount same
    | algebraic c => exact same.elim

end World

end MathProg
