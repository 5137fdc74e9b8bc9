import MathProg.Proofs.Backend.Load
import MathProg.Proofs.Backend.NodeValue
import MathProg.Proofs.Model.Meaning

/-!
# The feasible set of an algebraic model

Of the constraints of a model, those of integrality become domains of variables and all others rows.
A row says what its constraint says. A domain replaces the one before, so that of several
constraints of integrality on one variable only the last one counts, whatever it says.
-/

namespace MathProg

open Fallible

variable {N K V : Type}

/-! ## Assignments -/

/-- The numbers of a domain. -/
def VariableDomain.Contains [Ring K] : VariableDomain → K → Prop
  | reals, _ => True
  | integers, x => ∃ k : Int, x = k
  | binary, x => x = 0 ∨ x = 1

namespace Algebraic

variable [CommRing K] [LinearOrder K] [Numeral N K] [CheckedArithmetic N K V]

/-- Whether the body of a row has a value between its bounds. -/
def Row.Holds (row : Row N V) (a : Nat → K) : Prop :=
  ∃ x, row.body.valueAt? N a = some x ∧
    (∀ n ∈ row.lower, Numeral.value n ≤ x) ∧ ∀ n ∈ row.upper, x ≤ Numeral.value n

/-- Whether numbers of the variables lie in the domains and satisfy all rows. Variables are numbered
from one. -/
structure Problem.Feasible (p : Problem N V) (a : Nat → K) : Prop where
  domains : ∀ (v : Nat) x, p.vars[v]? = some x → x.domain.Contains (a (v + 1))
  rows : ∀ row ∈ p.rows, row.Holds a

end Algebraic

namespace Entry

/-! ## Constraints of integrality -/

/-- The variable and the domain that a constraint of integrality gives it. -/
def domain? (e : Entry N K) : Option (Int × VariableDomain) :=
  match e.function, e.set with
  | .var v, .integer => some (v, .integers)
  | .var v, .zeroOne => some (v, .binary)
  | _, _ => none

/-- Whether a constraint gives the variable another domain that an earlier one has given it. -/
def replaces (d e : Entry N K) : Bool :=
  e.domain?.any (fun t => d.domain?.any (fun u => u.1 == t.1))

/-- Whether a constraint gives back the other integers to a variable that is zero or one. -/
def Relaxes (d e : Entry N K) : Prop :=
  ∃ v, e.domain? = some (v, .binary) ∧ d.domain? = some (v, .integers)

/-- The constraints that no later one replaces. -/
def lasting : List (Entry N K) → List (Entry N K)
  | [] => []
  | e :: es => if es.any (fun d => d.replaces e) then lasting es else e :: lasting es

/-- Whether no constraint gives the variable a domain. -/
def Unset (v : Int) (es : List (Entry N K)) : Prop :=
  ∀ e ∈ es, ∀ D, e.domain? ≠ some (v, D)

theorem exists_of_set {v : Int} {es : List (Entry N K)} (set : ¬ Unset v es) :
    ∃ e ∈ es, ∃ D, e.domain? = some (v, D) := by
  simpa only [Unset, not_forall, not_not, exists_prop] using set

theorem domain_eq_some {e : Entry N K} {v : Int} {D : VariableDomain} :
    e.domain? = some (v, D) ↔ e.function = .var v ∧
      (e.set = .integer ∧ D = .integers ∨ e.set = .zeroOne ∧ D = .binary) := by
  unfold domain?
  split
  next w function set => simp [function, set, eq_comm]
  next w function set => simp [function, set, eq_comm]
  next integer zeroOne =>
    constructor
    · intro h
      cases h
    · rintro ⟨function, ⟨set, -⟩ | ⟨set, -⟩⟩
      · exact (integer v function set).elim
      · exact (zeroOne v function set).elim

theorem lasting_subset {es : List (Entry N K)} : ∀ e ∈ lasting es, e ∈ es := by
  induction es with
  | nil => exact fun e h => h
  | cons e es ih =>
    intro d hd
    rw [lasting] at hd
    split at hd
    next => exact List.mem_cons_of_mem _ (ih d hd)
    next =>
      rcases List.mem_cons.1 hd with rfl | hd
      · exact List.mem_cons_self ..
      · exact List.mem_cons_of_mem _ (ih d hd)

theorem any_replaces {e : Entry N K} {v : Int} {D : VariableDomain} (given : e.domain? = some (v, D))
    (es : List (Entry N K)) : es.any (fun d => d.replaces e) = true ↔ ¬ Unset v es := by
  have one (d : Entry N K) : d.replaces e = true ↔ ∃ D, d.domain? = some (v, D) := by
    unfold replaces
    rw [given]
    cases d.domain? with
    | none => simp
    | some u =>
      obtain ⟨w, D'⟩ := u
      simp
  simp only [List.any_eq_true, one, Unset, not_forall, not_not, exists_prop]

theorem lasting_cons_of_none {e : Entry N K} (none : e.domain? = none) (es : List (Entry N K)) :
    lasting (e :: es) = e :: lasting es := by
  have kept : es.any (fun d => d.replaces e) = false := by
    simp [replaces, none]
  rw [lasting, kept]
  rfl

/-- A domain lasts if the variable is not given another one. -/
theorem forall_lasting_cons {e : Entry N K} {v : Int} {D : VariableDomain}
    (given : e.domain? = some (v, D)) (es : List (Entry N K)) (P : Entry N K → Prop) :
    (∀ d ∈ lasting (e :: es), P d) ↔ (Unset v es → P e) ∧ ∀ d ∈ lasting es, P d := by
  rw [lasting]
  split
  next replaced =>
    have set := (any_replaces given es).1 replaced
    exact ⟨fun h => ⟨fun unset => absurd unset set, h⟩, fun h => h.2⟩
  next kept =>
    have unset : Unset v es := not_not.1 fun set => kept ((any_replaces given es).2 set)
    rw [List.forall_mem_cons]
    exact ⟨fun h => ⟨fun _ => h.1, h.2⟩, fun h => ⟨h.1 unset, h.2⟩⟩

/-! ## What supported constraints say -/

variable [CommRing K] [LinearOrder K] [Numeral N K]

/-- Whether the function has a value in the set where positions have the given numbers. -/
def HoldsAt (x : Int → K) (e : Entry N K) : Prop :=
  ∃ c, e.function.scalarAt? x = some c ∧ e.set.HasNumber c

theorem holdsAt_iff {x : Int → K} {e : Entry N K} {c : K} (h : e.function.scalarAt? x = some c) :
    e.HoldsAt x ↔ e.set.HasNumber c := by
  unfold HoldsAt
  rw [h]
  simp

theorem holdsAt_domain {e : Entry N K} {v : Int} {D : VariableDomain}
    (given : e.domain? = some (v, D)) (x : Int → K) : e.HoldsAt x ↔ D.Contains (x v) := by
  obtain ⟨function, domain⟩ := domain_eq_some.1 given
  rw [holdsAt_iff (c := x v) (by rw [function]; rfl)]
  rcases domain with ⟨set, rfl⟩ | ⟨set, rfl⟩ <;> rw [set] <;> rfl

omit [LinearOrder K] [Numeral N K] in
/-- A supported constraint is on a scalar function. -/
theorem exists_scalarAt {e : Entry N K}
    (supported : Algebraic.supportsConstraint e.function.family e.set.family) (x : Int → K) :
    ∃ c, e.function.scalarAt? x = some c := by
  cases function : e.function with
  | var v => exact ⟨_, rfl⟩
  | affine f => exact ⟨_, rfl⟩
  | quadratic f => exact ⟨_, rfl⟩
  | _ =>
    rw [function] at supported
    unfold Algebraic.supportsConstraint at supported
    split at supported <;> simp [Function.family, Algebraic.scalarFamilies] at supported

theorem holds_iff_holdsAt (i : Meaning K) (model : Nat) {e : Entry N K}
    (supported : Algebraic.supportsConstraint e.function.family e.set.family) :
    e.Holds i model ↔ e.HoldsAt (i.place model) := by
  obtain ⟨c, hc⟩ := exists_scalarAt supported (i.place model)
  have value := Function.evaluate_of_scalarAt i model hc
  rw [holdsAt_iff hc, Holds, value]
  simp [ConstraintSet.Contains]

omit [LinearOrder K] [Numeral N K] in
theorem integers_of_binary {x : K} (h : VariableDomain.binary.Contains x) :
    VariableDomain.integers.Contains x := by
  rcases h with rfl | rfl
  · exact ⟨0, by simp⟩
  · exact ⟨1, by simp⟩

/-- Where no constraint gives integers back, a replaced constraint follows from the last one. -/
theorem forall_lasting_iff {es : List (Entry N K)} (kept : es.Pairwise (fun e d => ¬ d.Relaxes e))
    (x : Int → K) : (∀ e ∈ lasting es, e.HoldsAt x) ↔ ∀ e ∈ es, e.HoldsAt x := by
  refine ⟨fun h => ?_, fun h e he => h e (lasting_subset e he)⟩
  -- from the last constraint to the first, so that what replaces a domain is known to hold
  induction es with
  | nil => exact h
  | cons e es ih =>
    obtain ⟨first, others⟩ := List.pairwise_cons.1 kept
    cases given : e.domain? with
    | none =>
      rw [lasting_cons_of_none given, List.forall_mem_cons] at h
      exact List.forall_mem_cons.2 ⟨h.1, ih others h.2⟩
    | some t =>
      obtain ⟨v, D⟩ := t
      rw [forall_lasting_cons given] at h
      have rest := ih others h.2
      refine List.forall_mem_cons.2 ⟨?_, rest⟩
      by_cases unset : Unset v es
      · exact h.1 unset
      · -- some later constraint is on the same variable, and holds
        obtain ⟨d, hd, D', given'⟩ := exists_of_set unset
        have holds := (holdsAt_domain given' x).1 (rest d hd)
        rw [holdsAt_domain given]
        rcases (domain_eq_some.1 given).2 with ⟨-, rfl⟩ | ⟨-, rfl⟩
        · rcases (domain_eq_some.1 given').2 with ⟨-, rfl⟩ | ⟨-, rfl⟩
          · exact holds
          · exact integers_of_binary holds
        · rcases (domain_eq_some.1 given').2 with ⟨-, rfl⟩ | ⟨-, rfl⟩
          · exact absurd ⟨v, given, given'⟩ (first d hd)
          · exact holds

end Entry

/-! ## Writing one constraint -/

namespace Algebraic

variable [CommRing K] [LinearOrder K] [Numeral N K] [CheckedArithmetic N K V]

section Steps

variable [ExactArithmetic N K V] {p q : Problem N V} {f : Function K} {s : ConstraintSet N}

/-- A row says that the value of its function is in its set. -/
theorem Problem.row_holds {row : Row N V} {a : Nat → K} {c : K}
    (h : f.scalarAt? (fun v => a v.toNat) = some c) (built : p.row f s = .ok row) :
    row.Holds a ↔ s.HasNumber c := by
  obtain ⟨body, hbody, built⟩ := bind_eq_ok.1 built
  obtain ⟨bounds, hbounds, built⟩ := bind_eq_ok.1 built
  obtain ⟨-, -, built⟩ := bind_eq_ok.1 built
  obtain rfl := pure_eq_ok.1 built
  have value := Problem.valueAt_node h hbody
  have between : Row.Holds ⟨bounds.1, body, bounds.2⟩ a ↔
      (∀ n ∈ bounds.1, Numeral.value n ≤ c) ∧ ∀ n ∈ bounds.2, c ≤ Numeral.value n := by
    unfold Row.Holds
    rw [value]
    simp
  rw [between]
  cases s with
  | lessThan upper =>
    obtain rfl := Except.ok.inj hbounds
    simp [ConstraintSet.HasNumber]
  | greaterThan lower =>
    obtain rfl := Except.ok.inj hbounds
    simp [ConstraintSet.HasNumber]
  | equalTo value =>
    obtain rfl := Except.ok.inj hbounds
    simp [ConstraintSet.HasNumber, le_antisymm_iff, and_comm]
  | interval lower upper =>
    unfold boundsOf at hbounds
    simp only at hbounds
    split at hbounds
    next =>
      obtain rfl := Except.ok.inj hbounds
      simp [ConstraintSet.HasNumber]
    next => cases hbounds
  | _ => cases hbounds

omit [CommRing K] [LinearOrder K] [Numeral N K] [CheckedArithmetic N K V]
  [ExactArithmetic N K V] in
theorem Problem.setDomain_eq_ok {v : Int} {D : VariableDomain}
    (h : p.setDomain (.var v : Function K) D = .ok q) :
    1 ≤ v ∧ v ≤ p.vars.length ∧
      q = { p with vars := p.vars.modify (v.toNat - 1) (fun x => { x with domain := D }) } := by
  obtain ⟨number, found, set⟩ := bind_eq_ok.1 h
  obtain rfl := pure_eq_ok.1 set
  unfold domainVariable at found
  simp only at found
  split at found
  next inside =>
    obtain rfl := Except.ok.inj found
    exact ⟨inside.1, inside.2, rfl⟩
  next => cases found

omit [CommRing K] [LinearOrder K] [Numeral N K] [CheckedArithmetic N K V]
  [ExactArithmetic N K V] in
theorem bound_of_supported {e : Entry N K}
    (supported : supportsConstraint e.function.family e.set.family) (none : e.domain? = none) :
    e.set.family ∈ boundFamilies := by
  have noDomain : ∀ v D, e.domain? ≠ some (v, D) := fun v D given => by
    rw [none] at given
    cases given
  obtain ⟨name, function, set⟩ := e
  cases set with
  | integer =>
    cases function with
    | var v => exact absurd (Entry.domain_eq_some.2 ⟨rfl, .inl ⟨rfl, rfl⟩⟩) (noDomain v _)
    | _ => cases supported
  | zeroOne =>
    cases function with
    | var v => exact absurd (Entry.domain_eq_some.2 ⟨rfl, .inr ⟨rfl, rfl⟩⟩) (noDomain v _)
    | _ => cases supported
  | vector cone dimension =>
    simp [supportsConstraint, ConstraintSet.family, boundFamilies] at supported
  | matrix layout side =>
    simp [supportsConstraint, ConstraintSet.family, boundFamilies] at supported
  | _ => simp [ConstraintSet.family, boundFamilies]

omit [CommRing K] [LinearOrder K] [ExactArithmetic N K V] in
theorem Problem.extend_bound [LT K] [DecidableLT K] (bound : s.family ∈ boundFamilies) :
    p.extend f s = (do
      let row ← p.row f s
      return ({ p with rows := p.rows ++ [row] }, some p.rows.length)) := by
  cases s with
  | integer => simp [ConstraintSet.family, boundFamilies] at bound
  | zeroOne => simp [ConstraintSet.family, boundFamilies] at bound
  | _ => rfl

omit [CommRing K] [LinearOrder K] [ExactArithmetic N K V] in
theorem addConstraint_eq_ok [LT K] [DecidableLT K] {b b' : Algebraic N K V} {e : Entry N K}
    {handle : ConstraintHandle} (added : b.addConstraint e = (b', .ok handle)) :
    ∃ q place, { b.problem with nextConstraint := b.problem.nextConstraint + 1 }.extend e.function
        e.set = .ok (q, place) ∧ b'.problem.vars = q.vars ∧ b'.problem.rows = q.rows := by
  unfold addConstraint at added
  simp only at added
  split at added
  next q place extended =>
    obtain ⟨rfl, -⟩ := Prod.mk.inj added
    exact ⟨q, place, extended, rfl, rfl⟩
  next => cases congrArg Prod.snd added

/-- A supported constraint gives a variable a domain, or adds a row that says the same. -/
theorem addConstraint_cases [BEq K] [LawfulBEq K] {b b' : Algebraic N K V} {n : Nat} {e : Entry N K}
    {handle : ConstraintHandle} (within : e.function.Within n)
    (supported : supportsConstraint e.function.family e.set.family)
    (added : b.addConstraint (Backend.numberedEntry (List.range' 1 n) e) = (b', .ok handle)) :
    (∃ (v : Nat) (D : VariableDomain), e.domain? = some ((v : Int), D) ∧ v < b.problem.vars.length ∧
        b'.problem.vars = b.problem.vars.modify v (fun x => { x with domain := D }) ∧
        b'.problem.rows = b.problem.rows) ∨
      (e.domain? = none ∧ b'.problem.vars = b.problem.vars ∧
        ∃ row, b'.problem.rows = b.problem.rows ++ [row] ∧
          ∀ a : Nat → K, row.Holds a ↔ e.HoldsAt (fun v => a (v.toNat + 1))) := by
  obtain ⟨q, place, extended, vars, rows⟩ := addConstraint_eq_ok added
  have number : ∀ v ∈ e.function.support, Handles.number (List.range' 1 n) v = v + 1 := fun v hv =>
    Handles.number_of_range (within v hv).1 (within v hv).2
  cases given : e.domain? with
  | some t =>
    -- the variable of a domain is one of those that were added, under its number
    obtain ⟨v, D⟩ := t
    obtain ⟨function, domain⟩ := Entry.domain_eq_some.1 given
    have member : v ∈ e.function.support := by simp [function, Function.support]
    have inside := within v member
    have set : Problem.setDomain (K := K)
        { b.problem with nextConstraint := b.problem.nextConstraint + 1 } (.var (v + 1)) D = .ok q := by
      rw [← number v member]
      unfold Backend.numberedEntry at extended
      rw [function] at extended
      rcases domain with ⟨set, rfl⟩ | ⟨set, rfl⟩ <;> rw [set] at extended <;>
      · obtain ⟨q', set, same⟩ := bind_eq_ok.1 extended
        obtain ⟨rfl, -⟩ := Prod.mk.inj (pure_eq_ok.1 same)
        exact set
    obtain ⟨-, there, rfl⟩ := Problem.setDomain_eq_ok set
    simp only at there
    refine .inl ⟨v.toNat, D, ?_, by omega, ?_, rows⟩
    · rw [Int.toNat_of_nonneg inside.1]
    · rw [vars, show (v + 1).toNat - 1 = v.toNat by omega]
  | none =>
    unfold Backend.numberedEntry at extended
    rw [Problem.extend_bound (bound_of_supported supported given)] at extended
    obtain ⟨row, built, same⟩ := bind_eq_ok.1 extended
    obtain ⟨rfl, -⟩ := Prod.mk.inj (pure_eq_ok.1 same)
    refine .inr ⟨rfl, vars, row, rows, fun a => ?_⟩
    obtain ⟨c, hc⟩ := Entry.exists_scalarAt supported (fun v => a (v.toNat + 1))
    rw [Entry.holdsAt_iff hc]
    refine Problem.row_holds ?_ built
    rw [Function.scalarAt_mapVariables (x := fun v => a (v.toNat + 1)), hc]
    intro v hv
    rw [number v hv]
    exact congrArg a (by have := (within v hv).1; omega)

end Steps

/-! ## Writing all constraints -/

/-- What is left of feasibility while constraints are still to be written: the rows that are there
and the domains that will stay, and those of the constraints that will last. -/
structure Problem.FeasibleWith (p : Problem N V) (es : List (Entry N K)) (a : Nat → K) : Prop where
  rows : ∀ row ∈ p.rows, row.Holds a
  domains : ∀ (v : Nat) x, p.vars[v]? = some x → Entry.Unset v es → x.domain.Contains (a (v + 1))
  entries : ∀ e ∈ Entry.lasting es, e.HoldsAt (fun v => a (v.toNat + 1))

theorem Problem.feasibleWith_nil {p : Problem N V} {a : Nat → K} :
    p.FeasibleWith ([] : List (Entry N K)) a ↔ p.Feasible a := by
  constructor
  · intro h
    exact ⟨fun v x hx => h.domains v x hx (by simp [Entry.Unset]), h.rows⟩
  · intro h
    exact ⟨h.rows, fun v x hx _ => h.domains v x hx, by simp [Entry.lasting]⟩

/-- A domain that comes next is among those that will stay exactly if no later one replaces it. -/
theorem feasibleWith_domain {b b' : Algebraic N K V} {e : Entry N K} {es : List (Entry N K)}
    {v : Nat} {D : VariableDomain} (given : e.domain? = some ((v : Int), D))
    (inside : v < b.problem.vars.length)
    (vars : b'.problem.vars = b.problem.vars.modify v (fun x => { x with domain := D }))
    (rows : b'.problem.rows = b.problem.rows) (a : Nat → K) :
    b.problem.FeasibleWith (e :: es) a ↔ b'.problem.FeasibleWith es a := by
  have entries := Entry.forall_lasting_cons given es
    (fun e => e.HoldsAt (fun v : Int => a (v.toNat + 1)))
  have domain := Entry.holdsAt_domain given (fun v : Int => a (v.toNat + 1))
  simp only [Int.toNat_natCast] at domain
  have unset_cons (w : Nat) : Entry.Unset w (e :: es) ↔ w ≠ v ∧ Entry.Unset w es := by
    unfold Entry.Unset
    rw [List.forall_mem_cons, given]
    simp [eq_comm]
  have here : b'.problem.vars[v]?
      = (b.problem.vars[v]?).map (fun x => { x with domain := D }) := by
    simp [vars]
  have elsewhere (w : Nat) (other : w ≠ v) : b'.problem.vars[w]? = b.problem.vars[w]? := by
    simp [vars, other.symm]
  constructor
  · intro h
    obtain ⟨last, lasting⟩ := entries.1 h.entries
    refine ⟨rows ▸ h.rows, fun w x hx unset => ?_, lasting⟩
    by_cases same : w = v
    · -- the new domain counts, since it is the last one of its variable
      subst same
      rw [here] at hx
      obtain ⟨y, -, rfl⟩ := Option.map_eq_some_iff.1 hx
      exact domain.1 (last unset)
    · rw [elsewhere w same] at hx
      exact h.domains w x hx ((unset_cons w).2 ⟨same, unset⟩)
  · intro h
    refine ⟨rows ▸ h.rows, fun w x hx unset => ?_, entries.2 ⟨fun unset => ?_, h.entries⟩⟩
    · obtain ⟨other, unset⟩ := (unset_cons w).1 unset
      exact h.domains w x ((elsewhere w other).trans hx) unset
    · have there := List.getElem?_eq_getElem inside
      rw [there] at here
      exact domain.2 (h.domains v _ here unset)

/-- A row that comes next says what its constraint says, and no domain is replaced by it. -/
theorem feasibleWith_row {b b' : Algebraic N K V} {e : Entry N K} {es : List (Entry N K)}
    (none : e.domain? = none) (vars : b'.problem.vars = b.problem.vars) {row : Row N V}
    (rows : b'.problem.rows = b.problem.rows ++ [row]) {a : Nat → K}
    (meaning : row.Holds a ↔ e.HoldsAt (fun v => a (v.toNat + 1))) :
    b.problem.FeasibleWith (e :: es) a ↔ b'.problem.FeasibleWith es a := by
  have unset_cons (w : Int) : Entry.Unset w (e :: es) ↔ Entry.Unset w es := by
    unfold Entry.Unset
    rw [List.forall_mem_cons, none]
    simp
  have entries (P : Entry N K → Prop) :
      (∀ d ∈ Entry.lasting (e :: es), P d) ↔ P e ∧ ∀ d ∈ Entry.lasting es, P d := by
    rw [Entry.lasting_cons_of_none none, List.forall_mem_cons]
  have written : (∀ row ∈ b'.problem.rows, row.Holds a) ↔
      (∀ row ∈ b.problem.rows, row.Holds a) ∧ e.HoldsAt (fun v => a (v.toNat + 1)) := by
    rw [rows, List.forall_mem_append, List.forall_mem_singleton, meaning]
  constructor
  · intro h
    obtain ⟨first, others⟩ := (entries _).1 h.entries
    exact ⟨written.2 ⟨h.rows, first⟩,
      fun v x hx unset => h.domains v x (vars ▸ hx) ((unset_cons v).2 unset), others⟩
  · intro h
    obtain ⟨before, first⟩ := written.1 h.rows
    exact ⟨before, fun v x hx unset => h.domains v x (vars ▸ hx) ((unset_cons v).1 unset),
      (entries _).2 ⟨first, h.entries⟩⟩

variable [ExactArithmetic N K V] [BEq K] [LawfulBEq K] {n : Nat}

/-- Writing a constraint that comes next changes nothing of what is left. -/
theorem feasibleWith_cons {b b' : Algebraic N K V} {e : Entry N K} {es : List (Entry N K)}
    {handle : ConstraintHandle} (within : e.function.Within n)
    (supported : supportsConstraint e.function.family e.set.family)
    (added : b.addConstraint (Backend.numberedEntry (List.range' 1 n) e) = (b', .ok handle))
    (a : Nat → K) :
    b.problem.FeasibleWith (e :: es) a ↔ b'.problem.FeasibleWith es a := by
  rcases addConstraint_cases within supported added with
    ⟨v, D, given, inside, vars, rows⟩ | ⟨none, vars, row, rows, meaning⟩
  · exact feasibleWith_domain given inside vars rows a
  · exact feasibleWith_row none vars rows (meaning a)

/-- Written constraints say what they said before. -/
theorem addConstraints_feasible {es : List (Entry N K)} {b : Algebraic N K V} {c : Backend N K V}
    {handles : List ConstraintHandle} (within : ∀ e ∈ es, e.function.Within n)
    (supported : ∀ e ∈ es, supportsConstraint e.function.family e.set.family)
    (added : (Backend.algebraic b).addConstraints
      (es.map (Backend.numberedEntry (List.range' 1 n))) = (c, .ok handles)) :
    ∃ b' : Algebraic N K V, c = .algebraic b' ∧
      ∀ a : Nat → K, b.problem.FeasibleWith es a ↔ b'.problem.Feasible a := by
  induction es generalizing b handles with
  | nil =>
    obtain ⟨rfl, -⟩ := Prod.mk.inj added
    exact ⟨b, rfl, fun a => Problem.feasibleWith_nil⟩
  | cons e es ih =>
    obtain ⟨inside, within⟩ := List.forall_mem_cons.1 within
    obtain ⟨first, supported⟩ := List.forall_mem_cons.1 supported
    rw [List.map_cons, Backend.addConstraints] at added
    cases written : b.addConstraint (Backend.numberedEntry (List.range' 1 n) e) with
    | mk b₁ result =>
      have step : (Backend.algebraic b).addConstraint (Backend.numberedEntry (List.range' 1 n) e)
          = (.algebraic b₁, result) := by
        rw [Backend.addConstraint, written]
      rw [step] at added
      cases result with
      | error fault => cases congrArg Prod.snd added
      | ok handle =>
        cases rest : (Backend.algebraic b₁).addConstraints
            (es.map (Backend.numberedEntry (List.range' 1 n))) with
        | mk d result =>
          simp only [rest] at added
          cases result with
          | error fault => cases congrArg Prod.snd added
          | ok handles' =>
            obtain ⟨rfl, -⟩ := Prod.mk.inj added
            obtain ⟨b', rfl, feasible⟩ := ih within supported rest
            exact ⟨b', rfl, fun a => (feasibleWith_cons inside first written a).trans (feasible a)⟩

omit [LinearOrder K] [Numeral N K] [ExactArithmetic N K V] [BEq K] [LawfulBEq K] [CommRing K] in
/-- An objective is neither a domain nor a row. -/
theorem setObjective_keeps (b : Algebraic N K V) (sense : Sense) (f : Function K) :
    (b.setObjective sense f).1.problem.vars = b.problem.vars ∧
      (b.setObjective sense f).1.problem.rows = b.problem.rows := by
  unfold setObjective
  simp only
  split
  · split <;> exact ⟨rfl, rfl⟩
  · exact ⟨rfl, rfl⟩

end Algebraic

/-! ## Loading -/

namespace Backend

theorem addVariables_algebraic (b : Algebraic N K V) (names : List (Option String)) :
    (algebraic b : Backend N K V).addVariables names
      = (List.range' (b.problem.vars.length + 1) names.length, algebraic { b with problem :=
        { b.problem with vars := b.problem.vars ++ names.map (⟨·, .reals, none⟩) } }) := by
  induction names generalizing b with
  | nil => simp [addVariables]
  | cons name names ih =>
    simp only [addVariables, addVariable, Algebraic.addVariable, ih]
    simp [List.range'_succ]

variable [CommRing K] [LinearOrder K] [BEq K] [LawfulBEq K] [Numeral N K]
variable [CheckedArithmetic N K V] [ExactArithmetic N K V]

omit [LinearOrder K] [LawfulBEq K] [Numeral N K] [ExactArithmetic N K V] in
theorem offerObjective_algebraic (b : Algebraic N K V) (r : Representation N K)
    (vars : List Nat) :
    ∃ b', ((algebraic b).offerObjective r vars).1 = algebraic b' ∧
      b'.problem.vars = b.problem.vars ∧ b'.problem.rows = b.problem.rows := by
  unfold offerObjective
  split
  next => exact ⟨_, rfl, Algebraic.setObjective_keeps b _ _⟩
  next => exact ⟨b, rfl, rfl, rfl⟩

/-- What a completed load into a backend without variables and rows has written is feasible exactly
where all lasting constraints hold. -/
theorem load_algebraic {b : Algebraic N K V} {c : Backend N K V} {r : Representation N K}
    {loaded : Loaded} (noVars : b.problem.vars = []) (noRows : b.problem.rows = [])
    (within : ∀ e ∈ r.constraints, e.function.Within r.variableNames.length)
    (supported : ∀ e ∈ r.constraints,
      Algebraic.supportsConstraint e.function.family e.set.family)
    (complete : (algebraic b).load r = (c, .ok loaded)) :
    ∃ b', c = algebraic b' ∧ ∀ a : Nat → K, b'.problem.Feasible a ↔
      ∀ e ∈ Entry.lasting r.constraints, e.HoldsAt (fun v => a (v.toNat + 1)) := by
  unfold load at complete
  rw [addVariables_algebraic] at complete
  simp only [noVars, List.length_nil, List.nil_append, Nat.zero_add] at complete
  split at complete
  next => cases congrArg Prod.snd complete
  next d handles added =>
    obtain ⟨b₁, rfl, feasible⟩ := Algebraic.addConstraints_feasible within supported added
    obtain ⟨rfl, -⟩ := Prod.mk.inj complete
    obtain ⟨b', same, vars, rows⟩ := offerObjective_algebraic b₁ r
      (List.range' 1 r.variableNames.length)
    refine ⟨b', same, fun a => ?_⟩
    -- variables are added without a restriction
    have start : ∀ (v : Nat) (x : Algebraic.Variable N),
        (r.variableNames.map (fun name => (⟨name, .reals, none⟩ : Algebraic.Variable N)))[v]? = some x
        → x.domain.Contains (a (v + 1)) := by
      intro v x hx
      obtain ⟨name, -, rfl⟩ := List.mem_map.1 (List.mem_of_getElem? hx)
      trivial
    have same : b'.problem.Feasible a ↔ b₁.problem.Feasible a :=
      ⟨fun h => ⟨vars ▸ h.domains, rows ▸ h.rows⟩, fun h => ⟨vars ▸ h.domains, rows ▸ h.rows⟩⟩
    rw [same, ← feasible a]
    constructor
    · exact fun h => h.entries
    · exact fun h => ⟨by simp [noRows], fun v x hx _ => start v x hx, h⟩

end Backend

namespace Model

variable [CommRing K] [LinearOrder K] [BEq K] [LawfulBEq K] [Numeral N K]
variable [CheckedArithmetic N K V] [ExactArithmetic N K V]

/-- The algebraic model of a model is feasible exactly where all those constraints hold whose domain
no later one replaces. Where no variable that was to be zero or one is given back the other
integers, these are all constraints. -/
theorem feasible_of_load (id : Nat) (name : Option String) (calls : List (ModelCall N K))
    (r : Representation N K) (represented : (ModelCall.run calls (.empty id name)).represent = .ok r)
    (supported : ∀ e ∈ r.constraints,
      Algebraic.supportsConstraint e.function.family e.set.family)
    (b b' : Algebraic N K V) (noVars : b.problem.vars = []) (noRows : b.problem.rows = [])
    (loaded : Loaded)
    (complete : (Backend.algebraic b).load r = (.algebraic b', .ok loaded)) (i : Meaning K) :
    (b'.problem.Feasible (fun v => i.number ⟨id, v - 1⟩) ↔
      ∀ e ∈ Entry.lasting r.constraints, e.Holds i id) ∧
    (r.constraints.Pairwise (fun e d => ¬ d.Relaxes e) →
      (b'.problem.Feasible (fun v => i.number ⟨id, v - 1⟩) ↔
        ∀ e ∈ r.constraints, e.Holds i id)) := by
  have tidy := (ModelCall.closed_run calls (closed_empty (N := N) (K := K) id name)).tidy represented
  obtain ⟨b'', same, feasible⟩ := Backend.load_algebraic noVars noRows
    (fun e he => (tidy.constraints e he).within) supported complete
  obtain rfl := Backend.algebraic.inj same
  have feasible : b'.problem.Feasible (fun v => i.number ⟨id, v - 1⟩) ↔
      ∀ e ∈ Entry.lasting r.constraints, e.HoldsAt (i.place id) :=
    feasible (fun v => i.number ⟨id, v - 1⟩)
  have holds (e : Entry N K) (he : e ∈ r.constraints) : e.Holds i id ↔ e.HoldsAt (i.place id) :=
    Entry.holds_iff_holdsAt i id (supported e he)
  have lasting : (∀ e ∈ Entry.lasting r.constraints, e.Holds i id) ↔
      ∀ e ∈ Entry.lasting r.constraints, e.HoldsAt (i.place id) :=
    forall₂_congr fun e he => holds e (Entry.lasting_subset e he)
  have all : (∀ e ∈ r.constraints, e.Holds i id) ↔ ∀ e ∈ r.constraints, e.HoldsAt (i.place id) :=
    forall₂_congr holds
  refine ⟨feasible.trans lasting.symm, fun kept => ?_⟩
  rw [feasible, all]
  exact Entry.forall_lasting_iff kept (i.place id)

/-- A variable that is held to integers first and then to zero and one, and a row on it. -/
def boundedCalls : List (ModelCall ℚ ℚ) :=
  [.addVariable ⟨some "x", none, none, none, true, false⟩,
    .addConstraint (.expression (.var ⟨0, 0⟩)) .zeroOne none,
    .addConstraint (.expression (.linear ⟨[(⟨0, 0⟩, 2)], 1⟩)) (.lessThan 2) none]

def boundedRepresentation : Representation ℚ ℚ where
  variableNames := [some "x"]
  sense := .feasibility
  objective := .affine .zero
  constraints := [⟨none, .var 0, .integer⟩, ⟨none, .var 0, .zeroOne⟩,
    ⟨none, .affine ⟨[(0, 2)], 0⟩, .lessThan 1⟩]

def boundedHandles : List ConstraintHandle :=
  [⟨1, .var, .integer⟩, ⟨2, .var, .zeroOne⟩, ⟨3, .affine, .lessThan⟩]

/-- What a load writes of it. -/
def boundedProblem : Algebraic.Problem ℚ ℚ where
  vars := [⟨some "x", .binary, none⟩]
  rows := [⟨none, .monomial 2 1, some 1⟩]
  constraints := boundedHandles.zip [none, none, some 0]
  nextConstraint := 4
  maximizes := false
  objective := some (.constant 0)

theorem feasible_of_load_bounded :
    ∃ (b' : Algebraic ℚ ℚ ℚ) (loaded : Loaded),
      (Backend.algebraic (.new ⟨"scripted", none, [], false⟩)).load boundedRepresentation
        = (.algebraic b', .ok loaded) ∧
      ∀ i : Meaning ℚ, b'.problem.Feasible (fun v => i.number ⟨0, v - 1⟩) ↔
        ∀ e ∈ boundedRepresentation.constraints, e.Holds i 0 := by
  let b : Algebraic ℚ ℚ ℚ := .new ⟨"scripted", none, [], false⟩
  have represented : (ModelCall.run boundedCalls (.empty 0 none)).represent
      = .ok boundedRepresentation := by cbv
  have complete : (Backend.algebraic b).load boundedRepresentation
      = (.algebraic { b with problem := boundedProblem }, .ok ⟨⟨[1], boundedHandles⟩, true⟩) := by cbv
  have supported : ∀ e ∈ boundedRepresentation.constraints,
      Algebraic.supportsConstraint e.function.family e.set.family := by decide
  have kept : boundedRepresentation.constraints.Pairwise (fun e d => ¬ d.Relaxes e) := by
    simp [boundedRepresentation, Entry.Relaxes, Entry.domain?]
  refine ⟨{ b with problem := boundedProblem }, _, complete, fun i => ?_⟩
  exact (feasible_of_load 0 none boundedCalls _ represented supported b _ rfl rfl _ complete i).2 kept

end Model

end MathProg
