import MathProg.Proofs.Model.Represent
import MathProg.Proofs.Number.ExactValue
import MathProg.Proofs.Representation.Surplus

/-!
# Structural equality

Representations are equal if they have the same variables, sense and objective and their constraints
are permutations of one another, numbers being compared by what they stand for. What is told of a
difference lists every constraint as often as one side has it more than the other.
-/

namespace MathProg

open Fallible

variable {N K L : Type}

/-! ## Functions with other coefficients -/

section Containers

variable {α β γ : Type} [BEq α] [BEq β]

theorem list_beq_iff {φ : α → γ} {xs ys : List α}
    (kept : ∀ x ∈ xs, ∀ y ∈ ys, (x == y) = true ↔ φ x = φ y) :
    (xs == ys) = true ↔ xs.map φ = ys.map φ := by
  induction xs generalizing ys with
  | nil => cases ys <;> simp
  | cons x xs ih =>
    cases ys with
    | nil => simp
    | cons y ys =>
      rw [List.cons_beq_cons, Bool.and_eq_true, kept x (by simp) y (by simp),
        ih fun x hx y hy => kept x (List.mem_cons_of_mem _ hx) y (List.mem_cons_of_mem _ hy)]
      simp

/-- Terms are equal if their keys are and their coefficients stand for the same. -/
theorem terms_beq_iff [LawfulBEq α] {φ : β → γ} {ss ts : List (α × β)}
    (kept : ∀ c ∈ ss.map Prod.snd, ∀ d ∈ ts.map Prod.snd, (c == d) = true ↔ φ c = φ d) :
    (ss == ts) = true ↔ ss.map (Prod.map id φ) = ts.map (Prod.map id φ) := by
  refine list_beq_iff fun s hs t ht => ?_
  change (s.1 == t.1 && s.2 == t.2) = true ↔ _
  rw [Bool.and_eq_true, beq_iff_eq, kept _ (List.mem_map_of_mem hs) _ (List.mem_map_of_mem ht)]
  simp [Prod.ext_iff]

end Containers

namespace Affine

/-- The same function with every coefficient changed. -/
def mapCoefficients (φ : K → L) (f : Affine K) : Affine L :=
  ⟨f.terms.map (Prod.map id φ), φ f.constant⟩

/-- The coefficients and the constant. -/
def coefficients (f : Affine K) : List K :=
  f.constant :: f.terms.map Prod.snd

end Affine

namespace Function

mutual

/-- The same function with every coefficient changed. -/
def mapCoefficients (φ : K → L) : Function K → Function L
  | .number c => .number (φ c)
  | .var v => .var v
  | .affine f => .affine (f.mapCoefficients φ)
  | .quadratic f =>
    .quadratic ⟨f.pairs.map (Prod.map id φ), f.terms.map (Prod.map id φ), φ f.constant⟩
  | .vars vs => .vars vs
  | .rows fs => .rows (fs.map (Affine.mapCoefficients φ))
  | .nonlinear head args => .nonlinear head (mapAllCoefficients φ args)

def mapAllCoefficients (φ : K → L) : List (Function K) → List (Function L)
  | [] => []
  | f :: fs => f.mapCoefficients φ :: mapAllCoefficients φ fs

end

mutual

/-- All coefficients and constants. -/
def coefficients : Function K → List K
  | .number c => [c]
  | .var _ => []
  | .affine f => f.coefficients
  | .quadratic f => f.constant :: f.pairs.map Prod.snd ++ f.terms.map Prod.snd
  | .vars _ => []
  | .rows fs => fs.flatMap Affine.coefficients
  | .nonlinear _ args => coefficientsAll args

def coefficientsAll : List (Function K) → List K
  | [] => []
  | f :: fs => f.coefficients ++ coefficientsAll fs

end

end Function

section Same

variable [BEq K] {φ : K → L}

theorem Affine.beq_iff {f g : Affine K}
    (kept : ∀ c ∈ f.coefficients, ∀ d ∈ g.coefficients, (c == d) = true ↔ φ c = φ d) :
    (f == g) = true ↔ f.mapCoefficients φ = g.mapCoefficients φ := by
  change (f.terms == g.terms && f.constant == g.constant) = true ↔ _
  rw [Bool.and_eq_true, kept _ (by simp [coefficients]) _ (by simp [coefficients]),
    terms_beq_iff fun c hc d hd => kept c (List.mem_cons_of_mem _ hc) d (List.mem_cons_of_mem _ hd)]
  simp [mapCoefficients]

namespace Function

mutual

/-- Functions are the same if they are with coefficients that are equal exactly if the first ones
are. -/
theorem same_iff : ∀ {f g : Function K},
    (∀ c ∈ f.coefficients, ∀ d ∈ g.coefficients, (c == d) = true ↔ φ c = φ d) →
    (f.same g = true ↔ f.mapCoefficients φ = g.mapCoefficients φ)
  | f, g, kept => by
    -- functions of two families differ with any coefficients
    cases f <;> cases g <;> first | (simp [same, mapCoefficients]; done) | skip
    case number.number c d =>
      rw [same, mapCoefficients, mapCoefficients, number.injEq]
      exact kept c (by simp [coefficients]) d (by simp [coefficients])
    case affine.affine f g =>
      rw [same, mapCoefficients, mapCoefficients, affine.injEq]
      exact Affine.beq_iff fun c hc d hd =>
        kept c (by rwa [coefficients]) d (by rwa [coefficients])
    case quadratic.quadratic f g =>
      have pairs : (f.pairs == g.pairs) = true ↔ _ :=
        terms_beq_iff (φ := φ) fun c hc d hd =>
          kept c (by simp [coefficients, List.mem_map.1 hc]) d
            (by simp [coefficients, List.mem_map.1 hd])
      have terms : (f.terms == g.terms) = true ↔ _ :=
        terms_beq_iff (φ := φ) fun c hc d hd =>
          kept c (by simp [coefficients, List.mem_map.1 hc]) d
            (by simp [coefficients, List.mem_map.1 hd])
      have constant := kept f.constant (by simp [coefficients]) g.constant (by simp [coefficients])
      rw [same, Bool.and_eq_true, Bool.and_eq_true, pairs, terms, constant]
      simp [mapCoefficients, and_assoc]
    case rows.rows fs gs =>
      rw [same, mapCoefficients, mapCoefficients, rows.injEq]
      refine list_beq_iff fun f hf g hg => Affine.beq_iff fun c hc d hd => ?_
      refine kept c ?_ d ?_ <;> rw [coefficients, List.mem_flatMap]
      · exact ⟨f, hf, hc⟩
      · exact ⟨g, hg, hd⟩
    case nonlinear.nonlinear head args head' args' =>
      rw [same, mapCoefficients, mapCoefficients, Bool.and_eq_true, beq_iff_eq, nonlinear.injEq]
      exact and_congr_right' (sameAll_iff fun c hc d hd =>
        kept c (by rwa [coefficients]) d (by rwa [coefficients]))

theorem sameAll_iff : ∀ {fs gs : List (Function K)},
    (∀ c ∈ coefficientsAll fs, ∀ d ∈ coefficientsAll gs, (c == d) = true ↔ φ c = φ d) →
    (sameAll fs gs = true ↔ mapAllCoefficients φ fs = mapAllCoefficients φ gs)
  | [], [], _ => by simp [sameAll, mapAllCoefficients]
  | [], _ :: _, _ => by simp [sameAll, mapAllCoefficients]
  | _ :: _, [], _ => by simp [sameAll, mapAllCoefficients]
  | f :: fs, g :: gs, kept => by
    rw [sameAll, mapAllCoefficients, mapAllCoefficients, Bool.and_eq_true, List.cons.injEq]
    refine and_congr (same_iff fun c hc d hd => ?_) (sameAll_iff fun c hc d hd => ?_)
    · exact kept c (List.mem_append_left _ hc) d (List.mem_append_left _ hd)
    · exact kept c (List.mem_append_right _ hc) d (List.mem_append_right _ hd)

end

end Function

end Same

namespace Function

mutual

theorem mapCoefficients_id : ∀ f : Function K, f.mapCoefficients id = f
  | .number _ | .var _ | .vars _ => by simp [mapCoefficients]
  | .affine f => by simp [mapCoefficients, Affine.mapCoefficients]
  | .quadratic f => by simp [mapCoefficients]
  | .rows fs => by
    have unchanged : Affine.mapCoefficients id = (id : Affine K → Affine K) :=
      funext fun f => by simp [Affine.mapCoefficients]
    simp [mapCoefficients, unchanged]
  | .nonlinear head args => by rw [mapCoefficients, mapAllCoefficients_id args]

theorem mapAllCoefficients_id : ∀ fs : List (Function K), mapAllCoefficients id fs = fs
  | [] => by rw [mapAllCoefficients]
  | f :: fs => by rw [mapAllCoefficients, mapCoefficients_id f, mapAllCoefficients_id fs]

end

/-- Where coefficients are only equal to themselves, so are functions. -/
instance instLawfulBEqFunction [BEq K] [LawfulBEq K] : LawfulBEq (Function K) where
  eq_of_beq {f g} same := by
    have mapped := (same_iff (φ := id) fun c _ d _ => beq_iff_eq).1 same
    rwa [mapCoefficients_id, mapCoefficients_id] at mapped
  rfl := (same_iff (φ := id) fun c _ d _ => beq_iff_eq).2 rfl

end Function

/-! ## Sets with other numbers -/

namespace ConstraintSet

variable {M : Type}

/-- The same set with every bound and size changed. -/
def map (φ : M → N) : ConstraintSet M → ConstraintSet N
  | lessThan upper => lessThan (φ upper)
  | greaterThan lower => greaterThan (φ lower)
  | equalTo value => equalTo (φ value)
  | interval lower upper => interval (φ lower) (φ upper)
  | integer => integer
  | zeroOne => zeroOne
  | vector cone dimension => vector cone (dimension.map φ)
  | matrix layout side => matrix layout (side.map φ)

/-- Whether all bounds and sizes have a property. -/
def All (P : M → Prop) : ConstraintSet M → Prop
  | lessThan upper => P upper
  | greaterThan lower => P lower
  | equalTo value => P value
  | interval lower upper => P lower ∧ P upper
  | integer => True
  | zeroOne => True
  | vector _ dimension => ∀ n ∈ dimension, P n
  | matrix _ side => ∀ n ∈ side, P n

/-- Sets are equal if they are with numbers that are equal exactly if the first ones are. -/
theorem beq_iff [BEq M] {φ : M → N} {P : M → Prop}
    (kept : ∀ m n, P m → P n → ((m == n) = true ↔ φ m = φ n)) {s t : ConstraintSet M}
    (hs : s.All P) (ht : t.All P) : (s == t) = true ↔ s.map φ = t.map φ := by
  have size {m n : Option M} (hm : ∀ k ∈ m, P k) (hn : ∀ k ∈ n, P k) :
      (m == n) = true ↔ m.map φ = n.map φ := by
    cases m with
    | none => cases n <;> simp
    | some m =>
      cases n with
      | none => simp
      | some n =>
        change (m == n) = true ↔ some (φ m) = some (φ n)
        rw [kept m n (hm m rfl) (hn n rfl), Option.some.injEq]
  -- sets of two families differ with any numbers
  cases s <;> cases t <;> first
    | (change (false = true) ↔ _; simp [map])
    | skip
  case lessThan.lessThan a b | greaterThan.greaterThan a b | equalTo.equalTo a b =>
    change (a == b) = true ↔ _
    rw [kept a b hs ht]
    simp [map]
  case interval.interval a b c d =>
    change (a == c && b == d) = true ↔ _
    rw [Bool.and_eq_true, kept a c hs.1 ht.1, kept b d hs.2 ht.2]
    simp [map]
  case integer.integer | zeroOne.zeroOne => exact iff_of_true rfl rfl
  case vector.vector cone m cone' n =>
    change (cone == cone' && m == n) = true ↔ _
    rw [Bool.and_eq_true, beq_iff_eq, size hs ht]
    simp [map]
  case matrix.matrix layout m layout' n =>
    change (layout == layout' && m == n) = true ↔ _
    rw [Bool.and_eq_true, beq_iff_eq, size hs ht]
    simp [map]

theorem all_true (s : ConstraintSet M) : s.All (fun _ => True) := by
  cases s <;> simp [All]

theorem map_id (s : ConstraintSet M) : s.map id = s := by
  cases s <;> simp [map]

/-- Where numbers are only equal to themselves, so are sets. -/
instance instLawfulBEqConstraintSet [BEq N] [LawfulBEq N] : LawfulBEq (ConstraintSet N) where
  eq_of_beq {s t} same := by
    have mapped := (beq_iff (φ := id) (fun _ _ _ _ => beq_iff_eq) s.all_true t.all_true).1 same
    rwa [map_id, map_id] at mapped
  rfl {s} := (beq_iff (φ := id) (fun _ _ _ _ => beq_iff_eq) s.all_true s.all_true).2 rfl

end ConstraintSet

/-! ## Entries -/

/-- What the coefficients of a function stand for. -/
def Function.exact (f : Function Float) : Function ExactValue :=
  f.mapCoefficients .ofFloat

/-- Whether no coefficient of a function is a float that is not a number. -/
def Function.IsNumeric (f : Function Float) : Prop :=
  ∀ c ∈ f.coefficients, c.isNaN = false

theorem Function.beq_iff_exact {f g : Function Float} (hf : f.IsNumeric) :
    (f == g) = true ↔ f.exact = g.exact :=
  same_iff fun c hc d _ => FloatLaws.beq_iff_exact (hf c hc) d

namespace Entry

instance instLawfulBEqEntry [BEq N] [LawfulBEq N] [BEq K] [LawfulBEq K] :
    LawfulBEq (Entry N K) where
  eq_of_beq {e f} same := by
    change (e.name == f.name && e.function == f.function && e.set == f.set) = true at same
    simp only [Bool.and_eq_true, beq_iff_eq] at same
    obtain ⟨⟨name, function⟩, set⟩ := same
    cases e
    cases f
    simp_all
  rfl {e} := by
    change (e.name == e.name && e.function == e.function && e.set == e.set) = true
    simp

/-- What the numbers of a constraint stand for. -/
def exact (e : Entry Number Float) : Entry ExactValue ExactValue :=
  ⟨e.name, e.function.exact, e.set.map Number.exact⟩

/-- Whether no number of a constraint is a float that is not a number. -/
structure IsNumeric (e : Entry Number Float) : Prop where
  function : e.function.IsNumeric
  set : e.set.All (fun n => n.isNaN = false)

/-- Constraints are equal by name, function and set, numbers by what they stand for. -/
theorem beq_iff_exact {e f : Entry Number Float} (he : e.IsNumeric) (hf : f.IsNumeric) :
    (e == f) = true ↔ e.exact = f.exact := by
  have set := ConstraintSet.beq_iff (φ := Number.exact) (fun _ _ => Number.beq_iff_exact) he.set
    hf.set
  change (e.name == f.name && e.function == f.function && e.set == f.set) = true ↔ _
  rw [Bool.and_eq_true, Bool.and_eq_true, beq_iff_eq, Function.beq_iff_exact he.function, set]
  simp [exact, and_assoc]

end Entry

/-! ## Differences -/

namespace Difference

def onlyLeft? : Difference N K → Option (Entry N K)
  | onlyLeft e => some e
  | _ => none

def onlyRight? : Difference N K → Option (Entry N K)
  | onlyRight e => some e
  | _ => none

end Difference

namespace Representation

section Differences

variable [BEq N] [BEq K] (r s : Representation N K)

theorem filterMap_onlyLeft : (r.differences s).filterMap Difference.onlyLeft?
    = Counting.surplus r.constraints s.constraints := by
  have left : Difference.onlyLeft? ∘ Difference.onlyLeft = (some : Entry N K → _) := rfl
  have right : Difference.onlyLeft? ∘ Difference.onlyRight = fun _ : Entry N K => none := rfl
  simp only [differences, List.filterMap_append, List.filterMap_map, left, right,
    List.filterMap_some, List.filterMap_none, List.append_nil]
  split <;> split <;> split <;> rfl

theorem filterMap_onlyRight : (r.differences s).filterMap Difference.onlyRight?
    = Counting.surplus s.constraints r.constraints := by
  have left : Difference.onlyRight? ∘ Difference.onlyLeft = fun _ : Entry N K => none := rfl
  have right : Difference.onlyRight? ∘ Difference.onlyRight = (some : Entry N K → _) := rfl
  simp only [differences, List.filterMap_append, List.filterMap_map, left, right,
    List.filterMap_some, List.filterMap_none, List.append_nil]
  split <;> split <;> split <;> rfl

theorem beq_iff_surplus : (r == s) = true ↔ r.variableNames = s.variableNames ∧
    r.sense = s.sense ∧ (r.objective == s.objective) = true ∧
    Counting.surplus r.constraints s.constraints = [] ∧
    Counting.surplus s.constraints r.constraints = [] := by
  change (r.differences s).isEmpty = true ↔ _
  simp [differences]

end Differences

end Representation

/-! ## Texts -/

section Texts

variable {names : List String}

theorem exists_nameOf {v : Int} (within : 0 ≤ v ∧ v < names.length) :
    ∃ name, nameOf names v = .ok name := by
  obtain ⟨i, rfl⟩ := Int.eq_ofNat_of_zero_le within.1
  have found := Position.get?_natCast names i
  rw [List.getElem?_eq_getElem (by omega)] at found
  exact ⟨_, by rw [nameOf, found]⟩

theorem exists_termText {v : Int} (within : 0 ≤ v ∧ v < names.length) (c : Float) :
    ∃ text, termText names v c = .ok text :=
  exists_bind (exists_nameOf within) fun _ => ⟨_, rfl⟩

theorem Affine.exists_text {f : Affine Float}
    (within : ∀ v ∈ f.terms.map Prod.fst, 0 ≤ v ∧ v < names.length) :
    ∃ text, f.text names = .ok text :=
  exists_bind (exists_mapM fun t ht => exists_termText (within _ (List.mem_map_of_mem ht)) t.2)
    fun _ => ⟨_, rfl⟩

namespace Function

mutual

/-- A function that uses no other variables than those with names has a text. -/
theorem exists_argumentText : ∀ {f : Function Float}, f.Within names.length →
    ∃ text, f.argumentText names = .ok text
  | .number c, _ => ⟨_, by rw [argumentText]⟩
  | .var v, within => by
    rw [argumentText]
    exact exists_nameOf (within v (by simp [support]))
  | .affine f, within => by
    rw [argumentText]
    exact Affine.exists_text fun v hv => within v (by simpa [support] using hv)
  | .quadratic f, within => by
    rw [argumentText]
    rw [Within, support, List.forall_mem_append] at within
    refine exists_bind (exists_mapM fun t ht => ?_) fun _ => exists_bind (exists_mapM fun t ht =>
      exists_termText (within.2 t.1 (List.mem_map_of_mem ht)) t.2) fun _ => ⟨_, rfl⟩
    have inside : ∀ v ∈ [t.1.first, t.1.second], 0 ≤ v ∧ v < names.length := fun v hv =>
      within.1 v (List.mem_flatMap.2 ⟨t, ht, hv⟩)
    exact exists_bind (exists_termText (inside _ (by simp)) t.2) fun _ =>
      exists_bind (exists_nameOf (inside _ (by simp))) fun _ => ⟨_, rfl⟩
  | .vars vs, within => by
    rw [argumentText]
    exact exists_bind (exists_mapM fun v hv => exists_nameOf (within v (by simpa [support] using hv)))
      fun _ => ⟨_, rfl⟩
  | .rows fs, within => by
    rw [argumentText]
    refine exists_bind (exists_mapM fun f hf => Affine.exists_text fun v hv => within v ?_)
      fun _ => ⟨_, rfl⟩
    rw [support]
    exact List.mem_flatMap.2 ⟨f, hf, hv⟩
  | .nonlinear head args, within => by
    rw [argumentText]
    exact exists_bind (exists_argumentTexts fun v hv => within v (by rwa [support]))
      fun _ => ⟨_, rfl⟩

theorem exists_argumentTexts : ∀ {fs : List (Function Float)},
    (∀ v ∈ supportAll fs, 0 ≤ v ∧ v < names.length) →
    ∃ texts, argumentTexts names fs = .ok texts
  | [], _ => ⟨[], by rw [argumentTexts]⟩
  | f :: fs, within => by
    rw [argumentTexts]
    rw [supportAll, List.forall_mem_append] at within
    exact exists_bind (exists_argumentText within.1) fun _ =>
      exists_bind (exists_argumentTexts within.2) fun _ => ⟨_, rfl⟩

end

theorem exists_text {n : Nat} (count : names.length = n) {f : Function Float}
    (known : f.Within n ∧ f.family ≠ .number) : ∃ text, f.text names = .ok text := by
  subst count
  cases f with
  | number c => exact (known.2 rfl).elim
  | _ => exact exists_argumentText known.1

end Function

theorem Entry.exists_text {n : Nat} (count : names.length = n) {e : Entry Number Float}
    (known : e.function.Within n ∧ e.function.family ≠ .number) :
    ∃ text, e.text names = .ok text :=
  exists_bind (Function.exists_text count known) fun _ => ⟨_, rfl⟩

end Texts

namespace Representation

/-- Whether no number of a representation is a float that is not a number. -/
structure IsNumeric (r : Representation Number Float) : Prop where
  objective : r.objective.IsNumeric
  constraints : ∀ e ∈ r.constraints, e.IsNumeric

/-- Whether the functions of a representation stay within its variables. None is a bare number. -/
structure IsWithin (r : Representation Number Float) : Prop where
  objective : r.objective.Within r.variableNames.length ∧ r.objective.family ≠ .number
  constraints : ∀ e ∈ r.constraints,
    e.function.Within r.variableNames.length ∧ e.function.family ≠ .number

theorem length_displayNames (r : Representation N K) :
    r.displayNames.length = r.variableNames.length := by
  simp [displayNames]

variable {a b c : Representation Number Float}

/-- Every difference can be told. -/
theorem exists_explain (ha : a.IsWithin) (hb : b.IsWithin) : ∃ lines, a.explain b = .ok lines := by
  have left := a.length_displayNames
  have right := b.length_displayNames
  refine exists_mapM fun d hd => ?_
  simp only [differences, List.mem_append, List.mem_map] at hd
  rcases hd with (((hd | hd) | hd) | ⟨e, surplus, rfl⟩) | ⟨e, surplus, rfl⟩
  · split at hd
    · cases hd
    · obtain rfl := List.mem_singleton.1 hd
      exact ⟨_, rfl⟩
  · split at hd
    · cases hd
    · obtain rfl := List.mem_singleton.1 hd
      exact ⟨_, rfl⟩
  · split at hd
    · cases hd
    · obtain rfl := List.mem_singleton.1 hd
      exact exists_bind (Function.exists_text left ha.objective) fun _ =>
        exists_bind (Function.exists_text right hb.objective) fun _ => ⟨_, rfl⟩
  · have known := ha.constraints e (Counting.mem_of_mem_surplus surplus)
    exact exists_bind (Entry.exists_text left known) fun _ => ⟨_, rfl⟩
  · have known := hb.constraints e (Counting.mem_of_mem_surplus surplus)
    exact exists_bind (Entry.exists_text right known) fun _ => ⟨_, rfl⟩

/-- Values that are equal exactly if the constraints are. -/
theorem exact_kept (ha : a.IsNumeric) (hb : b.IsNumeric) :
    ∀ e ∈ a.constraints ++ b.constraints, ∀ f ∈ a.constraints ++ b.constraints,
      (e.exact == f.exact) = (e == f) := by
  have numeric : ∀ e ∈ a.constraints ++ b.constraints, e.IsNumeric :=
    List.forall_mem_append.2 ⟨ha.constraints, hb.constraints⟩
  intro e he f hf
  rw [Bool.eq_iff_iff, beq_iff_eq, Entry.beq_iff_exact (numeric e he) (numeric f hf)]

/-- Equality by value is that of names, senses and objectives, and a permutation of constraints. -/
theorem beq_iff_exact (ha : a.IsNumeric) (hb : b.IsNumeric) :
    (a == b) = true ↔ a.variableNames = b.variableNames ∧ a.sense = b.sense ∧
      a.objective.exact = b.objective.exact ∧
      (a.constraints.map Entry.exact).Perm (b.constraints.map Entry.exact) := by
  rw [beq_iff_surplus, Function.beq_iff_exact ha.objective, Counting.perm_iff_surplus,
    Counting.surplus_map (exact_kept ha hb), Counting.surplus_map (exact_kept hb ha),
    List.map_eq_nil_iff, List.map_eq_nil_iff]

/-- Nothing is told exactly if there is no difference. -/
theorem lines_eq_nil {lines : List String} (told : a.explain b = .ok lines) :
    lines = [] ↔ (a == b) = true := by
  have count := (mapM_eq_ok.1 told).length_eq
  change _ ↔ (a.differences b).isEmpty = true
  rw [List.isEmpty_iff, ← List.length_eq_zero_iff, ← List.length_eq_zero_iff, count]

theorem count_onlyLeft (ha : a.IsNumeric) (hb : b.IsNumeric) (e : Entry ExactValue ExactValue) :
    (((a.differences b).filterMap Difference.onlyLeft?).map Entry.exact).count e
      = (a.constraints.map Entry.exact).count e - (b.constraints.map Entry.exact).count e := by
  rw [filterMap_onlyLeft, ← Counting.surplus_map (exact_kept ha hb), Counting.count_surplus]

theorem count_onlyRight (ha : a.IsNumeric) (hb : b.IsNumeric) (e : Entry ExactValue ExactValue) :
    (((a.differences b).filterMap Difference.onlyRight?).map Entry.exact).count e
      = (b.constraints.map Entry.exact).count e - (a.constraints.map Entry.exact).count e := by
  rw [filterMap_onlyRight, ← Counting.surplus_map (exact_kept hb ha), Counting.count_surplus]

/-- Structural equality. Representations without floats that are not numbers, whose functions stay
within their variables, are equal exactly if names, senses and objectives are and the constraints are
permutations of one another, numbers being compared by what they stand for. This is an equivalence.
Their differences can be told from either side, there are none exactly if they are equal, and each
constraint is listed as often as one side has it more than the other. -/
theorem structural_equality (ha : a.IsNumeric) (hb : b.IsNumeric) (hc : c.IsNumeric)
    (withinA : a.IsWithin) (withinB : b.IsWithin) :
    ((a == b) = true ↔ a.variableNames = b.variableNames ∧ a.sense = b.sense ∧
      a.objective.exact = b.objective.exact ∧
      (a.constraints.map Entry.exact).Perm (b.constraints.map Entry.exact)) ∧
    ((a == a) = true ∧ ((a == b) = true → (b == a) = true) ∧
      ((a == b) = true → (b == c) = true → (a == c) = true)) ∧
    (∃ lines lines', a.explain b = .ok lines ∧ b.explain a = .ok lines' ∧
      (lines = [] ↔ (a == b) = true) ∧ (lines = [] ↔ lines' = []) ∧
      List.Forall₂ (fun d line => Difference.text a.displayNames b.displayNames d = .ok line)
        (a.differences b) lines) ∧
    ∀ e : Entry ExactValue ExactValue,
      (((a.differences b).filterMap Difference.onlyLeft?).map Entry.exact).count e
        = (a.constraints.map Entry.exact).count e - (b.constraints.map Entry.exact).count e ∧
      (((a.differences b).filterMap Difference.onlyRight?).map Entry.exact).count e
        = (b.constraints.map Entry.exact).count e - (a.constraints.map Entry.exact).count e := by
  have symm : (a == b) = true ↔ (b == a) = true := by
    rw [beq_iff_exact ha hb, beq_iff_exact hb ha]
    exact ⟨fun ⟨names, sense, objective, perm⟩ =>
        ⟨names.symm, sense.symm, objective.symm, perm.symm⟩,
      fun ⟨names, sense, objective, perm⟩ =>
        ⟨names.symm, sense.symm, objective.symm, perm.symm⟩⟩
  refine ⟨beq_iff_exact ha hb, ⟨(beq_iff_exact ha ha).2 ⟨rfl, rfl, rfl, .refl _⟩, symm.1, ?_⟩, ?_,
    fun e => ⟨count_onlyLeft ha hb e, count_onlyRight ha hb e⟩⟩
  · rw [beq_iff_exact ha hb, beq_iff_exact hb hc, beq_iff_exact ha hc]
    rintro ⟨names, sense, objective, perm⟩ ⟨names', sense', objective', perm'⟩
    exact ⟨names.trans names', sense.trans sense', objective.trans objective', perm.trans perm'⟩
  · obtain ⟨lines, told⟩ := exists_explain withinA withinB
    obtain ⟨lines', told'⟩ := exists_explain withinB withinA
    refine ⟨lines, lines', told, told', lines_eq_nil told, ?_, mapM_eq_ok.1 told⟩
    rw [lines_eq_nil told, lines_eq_nil told', symm]

/-! ### A bound of two -/

/-- A bound on a variable. -/
def cap (bound : Number) : Entry Number Float :=
  ⟨some "cap", .affine ⟨[(0, 1)], 0⟩, .lessThan bound⟩

/-- A variable to be minimized with the same bound several times. -/
def capped (bound : Number) (times : Nat) : Representation Number Float :=
  ⟨[some "x"], .minimize, .var 0, List.replicate times (cap bound)⟩

theorem isNumeric_capped {bound : Number} (number : bound.isNaN = false) (times : Nat) :
    (capped bound times).IsNumeric where
  objective c mem := by simp [capped, Function.coefficients] at mem
  constraints e mem := by
    obtain rfl := List.eq_of_mem_replicate mem
    have numbers : ∀ c ∈ [(0 : Float), 1], c.isNaN = false := by decide +kernel
    exact ⟨numbers, number⟩

theorem isWithin_capped (bound : Number) (times : Nat) : (capped bound times).IsWithin where
  objective := by simp [capped, Function.Within, Function.support, Function.family]
  constraints e mem := by
    obtain rfl := List.eq_of_mem_replicate mem
    simp [cap, capped, Function.Within, Function.support, Function.family]

/-- Of three times the integer bound, two are not among one time the float. -/
theorem structural_equality_capped :
    let a := capped (.integer 2) 3
    let b := capped (.real 2) 1
    (a.IsNumeric ∧ b.IsNumeric ∧ a.IsWithin ∧ b.IsWithin) ∧
      (a == a) = true ∧ (a == b) = false ∧
      (∃ lines lines', a.explain b = .ok lines ∧ b.explain a = .ok lines' ∧ lines ≠ [] ∧
        lines' ≠ []) ∧
      (((a.differences b).filterMap Difference.onlyLeft?).map Entry.exact).count
        (cap (.integer 2)).exact = 2 := by
  intro a b
  have numericA : a.IsNumeric := isNumeric_capped rfl 3
  have numericB : b.IsNumeric := isNumeric_capped (by decide +kernel) 1
  have withinA := isWithin_capped (.integer 2) 3
  have withinB := isWithin_capped (.real 2) 1
  obtain ⟨-, ⟨itself, -, -⟩, ⟨lines, lines', told, told', none, both, -⟩, counts⟩ :=
    structural_equality numericA numericB numericB withinA withinB
  have differ : (a == b) = false := by decide +kernel
  have some : lines ≠ [] := fun empty => by simp [none.1 empty] at differ
  have value : (cap (.real 2)).exact = (cap (.integer 2)).exact := by
    have same := (Number.beq_iff_exact (m := .real 2) (n := .integer 2) (by decide +kernel) rfl).1
      (by decide +kernel)
    simp only [cap, Entry.exact, ConstraintSet.map, same]
  have count := (counts (cap (.integer 2)).exact).1
  simp only [a, b, capped, List.map_replicate, value, List.count_replicate_self] at count
  exact ⟨⟨numericA, numericB, withinA, withinB⟩, itself, differ,
    ⟨lines, lines', told, told', some, fun empty => some (both.2 empty)⟩, count⟩

end Representation

end MathProg
