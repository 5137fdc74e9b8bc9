import MathProg.Proofs.Formula.TreeValue
import MathProg.Proofs.Function.Canonical

/-!
# Variables of formulas

The variables of a polynomial are the positions of the names that its formula is written with. Sums
and products bring in no others, and the function of a polynomial has no more than the polynomial.
-/

namespace MathProg.Formula

open Fallible

/-! ## Positions -/

/-- A name stands at its position. -/
theorem getElem?_of_position? {names : List String} {id : String} {k : Nat}
    (h : position? names id = some k) : names[k]? = some id := by
  induction names generalizing k with
  | nil => cases h
  | cons name names ih =>
    rw [position?] at h
    split at h
    next i later =>
      cases h
      exact ih later
    next =>
      simp only [Option.ite_none_right_eq_some, beq_iff_eq, Option.some.injEq] at h
      obtain ⟨rfl, rfl⟩ := h
      rfl

/-- Whether the formula is written with a name that stands at a position. -/
def Tree.Uses (names : List String) (t : Tree) (v : Int) : Prop :=
  ∃ id k, t.Contains (.name id) ∧ position? names id = some k ∧ v = (k : Nat)

theorem Tree.Uses.of_contains {names : List String} {s t : Tree} {v : Int} (h : t.Uses names v)
    (inside : ∀ u, t.Contains u → s.Contains u) : s.Uses names v := by
  obtain ⟨id, k, written, found, same⟩ := h
  exact ⟨id, k, inside _ written, found, same⟩

/-! ## Polynomials -/

/-- The variables of a monomial. -/
def Monomial.support : Monomial → List Int
  | .one => []
  | .linear v => [(v : Int)]
  | .pair p => [p.first, p.second]

theorem Monomial.mem_support_mul? {m n k : Monomial} (h : m.mul? n = some k) {v : Int}
    (mem : v ∈ k.support) : v ∈ m.support ∨ v ∈ n.support := by
  cases m <;> cases n <;> simp only [mul?, Option.some.injEq, reduceCtorEq] at h <;> subst h
  case one.one | one.linear | one.pair => exact .inr mem
  case linear.one | pair.one => exact .inl mem
  case linear.linear i j =>
    simp only [support, VariablePair.of] at mem ⊢
    split at mem <;> simp_all [or_comm]

namespace Polynomial

variable {K : Type}

/-- The variables of a polynomial, those with coefficient zero included. -/
def support (p : Polynomial K) : List Int :=
  (p.map Prod.fst).flatMap Monomial.support

theorem mem_support {p : Polynomial K} {v : Int} :
    v ∈ p.support ↔ ∃ m ∈ p.map Prod.fst, v ∈ m.support :=
  List.mem_flatMap

theorem mem_support_add [Zero K] [Add K] {p q : Polynomial K} {v : Int} :
    v ∈ (p.add q).support ↔ v ∈ p.support ∨ v ∈ q.support := by
  simp only [mem_support, add, Terms.mem_keys_addAll, or_and_right, exists_or]

theorem support_neg [Neg K] (p : Polynomial K) : p.neg.support = p.support := by
  rw [support, neg, Terms.keys_mapCoefficients]
  rfl

/-- What every step of a fold keeps holds of its result. -/
private theorem foldlM_option_invariant {α β : Type} {f : β → α → Option β} (P : β → Prop)
    {xs : List α} (step : ∀ b, ∀ a ∈ xs, ∀ b', P b → f b a = some b' → P b') {start final : β}
    (h : xs.foldlM f start = some final) (begin : P start) : P final := by
  induction xs generalizing start with
  | nil =>
    cases h
    exact begin
  | cons x xs ih =>
    rw [List.foldlM_cons] at h
    obtain ⟨next, first, rest⟩ := Option.bind_eq_some_iff.1 h
    exact ih (fun b a mem => step b a (List.mem_cons_of_mem _ mem)) rest
      (step start x List.mem_cons_self next begin first)

theorem mem_support_mul? [Zero K] [Add K] [Mul K] {p q r : Polynomial K} (h : p.mul? q = some r)
    {v : Int} (mem : v ∈ r.support) : v ∈ p.support ∨ v ∈ q.support := by
  -- Every monomial of the sum so far is a product of a monomial of each.
  let Sound (sum : Polynomial K) : Prop :=
    ∀ w ∈ sum.support, w ∈ p.support ∨ w ∈ q.support
  have row (m : Monomial × K) (left : m ∈ p) (sum : Polynomial K) (n : Monomial × K)
      (right : n ∈ q) (next : Polynomial K) (sound : Sound sum)
      (step : (m.1.mul? n.1).map (fun k => Terms.add k (m.2 * n.2) sum) = some next) :
      Sound next := by
    obtain ⟨k, product, rfl⟩ := Option.map_eq_some_iff.1 step
    intro w inside
    obtain ⟨l, key, within⟩ := mem_support.1 inside
    rcases Terms.mem_keys_add.1 key with rfl | key
    · exact (Monomial.mem_support_mul? product within).imp
        (fun within => mem_support.2 ⟨_, List.mem_map_of_mem left, within⟩)
        (fun within => mem_support.2 ⟨_, List.mem_map_of_mem right, within⟩)
    · exact sound w (mem_support.2 ⟨l, key, within⟩)
  have whole : Sound r :=
    foldlM_option_invariant Sound
      (fun sum m left next sound rows =>
        foldlM_option_invariant Sound
          (fun sum n right next sound step => row m left sum n right next sound step) rows sound)
      h (fun w inside => by cases inside)
  exact whole v mem

/-- The variables of a polynomial are those that its formula uses. -/
theorem uses_of_ofTree [Zero K] [One K] [Add K] [Mul K] [Neg K] [TextNumber K]
    {names : List String} : ∀ {t : Tree} {p : Polynomial K}, ofTree names t = .ok p →
      ∀ v ∈ p.support, t.Uses names v
  | .number l, p, h, v, mem => by
    rw [ofTree] at h
    split at h <;> cases h
    cases mem
  | .name id, p, h, v, mem => by
    obtain ⟨k, found, h⟩ := bind_eq_ok.1 h
    cases h
    unfold position at found
    split at found <;> cases found
    next found =>
      obtain rfl : v = (k : Nat) := List.mem_singleton.1 mem
      exact ⟨id, k, .self _, found, rfl⟩
  | .binary op l r, p, h, v, mem => by
    obtain ⟨p', left, h⟩ := bind_eq_ok.1 h
    obtain ⟨q, right, h⟩ := bind_eq_ok.1 h
    have both (mem : v ∈ p'.support ∨ v ∈ q.support) : (Tree.binary op l r).Uses names v :=
      mem.elim (fun mem => (uses_of_ofTree left v mem).of_contains fun _ => .left)
        (fun mem => (uses_of_ofTree right v mem).of_contains fun _ => .right)
    cases op
    case add =>
      cases h
      exact both (mem_support_add.1 mem)
    case sub =>
      cases h
      rw [sub, mem_support_add, support_neg] at mem
      exact both mem
    case mul =>
      dsimp only at h
      split at h <;> cases h
      next product => exact both (mem_support_mul? product mem)
    all_goals cases h
  | .unary op t, p, h, v, mem => by
    obtain ⟨q, inner, h⟩ := bind_eq_ok.1 h
    have operand (mem : v ∈ q.support) : (Tree.unary op t).Uses names v :=
      (uses_of_ofTree inner v mem).of_contains fun _ => .operand
    cases op
    case plus =>
      cases h
      exact operand mem
    case minus =>
      cases h
      rw [support_neg] at mem
      exact operand mem
    all_goals cases h
  | .constant, _, h, _, _ | .list _, _, h, _, _ | .call _ _ _, _, h, _, _ | .member, _, h, _, _
  | .bundle _, _, h, _, _ | .starred _, _, h, _, _ | .compound, _, h, _, _ => by cases h

theorem mem_support_pairs {p : Polynomial K} {t : VariablePair × K} (h : t ∈ p.pairs) {v : Int}
    (mem : v = t.1.first ∨ v = t.1.second) : v ∈ p.support := by
  obtain ⟨⟨m, c⟩, inside, same⟩ := List.mem_filterMap.1 h
  cases m with
  | one | linear => cases same
  | pair q =>
    cases same
    exact mem_support.2 ⟨_, List.mem_map_of_mem inside, by simpa [Monomial.support] using mem⟩

theorem mem_support_linear {p : Polynomial K} {v : Int} (h : v ∈ p.linear.map Prod.fst) :
    v ∈ p.support := by
  obtain ⟨t, term, rfl⟩ := List.mem_map.1 h
  obtain ⟨⟨m, c⟩, inside, same⟩ := List.mem_filterMap.1 term
  cases m with
  | one | pair => cases same
  | linear v =>
    cases same
    exact mem_support.2 ⟨_, List.mem_map_of_mem inside, by simp [Monomial.support]⟩

theorem mem_support_toFunction [Zero K] [Add K] [BEq K] {p : Polynomial K} {v : Int}
    (h : v ∈ p.toFunction.support) : v ∈ p.support := by
  rcases Function.mem_support_canonicalQuadratic h with ⟨t, pair, mem⟩ | linear
  · exact mem_support_pairs pair mem
  · exact mem_support_linear linear

end Polynomial

end MathProg.Formula
