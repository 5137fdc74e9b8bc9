import MathProg.Proofs.Fallible
import MathProg.Proofs.Text.Cutting
import MathProg.Representation.Reader

/-!
# Accepted lines

What can be told of a line from its being accepted. A constraint comes about in one of three ways: a
list in a set, another formula in a set, or a comparison with a bound. What every line keeps holds of
the representation that is read.
-/

namespace MathProg.Reader

open Fallible
open MathProg.Formula (Tree)
open MathProg.Text

variable {N K : Type} [Zero K] [One K] [Add K] [Mul K] [Neg K] [BEq K] [TextNumber K] [Numeral N K]

/-! ## Formulas of a line -/

/-- Whether a part of the line is written for the formula. -/
def HasFormula (line : List Char) (t : Tree) : Prop :=
  ∃ part, part <:+: line ∧ readFormula part = .ok t

theorem HasFormula.of_part {part line : List Char} {t : Tree} (inside : part <:+: line)
    (h : HasFormula part t) : HasFormula line t := by
  obtain ⟨inner, within, formula⟩ := h
  exact ⟨inner, within.trans inside, formula⟩

theorem infix_of_splitLast? {separator line left right : List Char}
    (h : splitLast? separator line = some (left, right)) : left <:+: line ∧ right <:+: line := by
  rw [eq_append_of_splitLast? h]
  exact ⟨List.prefix_append _ _ |>.isInfix,
    (List.suffix_append_of_suffix (List.suffix_append _ _)).isInfix⟩

theorem infix_of_splitFirst? {separator line left right : List Char}
    (h : splitFirst? separator line = some (left, right)) : left <:+: line ∧ right <:+: line := by
  rw [eq_append_of_splitFirst? h]
  exact ⟨List.prefix_append _ _ |>.isInfix,
    (List.suffix_append_of_suffix (List.suffix_append _ _)).isInfix⟩

theorem infix_of_comparison {line left right : List Char} {family : SetFamily}
    (h : comparisons.findSome? (fun c =>
      (splitFirst? c.1.toList line).map (fun parts => (c.2, parts))) = some (family, left, right)) :
    left <:+: line ∧ right <:+: line := by
  obtain ⟨c, -, found⟩ := List.exists_of_findSome?_eq_some h
  obtain ⟨parts, split, same⟩ := Option.map_eq_some_iff.1 found
  obtain rfl := (Prod.mk.inj same).2
  exact infix_of_splitFirst? split

theorem infix_of_afterKeyword? {keyword : String} {line rest : List Char}
    (h : afterKeyword? keyword line = some rest) : rest <:+: line := by
  unfold afterKeyword? at h
  simp only [Option.ite_none_right_eq_some, Option.some.injEq] at h
  rw [← h.2]
  exact (List.drop_suffix _ _).isInfix

theorem infix_splitLabel (line : List Char) : (splitLabel line).2 <:+: line := by
  unfold splitLabel
  split
  next rest colon =>
    dsimp only
    split
    · have behind : ':' :: rest <:+ line :=
        colon ▸ (List.dropWhile_suffix _).trans (List.dropWhile_suffix _)
      exact (((List.dropWhile_suffix _).trans (List.suffix_cons _ _)).trans behind).isInfix
    · exact List.infix_refl _
  next => exact List.infix_refl _

/-! ## Constraints -/

/-- How a constraint comes about. -/
inductive Makes (names : List String) (line : List Char) :
    Function K → ConstraintSet N → Prop where
  | display {left right : List Char} {s t : ConstraintSet N} {items : List Tree} {f : Function K} :
      splitLast? " in ".toList line = some (left, right) → readSet right = .ok s →
      readFormula left = .ok (.list items) → vectorFunction names items = .ok f →
      s.withDimension f.dimension = .ok t → Makes names line f t
  | member {left right : List Char} {s t : ConstraintSet N} {tree : Tree} {f g : Function K} :
      splitLast? " in ".toList line = some (left, right) → readSet right = .ok s →
      readFormula left = .ok tree → (∀ items, tree ≠ .list items) →
      scalarFunction names tree = .ok f → moveConstant f s = .ok (g, t) → Makes names line g t
  | comparison {left right : List Char} {family : SetFamily} {bound : K} {tree boundTree : Tree}
      {t : ConstraintSet N} {f g : Function K} :
      splitLast? " in ".toList line = none →
      comparisons.findSome? (fun c =>
        (splitFirst? c.1.toList line).map (fun parts => (c.2, parts))) =
          some (family, left, right) →
      readFormula right = .ok boundTree → constantValue boundTree = .ok bound →
      readFormula left = .ok tree → scalarFunction names tree = .ok f →
      moveConstant f (comparisonSet family bound) = .ok (g, t) → Makes names line g t

theorem makes_of_readConstraint {names : List String} {line : List Char} {f : Function K}
    {t : ConstraintSet N} (h : readConstraint names line = .ok (f, t)) : Makes names line f t := by
  unfold readConstraint at h
  split at h
  next left right split =>
    obtain ⟨s, set, h⟩ := bind_eq_ok.1 h
    obtain ⟨tree, formula, h⟩ := bind_eq_ok.1 h
    split at h
    next items =>
      obtain ⟨g, rows, h⟩ := bind_eq_ok.1 h
      obtain ⟨u, sized, h⟩ := bind_eq_ok.1 h
      cases h
      exact .display split set formula rows (mapError_eq_ok.1 sized)
    next other =>
      obtain ⟨g, scalar, h⟩ := bind_eq_ok.1 h
      exact .member split set formula other scalar h
  next split =>
    simp only at h
    split at h
    next family left right found =>
      obtain ⟨boundTree, formula, h⟩ := bind_eq_ok.1 h
      obtain ⟨bound, value, h⟩ := bind_eq_ok.1 h
      obtain ⟨tree, formula', h⟩ := bind_eq_ok.1 h
      obtain ⟨g, scalar, h⟩ := bind_eq_ok.1 h
      exact .comparison split found formula value formula' scalar h
    next => cases h

/-! ## Lines -/

/-- What an accepted line does. -/
inductive Acts (state : State N K) (line : List Char) : State N K → Prop where
  | idle : line = [] → Acts state line state
  | declares {rest : List Char} {next : State N K} : afterKeyword? "variables" line = some rest →
      readVariables state rest = .ok next → Acts state line next
  | aims {keyword : String} {rest : List Char} {sense : Sense} {next : State N K} : line ≠ [] →
      afterKeyword? "variables" line = none → afterKeyword? keyword line = some rest →
      sense ≠ .feasibility → readObjective state sense rest = .ok next → Acts state line next
  | requires {name : Option String} {body : List Char} {f : Function K} {s : ConstraintSet N} :
      line ≠ [] → afterKeyword? "variables" line = none → splitLabel line = (name, body) →
      readConstraint state.names body = .ok (f, s) →
      Acts state line { state with representation :=
        { state.representation with
          constraints := state.representation.constraints ++ [⟨name, f, s⟩] } }

theorem acts_of_readLine {state next : State N K} {line : List Char}
    (h : readLine state line = .ok next) : Acts state line next := by
  unfold readLine at h
  split at h
  next empty =>
    cases h
    exact .idle (List.isEmpty_iff.1 empty)
  next filled =>
    have filled : line ≠ [] := fun empty => filled (List.isEmpty_iff.2 empty)
    split at h
    next rest declaration => exact .declares declaration h
    next other =>
      split at h
      next rest objective => exact .aims filled other objective (by decide) h
      next =>
        split at h
        next rest objective => exact .aims filled other objective (by decide) h
        next =>
          obtain ⟨⟨f, s⟩, read, h⟩ := bind_eq_ok.1 h
          cases h
          exact .requires filled other rfl read

/-- A line adds at most one constraint to those before it. -/
theorem readLine_constraints {state next : State N K} {line : List Char}
    (h : readLine state line = .ok next) :
    next.representation.constraints = state.representation.constraints ∨
      ∃ body, ∃ e : Entry N K, readConstraint state.names body = .ok (e.function, e.set) ∧
        next.representation.constraints = state.representation.constraints ++ [e] := by
  cases acts_of_readLine h with
  | idle => exact .inl rfl
  | declares _ h =>
    obtain ⟨declared, -, h⟩ := bind_eq_ok.1 h
    cases h
    exact .inl rfl
  | aims _ _ _ _ h =>
    obtain ⟨t, -, h⟩ := bind_eq_ok.1 h
    obtain ⟨p, -, h⟩ := bind_eq_ok.1 h
    cases h
    exact .inl rfl
  | requires _ _ _ read => exact .inr ⟨_, ⟨_, _, _⟩, read, rfl⟩

/-- Every constraint of a text has been made by one of its lines. -/
theorem makes_of_read {text : String} {r : Representation N K}
    (h : Representation.read text = .ok r) {e : Entry N K} (mem : e ∈ r.constraints) :
    ∃ names line, Makes names line e.function e.set := by
  obtain ⟨final, folded, h⟩ := bind_eq_ok.1 h
  cases h
  have made := foldlM_invariant
    (fun state : State N K => ∀ e ∈ state.representation.constraints,
      ∃ names line, Makes names line e.function e.set)
    (fun state line next before h => by
      rcases readLine_constraints (mapError_eq_ok.1 h) with same | ⟨body, e, read, added⟩
      · rwa [same]
      · intro e' mem
        rw [added, List.mem_append, List.mem_singleton] at mem
        rcases mem with mem | rfl
        · exact before e' mem
        · exact ⟨_, _, makes_of_readConstraint read⟩)
    folded (by intro e mem; cases mem)
  exact made e mem

end MathProg.Reader
