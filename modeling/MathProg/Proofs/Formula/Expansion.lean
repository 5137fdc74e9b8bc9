import MathProg.Proofs.Formula.Lexing
import MathProg.Proofs.Formula.Parsing

/-!
# Expansions

Affine and quadratic functions are written as expansions: sums of products of a number and names,
where a number carries its own sign. An expansion is spelled by lexemes that keep apart, and the
grammar reads it as the tree that is grouped from the left.
-/

namespace MathProg.Formula

open MathProg.Text Grammar

/-! ## Operands -/

/-- The tree of a name or a number. -/
def Lexeme.leaf (l : Lexeme) : Tree :=
  match l.token with
  | .word id => .name id
  | .number value => .number value
  | _ => .compound

/-- Names and numbers; keywords are no names. -/
def Lexeme.IsOperand : Lexeme → Prop
  | word w => isIdentifier w = true ∧ isKeyword (String.ofList w) = false
  | placeholder digits => IsNumber digits
  | decimal whole fraction => IsNumber whole ∧ IsNumber fraction
  | integer digits => IsNumber digits ∧ IsPlain digits
  | _ => False

/-- Whether a lexeme opens or closes a bracket. -/
def Lexeme.isBracket : Lexeme → Bool
  | sign c => c != '-' && c != '*' && c != '='
  | _ => false

theorem isKeyword_placeholderName (digits : List Char) :
    isKeyword (String.ofList (Reader.placeholderName digits)) = false := by
  have letters : ∀ s ∈ keywords, s.toList.head? ≠ some '_' := by decide
  rw [isKeyword, ← Bool.not_eq_true, List.contains_iff_mem]
  intro found
  exact letters _ found (by rw [String.toList_ofList]; rfl)

namespace Lexeme.IsOperand

variable {l : Lexeme} {ls : List Lexeme}

theorem spaced (h : l.IsOperand) (next : ∀ l ∈ ls.head?, l.breaks = true) (rest : Spaced ls) :
    Spaced (l :: ls) := by
  cases l with
  | word => exact .word h.1 next rest
  | placeholder => exact .placeholder h next rest
  | decimal => exact .decimal h.1 h.2 next rest
  | integer => exact .integer h.1 h.2 next rest
  | sign | plus | comma => exact h.elim

theorem joins (h : l.IsOperand) : l.joins = false := by
  cases l <;> first | rfl | exact h.elim

theorem isTight (h : l.IsOperand) : l.isTight = true := by
  cases l <;> first | rfl | exact h.elim

theorem isBracket (h : l.IsOperand) : l.isBracket = false := by
  cases l <;> first | rfl | exact h.elim

theorem starts (h : l.IsOperand) : startsOperand l.token = true := by
  cases l with
  | word => simp [token, startsOperand, h.2]
  | placeholder digits => simp [token, startsOperand, isKeyword_placeholderName]
  | decimal => rfl
  | integer => rfl
  | sign | plus | comma => exact h.elim

theorem parses (h : l.IsOperand) {rest : List Token} (next : Before afterOperand rest) :
    Parses 4 .signed (l.token :: rest) l.leaf rest := by
  have atom : Parses 1 .atom (l.token :: rest) l.leaf rest := by
    cases l with
    | word w => exact parses_name h.1 h.2 rest
    | placeholder digits =>
      exact parses_name (isIdentifier_placeholderName h.2) (isKeyword_placeholderName digits) rest
    | decimal => exact parses_number _ rest
    | integer => exact parses_number _ rest
    | sign | plus | comma => exact h.elim
  exact atom.operand (by simpa using h.starts) next

end Lexeme.IsOperand

/-- Lexemes that are no brackets leave the open brackets as they are. -/
theorem foldlM_bracketsAfter? {ls : List Lexeme} (none : ∀ l ∈ ls, l.isBracket = false)
    (brackets : List Char) :
    (ls.map Lexeme.token).foldlM Lexer.bracketsAfter? brackets = some brackets := by
  have single : ∀ l : Lexeme, l.isBracket = false →
      Lexer.bracketsAfter? brackets l.token = some brackets := fun l none => by
    cases l with
    | sign c =>
      have known : c = '-' ∨ c = '*' ∨ c = '=' := by
        simp only [Lexeme.isBracket, Bool.and_eq_false_iff, bne_eq_false_iff_eq] at none
        exact or_assoc.1 none
      rcases known with rfl | rfl | rfl <;>
        simp [Lexeme.token, Lexer.bracketsAfter?, Lexer.brackets?, Quotation.opener?]
    | plus => simp [Lexeme.token, Lexer.bracketsAfter?, Lexer.brackets?, Quotation.opener?]
    | comma => simp [Lexeme.token, Lexer.bracketsAfter?, Lexer.brackets?, Quotation.opener?]
    | word | placeholder | decimal | integer => rfl
  induction ls with
  | nil => rfl
  | cons l ls ih =>
    rw [List.map_cons, List.foldlM_cons, single l (none l (by simp))]
    exact ih fun l mem => none l (List.mem_cons_of_mem _ mem)

/-! ## Sums of products -/

/-- A name or a number with its sign. -/
structure Factor where
  negative : Bool
  value : Lexeme

/-- A product, of which only the first factor carries a sign. -/
structure Summand where
  first : Factor
  others : List Lexeme

/-- A sum of products. -/
structure Expansion where
  first : Summand
  others : List Summand

namespace Factor

def lexemes (f : Factor) : List Lexeme :=
  if f.negative then [.sign '-', f.value] else [f.value]

def tree (f : Factor) : Tree :=
  if f.negative then .unary .minus f.value.leaf else f.value.leaf

variable {f : Factor} {ls : List Lexeme}

theorem spaced (h : f.value.IsOperand) (next : ∀ l ∈ ls.head?, l.breaks = true)
    (rest : Spaced ls) : Spaced (f.lexemes ++ ls) := by
  have value := h.spaced next rest
  unfold lexemes
  split
  · exact .sign (by decide) (by simpa using h.joins) value
  · exact value

theorem parses (h : f.value.IsOperand) {rest : List Token} (next : Before afterOperand rest) :
    Parses 5 .signed (f.lexemes.map Lexeme.token ++ rest) f.tree rest := by
  have value := h.parses next
  unfold lexemes tree
  split
  · exact value.minus
  · exact value.mono (by omega)

theorem starts (h : f.value.IsOperand) :
    ∃ t s, f.lexemes.map Lexeme.token = t :: s ∧ startsSum t = true := by
  unfold lexemes
  split
  · exact ⟨_, _, rfl, rfl⟩
  · exact ⟨_, _, rfl, startsSum_of_startsOperand h.starts⟩

theorem isBracket (h : f.value.IsOperand) : ∀ l ∈ f.lexemes, l.isBracket = false := by
  have minus : (Lexeme.sign '-').isBracket = false := rfl
  unfold lexemes
  split <;> simp [h.isBracket, minus]

theorem head (h : f.value.IsOperand) (ls : List Lexeme) :
    ∀ l ∈ (f.lexemes ++ ls).head?, l = .sign '-' ∨ l.IsOperand := by
  unfold lexemes
  split <;> simp [h]

theorem ends (h : f.value.IsOperand) : ∃ init l, f.lexemes = init ++ [l] ∧ l.IsOperand := by
  unfold lexemes
  split
  · exact ⟨[.sign '-'], f.value, rfl, h⟩
  · exact ⟨[], f.value, rfl, h⟩

end Factor

namespace Summand

def lexemes (p : Summand) : List Lexeme :=
  p.first.lexemes ++ p.others.flatMap (fun l => [.sign '*', l])

def tree (p : Summand) : Tree :=
  p.others.foldl (fun t l => .binary .mul t l.leaf) p.first.tree

structure IsWritten (p : Summand) : Prop where
  first : p.first.value.IsOperand
  others : ∀ l ∈ p.others, l.IsOperand

variable {p : Summand} {ls : List Lexeme}

theorem spaced (h : p.IsWritten) (next : ∀ l ∈ ls.head?, l.breaks = true) (rest : Spaced ls) :
    Spaced (p.lexemes ++ ls) := by
  have tail : ∀ {others : List Lexeme}, (∀ l ∈ others, l.IsOperand) →
      Spaced (others.flatMap (fun l => [.sign '*', l]) ++ ls) ∧
        ∀ l ∈ (others.flatMap (fun l => [.sign '*', l]) ++ ls).head?, l.breaks = true := by
    intro others operands
    induction others with
    | nil => exact ⟨rest, next⟩
    | cons l others ih =>
      obtain ⟨spaced, breaks⟩ := ih fun l mem => operands l (List.mem_cons_of_mem _ mem)
      have operand := operands l (by simp)
      exact ⟨.sign (by decide) (by simpa using operand.joins) (operand.spaced breaks spaced),
        head_breaks rfl _⟩
  rw [lexemes, List.append_assoc]
  exact Factor.spaced h.first (tail h.others).2 (tail h.others).1

theorem parses (h : p.IsWritten) {rest : List Token} (next : Before afterProduct rest) :
    Parses 6 (.operation 5) (p.lexemes.map Lexeme.token ++ rest) p.tree rest := by
  have stop : operator? 5 rest.head? = none := by
    cases rest with
    | nil => rfl
    | cons t rest =>
      obtain ⟨w, known, rfl⟩ := next t rfl
      exact (by decide : ∀ w ∈ afterProduct, operator? 5 (some (.symbol w)) = none) w known
  have operand : ∀ {s : List Token}, s.head? = some (.symbol "*") ∨ s = rest →
      Before afterOperand s := by
    rintro s (same | rfl)
    · intro t mem
      obtain rfl : Token.symbol "*" = t := by simpa [same] using mem
      exact ⟨"*", by decide, rfl⟩
    · exact next.mono (by decide)
  have split : p.lexemes.map Lexeme.token ++ rest = p.first.lexemes.map Lexeme.token ++
      (p.others.flatMap (fun l => .symbol "*" :: [l.token]) ++ rest) := by
    simp [lexemes, List.map_flatMap, Lexeme.token]
  have first : Parses 5 .signed (p.lexemes.map Lexeme.token ++ rest) p.first.tree
      (p.others.flatMap (fun l => .symbol "*" :: [l.token]) ++ rest) := by
    rw [split]
    refine Factor.parses h.first (operand ?_)
    cases p.others <;> simp
  exact Parses.row (rfl : operator? 5 (some (.symbol "*")) = some .mul) stop
    (fun l mem s same => ((h.others l mem).parses (operand same)).mono (by omega)) first

theorem isBracket (h : p.IsWritten) : ∀ l ∈ p.lexemes, l.isBracket = false := by
  simp only [lexemes, List.mem_append, List.mem_flatMap, List.mem_cons, List.not_mem_nil, or_false]
  rintro l (mem | ⟨m, mem, rfl | rfl⟩)
  · exact Factor.isBracket h.first l mem
  · rfl
  · exact (h.others l mem).isBracket

theorem ends (h : p.IsWritten) : ∃ init l, p.lexemes = init ++ [l] ∧ l.IsOperand := by
  rcases List.eq_nil_or_concat p.others with none | ⟨others, l, last⟩
  · simpa [lexemes, none] using Factor.ends h.first
  · refine ⟨p.first.lexemes ++ others.flatMap (fun l => [.sign '*', l]) ++ [.sign '*'], l, ?_, ?_⟩
    · simp [lexemes, last]
    · exact h.others l (by simp [last])

end Summand

namespace Expansion

def lexemes (e : Expansion) : List Lexeme :=
  e.first.lexemes ++ e.others.flatMap (fun p => .plus :: p.lexemes)

def tree (e : Expansion) : Tree :=
  e.others.foldl (fun t p => .binary .add t p.tree) e.first.tree

structure IsWritten (e : Expansion) : Prop where
  first : e.first.IsWritten
  others : ∀ p ∈ e.others, p.IsWritten

variable {e : Expansion} {ls : List Lexeme}

theorem spaced (h : e.IsWritten) (next : ∀ l ∈ ls.head?, l.breaks = true) (rest : Spaced ls) :
    Spaced (e.lexemes ++ ls) := by
  have tail : ∀ {others : List Summand}, (∀ p ∈ others, p.IsWritten) →
      Spaced (others.flatMap (fun p => .plus :: p.lexemes) ++ ls) ∧
        ∀ l ∈ (others.flatMap (fun p => .plus :: p.lexemes) ++ ls).head?, l.breaks = true := by
    intro others written
    induction others with
    | nil => exact ⟨rest, next⟩
    | cons p others ih =>
      obtain ⟨spaced, breaks⟩ := ih fun p mem => written p (List.mem_cons_of_mem _ mem)
      have behind := Summand.spaced (written p (by simp)) breaks spaced
      refine ⟨?_, head_breaks rfl _⟩
      rw [List.flatMap_cons, List.append_assoc]
      exact .plus behind
  rw [lexemes, List.append_assoc]
  exact Summand.spaced h.first (tail h.others).2 (tail h.others).1

theorem starts (h : e.IsWritten) :
    ∃ t s, e.lexemes.map Lexeme.token = t :: s ∧ startsSum t = true := by
  obtain ⟨t, s, same, start⟩ := Factor.starts h.first.first
  rw [lexemes, Summand.lexemes, List.map_append, List.map_append, same]
  exact ⟨t, _, rfl, start⟩

theorem parses (h : e.IsWritten) {rest : List Token} (next : Before afterSum rest) :
    Parses 15 .expression (e.lexemes.map Lexeme.token ++ rest) e.tree rest := by
  have stop : operator? 4 rest.head? = none := by
    cases rest with
    | nil => rfl
    | cons t rest =>
      obtain ⟨w, known, rfl⟩ := next t rfl
      exact (by decide : ∀ w ∈ afterSum, operator? 4 (some (.symbol w)) = none) w known
  have product : ∀ {s : List Token}, s.head? = some (.symbol "+") ∨ s = rest →
      Before afterProduct s := by
    rintro s (same | rfl)
    · intro t mem
      obtain rfl : Token.symbol "+" = t := by simpa [same] using mem
      exact ⟨"+", by decide, rfl⟩
    · exact next.mono (by decide)
  have split : e.lexemes.map Lexeme.token ++ rest = e.first.lexemes.map Lexeme.token ++
      (e.others.flatMap (fun p => .symbol "+" :: p.lexemes.map Lexeme.token) ++ rest) := by
    simp [lexemes, List.map_flatMap, Lexeme.token]
  have first : Parses 6 (.operation 5) (e.lexemes.map Lexeme.token ++ rest) e.first.tree
      (e.others.flatMap (fun p => .symbol "+" :: p.lexemes.map Lexeme.token) ++ rest) := by
    rw [split]
    refine Summand.parses h.first (product ?_)
    cases e.others <;> simp
  have sum : Parses 7 (.operation 4) (e.lexemes.map Lexeme.token ++ rest) e.tree rest :=
    Parses.row (rfl : operator? 4 (some (.symbol "+")) = some .add) stop
      (fun p mem s same => Summand.parses (h.others p mem) (product same)) first
  obtain ⟨t, s, same, start⟩ := starts h
  refine sum.expression ?_ next
  simp [same, start]

theorem isBracket (h : e.IsWritten) : ∀ l ∈ e.lexemes, l.isBracket = false := by
  simp only [lexemes, List.mem_append, List.mem_flatMap, List.mem_cons]
  rintro l (mem | ⟨p, mem, rfl | inner⟩)
  · exact Summand.isBracket h.first l mem
  · rfl
  · exact Summand.isBracket (h.others p mem) l inner

/-- An expansion starts with the sign of a number or with an operand. -/
theorem head (h : e.IsWritten) (ls : List Lexeme) :
    ∀ l ∈ (e.lexemes ++ ls).head?, l = .sign '-' ∨ l.IsOperand := by
  rw [lexemes, Summand.lexemes, List.append_assoc, List.append_assoc]
  exact Factor.head h.first.first _

theorem joins_head (h : e.IsWritten) (ls : List Lexeme) :
    ∀ l ∈ (e.lexemes ++ ls).head?, l.joins = false := by
  intro l mem
  rcases head h ls l mem with rfl | operand
  · rfl
  · exact operand.joins

theorem ends (h : e.IsWritten) : ∃ init l, e.lexemes = init ++ [l] ∧ l.IsOperand := by
  rcases List.eq_nil_or_concat e.others with none | ⟨others, p, last⟩
  · simpa [lexemes, none] using Summand.ends h.first
  · obtain ⟨init, l, same, operand⟩ := Summand.ends (h.others p (by simp [last]))
    refine ⟨e.first.lexemes ++ others.flatMap (fun p => .plus :: p.lexemes) ++ .plus :: init, l,
      ?_, operand⟩
    simp [lexemes, last, same]

end Expansion

end MathProg.Formula
