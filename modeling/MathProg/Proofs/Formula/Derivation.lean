import Mathlib
import MathProg.Formula.Token
import MathProg.Formula.Tree
import MathProg.Text.NormalForm

/-!
# Derivations of plain formulas

A plain formula consists of numbers, names, sums, differences, products, signs, lists and calls of a
name. The tokens that spell one are joined by symbols: no two operands stand side by side, and the
sign of a product stands there once for every product of the formula.
-/

namespace MathProg.Formula

open MathProg.Text (normalForm)

/-! ## Plain formulas -/

namespace Tree

/-- Numbers, names, `+`, `-`, `*`, signs, lists and calls of a name. -/
inductive IsPlain : Tree → Prop where
  | number (l : Literal) : IsPlain (number l)
  | name (id : String) : IsPlain (name id)
  | binary {op : BinaryOp} {l r : Tree} : op ∈ [.add, .sub, .mul] → IsPlain l → IsPlain r →
      IsPlain (binary op l r)
  | unary {op : UnaryOp} {t : Tree} : op ∈ [.plus, .minus] → IsPlain t → IsPlain (unary op t)
  | list {items : List Tree} : (∀ t ∈ items, IsPlain t) → IsPlain (list items)
  | call {id : String} {arguments : List Tree} {named : List (Option String × Tree)} :
      (∀ t ∈ arguments, IsPlain t) → (∀ a ∈ named, a.1 ≠ none) → (∀ a ∈ named, IsPlain a.2) →
      IsPlain (call (name id) arguments named)

mutual

/-- The number of products in a formula. -/
def products : Tree → Nat
  | binary op l r => (if op = .mul then 1 else 0) + l.products + r.products
  | unary _ t => t.products
  | list items => productsOf items
  | call callee arguments named => callee.products + productsOf arguments + productsNamed named
  | _ => 0

def productsOf : List Tree → Nat
  | [] => 0
  | t :: ts => t.products + productsOf ts

def productsNamed : List (Option String × Tree) → Nat
  | [] => 0
  | (_, t) :: named => t.products + productsNamed named

end

end Tree

/-! ## Derivations -/

/-- What a row of tokens may stand for. -/
inductive Part where
  | tree (t : Tree)
  /-- The items of a list and the bracket behind them. -/
  | items (ts : List Tree)
  /-- The arguments of a call and the bracket behind them. -/
  | arguments (ts : List Tree) (named : List (Option String × Tree))

/-- The operators that join two plain formulas. -/
def joiners : List (String × BinaryOp) :=
  [("+", .add), ("-", .sub), ("*", .mul)]

/-- The signs in front of a plain formula. -/
def leadingSigns : List (String × UnaryOp) :=
  [("+", .plus), ("-", .minus)]

/-- The tokens spell the part. -/
inductive Derives : Part → List Token → Prop where
  | number (l : Literal) : Derives (.tree (.number l)) [.number l]
  | name (id : String) : Derives (.tree (.name (normalForm id))) [.word id]
  | binary {w : String} {op : BinaryOp} {l r : Tree} {us vs : List Token} : (w, op) ∈ joiners →
      Derives (.tree l) us → Derives (.tree r) vs →
      Derives (.tree (.binary op l r)) (us ++ .symbol w :: vs)
  | unary {w : String} {op : UnaryOp} {t : Tree} {us : List Token} : (w, op) ∈ leadingSigns →
      Derives (.tree t) us → Derives (.tree (.unary op t)) (.symbol w :: us)
  | group {t : Tree} {us : List Token} : Derives (.tree t) us →
      Derives (.tree t) (.symbol "(" :: us ++ [.symbol ")"])
  | list {ts : List Tree} {us : List Token} : Derives (.items ts) us →
      Derives (.tree (.list ts)) (.symbol "[" :: us)
  | call {callee : Tree} {ts : List Tree} {named : List (Option String × Tree)}
      {us vs : List Token} : Derives (.tree callee) us → Derives (.arguments ts named) vs →
      Derives (.tree (.call callee ts named)) (us ++ .symbol "(" :: vs)
  | noItem : Derives (.items []) [.symbol "]"]
  | lastItem {t : Tree} {us : List Token} : Derives (.tree t) us →
      Derives (.items [t]) (us ++ [.symbol "]"])
  | item {t : Tree} {ts : List Tree} {us vs : List Token} : Derives (.tree t) us →
      Derives (.items ts) vs → Derives (.items (t :: ts)) (us ++ .symbol "," :: vs)
  | noArgument : Derives (.arguments [] []) [.symbol ")"]
  | lastArgument {t : Tree} {us : List Token} : Derives (.tree t) us →
      Derives (.arguments [t] []) (us ++ [.symbol ")"])
  | argument {t : Tree} {ts : List Tree} {named : List (Option String × Tree)}
      {us vs : List Token} : Derives (.tree t) us → Derives (.arguments ts named) vs →
      Derives (.arguments (t :: ts) named) (us ++ .symbol "," :: vs)
  | lastNamed (id : String) {t : Tree} {us : List Token} : Derives (.tree t) us →
      Derives (.arguments [] [(some (normalForm id), t)])
        (.word id :: .symbol "=" :: us ++ [.symbol ")"])
  | named (id : String) {t : Tree} {ts : List Tree} {named : List (Option String × Tree)}
      {us vs : List Token} : Derives (.tree t) us → Derives (.arguments ts named) vs →
      Derives (.arguments ts ((some (normalForm id), t) :: named))
        (.word id :: .symbol "=" :: us ++ .symbol "," :: vs)

/-! ## The tokens of a plain formula -/

/-- The symbols of plain formulas. -/
def plainSymbols : List String :=
  ["+", "-", "*", "(", ")", "[", "]", ",", "="]

namespace Token

/-- Whether the token occurs in plain formulas. -/
def isPlain : Token → Bool
  | word _ => true
  | number _ => true
  | symbol w => plainSymbols.contains w
  | _ => false

/-- Whether a token may stand in front of another: a word never follows a word or a number. -/
def Admits : Token → Token → Prop
  | word _, word _ => False
  | number _, word _ => False
  | _, _ => True

theorem symbol_admits (w : String) (t : Token) : (symbol w).Admits t := by
  cases t <;> trivial

theorem admits_symbol (t : Token) (w : String) : t.Admits (symbol w) := by
  cases t <;> trivial

end Token

/-- Plain tokens with a symbol between any two operands. -/
structure AreOrderly (ts : List Token) : Prop where
  plain : ∀ t ∈ ts, t.isPlain = true
  apart : ts.IsChain Token.Admits

namespace AreOrderly

variable {us vs : List Token} {w : String} {t : Token}

theorem single (plain : t.isPlain = true) : AreOrderly [t] :=
  ⟨by simpa using plain, .singleton t⟩

theorem symbol_cons (known : w ∈ plainSymbols) (h : AreOrderly us) :
    AreOrderly (.symbol w :: us) where
  plain := by
    intro t mem
    rcases List.mem_cons.1 mem with rfl | mem
    · exact List.contains_iff_mem.2 known
    · exact h.plain t mem
  apart := List.isChain_cons.2 ⟨fun t _ => t.symbol_admits w, h.apart⟩

/-- Orderly tokens stay so when a symbol joins them. -/
theorem join (known : w ∈ plainSymbols) (h : AreOrderly us) (h' : AreOrderly vs) :
    AreOrderly (us ++ .symbol w :: vs) := by
  have tail := symbol_cons known h'
  refine ⟨fun t mem => ?_, List.isChain_append.2 ⟨h.apart, tail.apart, fun t _ u mem => ?_⟩⟩
  · rcases List.mem_append.1 mem with mem | mem
    · exact h.plain t mem
    · exact tail.plain t mem
  · obtain rfl : Token.symbol w = u := by simpa using mem
    exact t.admits_symbol w

theorem close (known : w ∈ plainSymbols) (h : AreOrderly us) : AreOrderly (us ++ [.symbol w]) :=
  h.join known ⟨by simp, .nil⟩

end AreOrderly

/-- The tokens of a plain formula are orderly. -/
theorem Derives.areOrderly {part : Part} {us : List Token} (h : Derives part us) :
    AreOrderly us := by
  -- By induction on the derivation: whatever two parts a rule joins, it puts a symbol between them.
  induction h with
  | number | name => exact .single rfl
  | binary known _ _ left right =>
    have symbols : ∀ j ∈ joiners, j.1 ∈ plainSymbols := by decide
    exact left.join (symbols _ known) right
  | unary known _ operand =>
    have symbols : ∀ s ∈ leadingSigns, s.1 ∈ plainSymbols := by decide
    exact operand.symbol_cons (symbols _ known)
  | group _ inner => exact (inner.symbol_cons (by decide)).close (by decide)
  | list _ items => exact items.symbol_cons (by decide)
  | call _ _ callee arguments => exact callee.join (by decide) arguments
  | noItem | noArgument => exact .single rfl
  | lastItem _ item | lastArgument _ item => exact item.close (by decide)
  | item _ _ first others | argument _ _ first others => exact first.join (by decide) others
  | lastNamed id _ value =>
    have word : AreOrderly [.word id] := .single rfl
    exact (word.join (by decide) value).close (by decide)
  | named id _ _ value others =>
    have word : AreOrderly [.word id] := .single rfl
    exact (word.join (by decide) value).join (by decide) others

/-- The number of products in a part. -/
def Part.products : Part → Nat
  | tree t => t.products
  | items ts => Tree.productsOf ts
  | arguments ts named => Tree.productsOf ts + Tree.productsNamed named

/-- The sign of a product stands there once for every product. -/
theorem Derives.count_times {part : Part} {us : List Token} (h : Derives part us) :
    us.count (.symbol "*") = part.products := by
  -- Only `binary` can bring a sign of its own, and its table pairs `*` with the product alone.
  induction h with
  | number | name | noItem | noArgument => rfl
  | @binary w op l r us vs known _ _ left right =>
    have sign : ∀ j ∈ joiners, (if j.1 = "*" then 1 else 0) = if j.2 = .mul then 1 else 0 := by
      decide
    have same := sign _ known
    simp only [Part.products] at left right
    simp only [List.count_append, List.count_cons, Part.products, Tree.products, left, right,
      beq_iff_eq, Token.symbol.injEq, same]
    omega
  | unary known _ operand =>
    have other : ∀ s ∈ leadingSigns, s.1 ≠ "*" := by decide
    simpa [List.count_cons, other _ known, Part.products, Tree.products] using operand
  | group _ inner => simpa [List.count_cons] using inner
  | list _ items => simpa [List.count_cons, Part.products, Tree.products] using items
  | call _ _ callee arguments =>
    simp only [Part.products] at callee arguments
    simp only [List.count_append, List.count_cons, Part.products, Tree.products, callee, arguments,
      beq_iff_eq, Token.symbol.injEq, String.reduceEq, if_false]
    omega
  | lastItem _ item | lastArgument _ item =>
    simpa [Part.products, Tree.productsOf, Tree.productsNamed, List.count_cons] using item
  | item _ _ first others | argument _ _ first others =>
    simp only [Part.products] at first others
    simp [Part.products, Tree.productsOf, first, others, Nat.add_assoc]
  | lastNamed id _ value =>
    simpa [Part.products, Tree.productsOf, Tree.productsNamed, List.count_cons] using value
  | named id _ _ value others =>
    simp only [Part.products] at value others
    simp [Part.products, Tree.productsNamed, value, others]
    omega

end MathProg.Formula
