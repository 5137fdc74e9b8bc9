import MathProg.Formula.Grammar
import MathProg.Proofs.Text.Ascii

/-!
# Parsing

How single rules of the grammar read operands, rows of operands joined by one operator, and what
stands above them when no other operator follows. A rule reads the same under any bound on the depth
of calls that is large enough.
-/

namespace MathProg.Formula.Grammar

/-! ## Reading tokens -/

section Tokens

variable (s : List Token) (t : Token)

@[simp] theorem run_peek : peek.run s = some (s.head?, s) := rfl

@[simp] theorem run_advance : advance.run s = some ((), s.tail) := rfl

@[simp] theorem run_sees : (sees t).run s = some (s.head? == some t, s) := rfl

@[simp] theorem run_remaining : remaining.run s = some (s.length + 1, s) := rfl

@[simp] theorem run_accept_cons : (accept t).run (t :: s) = some (true, s) := by
  simp [accept]

@[simp] theorem run_expect_cons : (expect t).run (t :: s) = some ((), s) := by
  simp [expect]

variable {s t}

theorem run_accept_of_ne (h : s.head? ≠ some t) : (accept t).run s = some (false, s) := by
  simp [accept, h]

end Tokens

/-- The rule reads the tree off the front of the tokens and leaves the rest, if calls may be as deep
as `depth`. -/
def Parses (depth : Nat) (rule : Rule) (s : List Token) (t : Tree) (rest : List Token) : Prop :=
  ∀ fuel, depth ≤ fuel → (parse fuel rule).run s = some (t, rest)

variable {depth : Nat} {rule : Rule} {s rest : List Token} {t : Tree}

theorem Parses.of_step (h : ∀ fuel, depth ≤ fuel → (step (parse fuel) rule).run s = some (t, rest)) :
    Parses (depth + 1) rule s t rest := by
  intro fuel enough
  cases fuel with
  | zero => omega
  | succ fuel => exact h fuel (by omega)

theorem Parses.mono (h : Parses depth rule s t rest) {more : Nat} (le : depth ≤ more) :
    Parses more rule s t rest :=
  fun fuel enough => h fuel (by omega)

/-! ## Operands -/

/-- Whether a token starts an operand without a sign. -/
def startsOperand : Token → Bool
  | .word id => !isKeyword id
  | .number _ => true
  | .symbol w => w == "["
  | _ => false

/-- The text goes on with one of the symbols, if at all. -/
def Before (symbols : List String) (rest : List Token) : Prop :=
  ∀ t ∈ rest.head?, ∃ w ∈ symbols, t = .symbol w

theorem before_nil (symbols : List String) : Before symbols [] := by
  simp [Before]

theorem Before.mono {symbols more : List String} (h : Before symbols rest)
    (sub : ∀ w ∈ symbols, w ∈ more) : Before more rest := by
  intro t mem
  obtain ⟨w, known, rfl⟩ := h t mem
  exact ⟨w, sub w known, rfl⟩

/-- What the symbols all rule out does not stand next. -/
theorem Before.head_ne {symbols : List String} (h : Before symbols rest) {t : Token}
    (other : ∀ w ∈ symbols, t ≠ .symbol w) : rest.head? ≠ some t := by
  intro same
  obtain ⟨w, known, eq⟩ := h t (by rw [same]; rfl)
  exact other w known eq

/-- The symbols that may stand behind an operand. -/
def afterOperand : List String := ["*", "+", ",", ")", "]"]

/-- The symbols that may stand behind a product. -/
def afterProduct : List String := ["+", ",", ")", "]"]

/-- The symbols that may stand behind a sum. -/
def afterSum : List String := [",", ")", "]"]

theorem parses_number (l : Literal) (rest : List Token) :
    Parses 1 .atom (.number l :: rest) (.number l) rest := by
  refine .of_step fun fuel _ => ?_
  simp [step, atom]

theorem run_nameToken {w : List Char} (name : Text.isIdentifier w = true)
    (free : isKeyword (String.ofList w) = false) (rest : List Token) :
    nameToken.run (.word (String.ofList w) :: rest) = some (String.ofList w, rest) := by
  simp [nameToken, free, Text.normalForm_of_isIdentifier name]

theorem parses_name {w : List Char} (name : Text.isIdentifier w = true)
    (free : isKeyword (String.ofList w) = false) (rest : List Token) :
    Parses 1 .atom (.word (String.ofList w) :: rest) (.name (String.ofList w)) rest := by
  have notConstant : (["True", "False", "None"].contains (String.ofList w)) = false := by
    have known : ∀ s ∈ ["True", "False", "None"], isKeyword s = true := by decide
    rw [← Bool.not_eq_true, List.contains_iff_mem]
    intro found
    rw [known _ found] at free
    exact absurd free (by decide)
  refine .of_step fun fuel _ => ?_
  simp only [step, atom, StateT.run_bind, run_peek, List.head?_cons, Option.bind_eq_bind,
    Option.bind_some, notConstant, Bool.false_eq_true, if_false, run_nameToken name free]
  rfl

/-- Nothing that stands behind an operand belongs to it. -/
theorem run_trailers (self : Rule → Parser Tree) (next : Before afterOperand rest) (fuel : Nat) :
    (trailers self t (fuel + 1)).run rest = some (t, rest) := by
  have noPoint : rest.head? ≠ some (.symbol ".") := next.head_ne (by decide)
  have noEntry : rest.head? ≠ some (.symbol "[") := next.head_ne (by decide)
  have noCall : rest.head? ≠ some (.symbol "(") := next.head_ne (by decide)
  simp [trailers, run_accept_of_ne noPoint, run_accept_of_ne noEntry, run_accept_of_ne noCall]

theorem Parses.primary (h : Parses depth .atom s t rest) (next : Before afterOperand rest) :
    Parses (depth + 1) .primary s t rest := by
  refine .of_step fun fuel enough => ?_
  simp [step, h fuel enough, run_trailers _ next]

theorem Parses.power (h : Parses depth .primary s t rest)
    (start : ∀ t ∈ s.head?, startsOperand t = true) (next : Before afterOperand rest) :
    Parses (depth + 1) .power s t rest := by
  have noAwait : s.head? ≠ some (.word "await") := fun same =>
    absurd (start _ same) (by decide)
  have noPower : rest.head? ≠ some (.symbol "**") := next.head_ne (by decide)
  refine .of_step fun fuel enough => ?_
  simp [step, run_accept_of_ne noAwait, h fuel enough, run_accept_of_ne noPower]

theorem Parses.signed (h : Parses depth .power s t rest)
    (start : ∀ t ∈ s.head?, startsOperand t = true) : Parses (depth + 1) .signed s t rest := by
  have noStart : ∀ w ∈ ["+", "-", "~"], startsOperand (.symbol w) ≠ true := by decide
  have unsigned : ∀ w ∈ ["+", "-", "~"], s.head? ≠ some (.symbol w) := fun w mem same =>
    absurd (start _ same) (noStart w mem)
  refine .of_step fun fuel enough => ?_
  simp [step, run_accept_of_ne (unsigned "+" (by simp)), run_accept_of_ne (unsigned "-" (by simp)),
    run_accept_of_ne (unsigned "~" (by simp)), h fuel enough]

theorem Parses.minus (h : Parses depth .signed s t rest) :
    Parses (depth + 1) .signed (.symbol "-" :: s) (.unary .minus t) rest := by
  have noPlus : (Token.symbol "-" :: s).head? ≠ some (.symbol "+") := by simp
  refine .of_step fun fuel enough => ?_
  simp [step, run_accept_of_ne noPlus, h fuel enough]

/-- An operand by itself. -/
theorem Parses.operand (h : Parses depth .atom s t rest)
    (start : ∀ t ∈ s.head?, startsOperand t = true) (next : Before afterOperand rest) :
    Parses (depth + 3) .signed s t rest :=
  ((h.primary next).power start next).signed start

/-! ## Operators -/

theorem run_operands_nil {level : Nat} {operand : Parser Tree} (left : Tree)
    (stop : operator? level rest.head? = none) {fuel : Nat} (enough : 0 < fuel) :
    (operands level operand left fuel).run rest = some (left, rest) := by
  cases fuel with
  | zero => omega
  | succ fuel => simp [operands, stop]

section Row

variable {α : Type} {tokens : α → List Token} {tree : α → Tree} {xs : List α} {level : Nat}
  {w : String} {op : BinaryOp}

/-- Operands behind signs of one operator are grouped from the left. -/
theorem run_operands {operand : Parser Tree} (found : operator? level (some (.symbol w)) = some op)
    (stop : operator? level rest.head? = none)
    (reads : ∀ x ∈ xs, ∀ s, s.head? = some (.symbol w) ∨ s = rest →
      operand.run (tokens x ++ s) = some (tree x, s))
    (left : Tree) {fuel : Nat} (enough : xs.length < fuel) :
    (operands level operand left fuel).run
      (xs.flatMap (fun x => .symbol w :: tokens x) ++ rest) =
      some (xs.foldl (fun t x => .binary op t (tree x)) left, rest) := by
  induction xs generalizing left fuel with
  | nil => exact run_operands_nil left stop (by omega)
  | cons x xs ih =>
    have more : ∀ x ∈ xs, ∀ s, s.head? = some (.symbol w) ∨ s = rest →
        operand.run (tokens x ++ s) = some (tree x, s) :=
      fun y mem => reads y (List.mem_cons_of_mem _ mem)
    have next : (xs.flatMap (fun x => .symbol w :: tokens x) ++ rest).head? = some (.symbol w) ∨
        xs.flatMap (fun x => .symbol w :: tokens x) ++ rest = rest := by
      cases xs <;> simp
    cases fuel with
    | zero => simp at enough
    | succ fuel =>
      have shorter : xs.length < fuel := by simpa using enough
      have split : (x :: xs).flatMap (fun x => .symbol w :: tokens x) ++ rest =
          .symbol w :: (tokens x ++ (xs.flatMap (fun x => .symbol w :: tokens x) ++ rest)) := by
        simp
      have read := reads x (by simp) _ next
      have tail := ih more (.binary op left (tree x)) shorter
      rw [split]
      simp only [operands, StateT.run_bind, run_peek, List.head?_cons, Option.bind_eq_bind,
        Option.bind_some, found, run_advance, List.tail_cons, read]
      exact tail

/-- The rule for the operands of a level. -/
def inner (level : Nat) : Rule :=
  if level + 1 < levels.length then .operation (level + 1) else .signed

/-- Operands joined by one operator. -/
theorem Parses.row (found : operator? level (some (.symbol w)) = some op)
    (stop : operator? level rest.head? = none)
    (reads : ∀ x ∈ xs, ∀ s, s.head? = some (.symbol w) ∨ s = rest →
      Parses depth (inner level) (tokens x ++ s) (tree x) s)
    (first : Parses depth (inner level) s t (xs.flatMap (fun x => .symbol w :: tokens x) ++ rest)) :
    Parses (depth + 1) (.operation level) s (xs.foldl (fun t x => .binary op t (tree x)) t)
      rest := by
  have count : xs.length < (xs.flatMap (fun x => .symbol w :: tokens x) ++ rest).length + 1 := by
    have : xs.length ≤ (xs.flatMap (fun x => Token.symbol w :: tokens x)).length := by
      clear first reads
      induction xs with
      | nil => simp
      | cons x xs ih =>
        simp only [List.flatMap_cons, List.length_append, List.length_cons]
        omega
    rw [List.length_append]
    omega
  refine .of_step fun fuel enough => ?_
  have head := first fuel enough
  rw [inner] at head
  simp only [step, StateT.run_bind, head, Option.bind_eq_bind, Option.bind_some, run_remaining]
  exact run_operands found stop (fun x mem s next => reads x mem s next fuel enough) t count

end Row

/-- A level whose operators do not occur. -/
theorem Parses.operation {level : Nat} (h : Parses depth (inner level) s t rest)
    (stop : operator? level rest.head? = none) : Parses (depth + 1) (.operation level) s t rest := by
  refine .of_step fun fuel enough => ?_
  have head := h fuel enough
  rw [inner] at head
  simp only [step, StateT.run_bind, head, Option.bind_eq_bind, Option.bind_some, run_remaining]
  exact run_operands_nil t stop (Nat.succ_pos _)

theorem run_chain {more : Parser Bool} {item : Parser Tree} (read : item.run s = some (t, rest))
    (stop : more.run rest = some (false, rest)) (fuel : Nat) :
    (chain more item (fuel + 1)).run s = some (t, rest) := by
  simp [chain, read, stop]

theorem run_comparator (next : Before afterSum rest) :
    comparator.run rest = some (false, rest) := by
  cases rest with
  | nil => rfl
  | cons t rest =>
    obtain ⟨w, known, rfl⟩ := next t rfl
    have other : ∀ w ∈ afterSum, ["==", "!=", "<=", "<", ">=", ">"].contains w = false := by
      decide
    simp only [comparator, StateT.run_bind, StateT.run_get, Option.pure_def, Option.bind_eq_bind,
      Option.bind_some, other w known]
    rfl

/-- Whether a token starts a sum. -/
def startsSum : Token → Bool
  | .symbol w => w == "[" || w == "-"
  | t => startsOperand t

theorem startsSum_of_startsOperand {t : Token} (h : startsOperand t = true) :
    startsSum t = true := by
  cases t with
  | symbol w =>
    rw [startsOperand] at h
    simp [startsSum, h]
  | _ => exact h

/-- What stands above a sum adds nothing. -/
theorem Parses.expression (h : Parses depth (.operation 4) s t rest)
    (start : ∀ t ∈ s.head?, startsSum t = true) (next : Before afterSum rest) :
    Parses (depth + 8) .expression s t rest := by
  have noWord : ∀ w ∈ ["and", "or", "if"], rest.head? ≠ some (.word w) := fun w _ =>
    next.head_ne (by simp)
  have free : ∀ w ∈ ["not", "lambda"], startsSum (.word w) ≠ true := by decide
  have noStart : ∀ w ∈ ["not", "lambda"], s.head? ≠ some (.word w) := fun w mem same =>
    absurd (start _ same) (free w mem)
  have stop : ∀ level ∈ [3, 2, 1, 0], operator? level rest.head? = none := by
    cases rest with
    | nil => exact fun _ _ => rfl
    | cons t rest =>
      obtain ⟨w, known, rfl⟩ := next t rfl
      exact (by decide : ∀ w ∈ afterSum, ∀ level ∈ [3, 2, 1, 0],
        operator? level (some (.symbol w)) = none) w known
  -- one level of the grammar after the other finds nothing of its own
  have shifts : Parses (depth + 1) (.operation 3) s t rest := Parses.operation h (stop 3 (by simp))
  have ands : Parses (depth + 2) (.operation 2) s t rest := shifts.operation (stop 2 (by simp))
  have xors : Parses (depth + 3) (.operation 1) s t rest := ands.operation (stop 1 (by simp))
  have ors : Parses (depth + 4) (.operation 0) s t rest := xors.operation (stop 0 (by simp))
  have comparison : Parses (depth + 5) .comparison s t rest := .of_step fun fuel enough => by
    simp only [step, StateT.run_bind, run_remaining, Option.bind_eq_bind, Option.bind_some]
    exact run_chain (ors fuel enough) (run_comparator next) _
  have inversion : Parses (depth + 6) .inversion s t rest := .of_step fun fuel enough => by
    simp [step, run_accept_of_ne (noStart "not" (by simp)), comparison fuel enough]
  have disjunction : Parses (depth + 7) .disjunction s t rest := .of_step fun fuel enough => by
    have conjunction : (do
        chain (accept (.word "and")) (parse fuel .inversion) (← remaining)).run s =
        some (t, rest) := by
      simp only [StateT.run_bind, run_remaining, Option.bind_eq_bind, Option.bind_some]
      exact run_chain (inversion fuel enough) (run_accept_of_ne (noWord "and" (by simp))) _
    simp only [step, StateT.run_bind, run_remaining, Option.bind_eq_bind, Option.bind_some]
    exact run_chain conjunction (run_accept_of_ne (noWord "or" (by simp))) _
  refine .of_step fun fuel enough => ?_
  simp [step, run_accept_of_ne (noStart "lambda" (by simp)), disjunction fuel enough,
    run_accept_of_ne (noWord "if" (by simp))]

end MathProg.Formula.Grammar
