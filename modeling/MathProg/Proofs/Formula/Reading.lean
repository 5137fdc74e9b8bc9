import MathProg.Proofs.Formula.Bracketed
import MathProg.Proofs.Formula.Expansion

/-!
# Reading what was written

Expansions, lists of expansions and calls with expansions as arguments are read back as the trees
they were written from: nothing is rewritten in them, the lexer cuts them at their lexemes, and the
grammar has enough fuel for them.
-/

namespace MathProg.Formula

open MathProg.Text Grammar

variable {ls : List Lexeme} {t : Tree}

/-- How a row of lexemes is read whose tokens are one expression. -/
theorem readFormula_text (h : Spaced ls) (filled : ls ≠ [])
    (first : ∀ l ∈ ls.head?, l.isTight = true) (last : ∀ l ∈ ls.getLast?, l.isTight = true)
    (balanced : (ls.map Lexeme.token).foldlM Lexer.bracketsAfter? [] = some [])
    (parses : Parses 30 .expression (ls.map Lexeme.token) t []) :
    Reader.readFormula (text (ls.map Lexeme.named)) = .ok t := by
  have named := h.map_named
  have trimmed : strip (text (ls.map Lexeme.named)) = text (ls.map Lexeme.named) := by
    refine named.strip_text ?_ ?_
    · simpa [List.head?_map] using first
    · simpa [List.getLast?_map] using last
  have noNull : '\x00' ∉ text (ls.map Lexeme.named) := fun mem =>
    absurd (named.isPlain _ mem) (by decide)
  have parsed : (formula (16 * ((text (ls.map Lexeme.named)).length + 2))).run
      (ls.map Lexeme.token) = some (t, []) := by
    simp [formula, parses _ (by omega : 30 ≤ 16 * ((text (ls.map Lexeme.named)).length + 2))]
  rw [Reader.readFormula, trimmed, expand_text h]
  simp [Formula.read, noNull, Lexer.run?_text h filled first balanced, parsed, Except.mapError]

/-! ## Expansions -/

theorem token_ne_assign (l : Lexeme) : l.token ≠ .symbol ":=" := by
  cases l with
  | sign c =>
    intro same
    rw [Lexeme.token, Token.symbol.injEq] at same
    have length := congrArg String.length same
    rw [String.length_singleton] at length
    exact absurd length (by decide)
  | _ => simp [Lexeme.token]

theorem foldl_binary_ne_starred {α : Type} (op : BinaryOp) (tree : α → Tree) (xs : List α)
    {t : Tree} (plain : ∀ u, t ≠ .starred u) :
    ∀ u, xs.foldl (fun t x => .binary op t (tree x)) t ≠ .starred u := by
  induction xs generalizing t with
  | nil => exact plain
  | cons x xs ih => exact ih (by simp)

namespace Expansion

variable {e : Expansion}

theorem isItem (h : e.IsWritten) : IsItem 15 (e.lexemes.map Lexeme.token) e.tree where
  parses next := parses h next
  starts := starts h
  free mem := by
    obtain ⟨l, -, same⟩ := List.mem_map.1 mem
    exact token_ne_assign l same
  notStarred := by
    refine foldl_binary_ne_starred _ _ _ (foldl_binary_ne_starred _ _ _ fun u => ?_)
    unfold Factor.tree Lexeme.leaf
    split
    · simp
    · split <;> simp

/-- An expansion is read as its tree. -/
theorem readFormula (h : e.IsWritten) :
    Reader.readFormula (text (e.lexemes.map Lexeme.named)) = .ok e.tree := by
  have spaced : Spaced e.lexemes := by simpa using Expansion.spaced h (by simp) Spaced.nil
  have parses : Parses 15 .expression (e.lexemes.map Lexeme.token) e.tree [] := by
    simpa using Expansion.parses h (before_nil afterSum)
  obtain ⟨init, l, same, operand⟩ := ends h
  refine readFormula_text spaced (by simp [same]) ?_ ?_
    (foldlM_bracketsAfter? (isBracket h) []) (parses.mono (by omega))
  · intro l mem
    rcases head h [] l (by simpa using mem) with rfl | operand
    · rfl
    · exact operand.isTight
  · simpa [same] using operand.isTight

end Expansion

/-! ## Lists and calls -/

/-- Items between commas. -/
def separated {α : Type} (lexemes : α → List Lexeme) : List α → List Lexeme
  | [] => []
  | x :: xs => lexemes x ++ xs.flatMap (fun x => .comma :: lexemes x)

section Separated

variable {α : Type} {lexemes : α → List Lexeme} {xs : List α}

theorem spaced_separated
    (h : ∀ x ∈ xs, ∀ ls, (∀ l ∈ ls.head?, l.breaks = true) → Spaced ls → Spaced (lexemes x ++ ls))
    (next : ∀ l ∈ ls.head?, l.breaks = true) (rest : Spaced ls) :
    Spaced (separated lexemes xs ++ ls) := by
  have tail : ∀ {xs : List α}, (∀ x ∈ xs, ∀ ls, (∀ l ∈ ls.head?, l.breaks = true) → Spaced ls →
      Spaced (lexemes x ++ ls)) → Spaced (xs.flatMap (fun x => .comma :: lexemes x) ++ ls) ∧
        ∀ l ∈ (xs.flatMap (fun x => .comma :: lexemes x) ++ ls).head?, l.breaks = true := by
    intro xs h
    induction xs with
    | nil => exact ⟨rest, next⟩
    | cons x xs ih =>
      obtain ⟨spaced, breaks⟩ := ih fun y mem => h y (List.mem_cons_of_mem _ mem)
      have behind := h x (by simp) _ breaks spaced
      refine ⟨?_, head_breaks rfl _⟩
      rw [List.flatMap_cons, List.append_assoc]
      exact .comma behind
  cases xs with
  | nil => exact rest
  | cons x xs =>
    obtain ⟨spaced, breaks⟩ := tail fun y mem => h y (List.mem_cons_of_mem _ mem)
    rw [separated, List.append_assoc]
    exact h x (by simp) _ breaks spaced

/-- What holds of commas and of all items holds of the items between commas. -/
theorem forall_mem_separated {P : Lexeme → Prop} (comma : P .comma)
    (h : ∀ x ∈ xs, ∀ l ∈ lexemes x, P l) : ∀ l ∈ separated lexemes xs, P l := by
  cases xs with
  | nil => simp [separated]
  | cons x xs =>
    simp only [separated, List.mem_append, List.mem_flatMap, List.mem_cons]
    rintro l (mem | ⟨y, mem, rfl | inner⟩)
    · exact h x (by simp) l mem
    · exact comma
    · exact h y (by simp [mem]) l inner

theorem text_separated : text (separated lexemes xs) =
    [',', ' '].intercalate (xs.map (fun x => text (lexemes x))) := by
  cases xs with
  | nil => rfl
  | cons x xs =>
    have tail : ∀ (w : List Char), [',', ' '].intercalate (w :: xs.map (fun x => text (lexemes x))) =
        w ++ xs.flatMap (fun x => ',' :: ' ' :: text (lexemes x)) := by
      induction xs with
      | nil => simp
      | cons y ys ih =>
        intro w
        rw [List.map_cons, List.intercalate_cons_cons, ih]
        simp
    rw [List.map_cons, tail]
    simp only [separated, text, List.flatMap_append, List.flatMap_assoc]
    rfl

theorem tokens_separated (x : α) (closing : Char) :
    (separated lexemes (x :: xs) ++ [Lexeme.sign closing]).map Lexeme.token =
      (lexemes x).map Lexeme.token ++
        itemTokens (fun x => (lexemes x).map Lexeme.token) xs (String.singleton closing) [] := by
  simp [separated, itemTokens, List.map_flatMap, Lexeme.token]

end Separated

/-- What is read as an operand is a whole expression. -/
theorem Grammar.Parses.whole {depth : Nat} {s : List Token} (h : Parses depth .primary s t [])
    (start : ∀ t ∈ s.head?, startsOperand t = true) : Parses (depth + 12) .expression s t [] := by
  have signed : Parses (depth + 2) .signed s t [] := (h.power start (before_nil _)).signed start
  have product : Parses (depth + 3) (.operation 5) s t [] := Parses.operation signed rfl
  have sum : Parses (depth + 4) (.operation 4) s t [] := Parses.operation product rfl
  exact sum.expression (fun t mem => startsSum_of_startsOperand (start t mem)) (before_nil _)

/-- A list of expansions. -/
def listLexemes (es : List Expansion) : List Lexeme :=
  .sign '[' :: (separated Expansion.lexemes es ++ [.sign ']'])

variable {es : List Expansion}

theorem spaced_listLexemes (h : ∀ e ∈ es, e.IsWritten) : Spaced (listLexemes es) := by
  have items : Spaced (separated Expansion.lexemes es ++ [.sign ']']) :=
    spaced_separated (fun e mem ls next rest => Expansion.spaced (h e mem) next rest)
      (head_breaks rfl _) (.sign (by decide) (by simp) .nil)
  refine .sign (by decide) ?_ items
  cases es with
  | nil => simp [separated, Lexeme.joins]
  | cons e es =>
    rw [separated, List.append_assoc]
    exact Expansion.joins_head (h e (by simp)) _

theorem balanced_listLexemes (h : ∀ e ∈ es, e.IsWritten) :
    ((listLexemes es).map Lexeme.token).foldlM Lexer.bracketsAfter? [] = some [] := by
  have inner := foldlM_bracketsAfter?
    (forall_mem_separated rfl fun e mem => Expansion.isBracket (h e mem)) ['[']
  have opens : Lexer.bracketsAfter? [] (Lexeme.sign '[').token = some ['['] := by decide
  have closes : Lexer.bracketsAfter? ['['] (Lexeme.sign ']').token = some [] := by decide
  simp [listLexemes, opens, List.foldlM_append, inner, closes]

/-- A list of expansions is read as the list of their trees. -/
theorem readFormula_list (h : ∀ e ∈ es, e.IsWritten) :
    Reader.readFormula (text ((listLexemes es).map Lexeme.named)) =
      .ok (.list (es.map Expansion.tree)) := by
  have parses : Parses 17 .atom ((listLexemes es).map Lexeme.token)
      (.list (es.map Expansion.tree)) [] := by
    cases es with
    | nil => exact (parses_nil []).mono (by omega)
    | cons e es =>
      rw [listLexemes, List.map_cons, tokens_separated]
      exact parses_list fun e mem => Expansion.isItem (h e mem)
  have whole := (parses.primary (before_nil _)).whole
    (by simp [listLexemes, startsOperand, Lexeme.token])
  refine readFormula_text (spaced_listLexemes h) (by simp [listLexemes])
    (by simp [listLexemes, Lexeme.isTight]) ?_ (balanced_listLexemes h) whole
  rw [listLexemes, ← List.cons_append, List.getLast?_concat]
  simp [Lexeme.isTight]

/-- An argument with its name. -/
def argumentLexemes (a : List Char × Expansion) : List Lexeme :=
  .word a.1 :: .sign '=' :: a.2.lexemes

/-- A call with named arguments. -/
def callLexemes (w : List Char) (args : List (List Char × Expansion)) : List Lexeme :=
  .word w :: .sign '(' :: (separated argumentLexemes args ++ [.sign ')'])

/-- A name that is no keyword. -/
def IsName (w : List Char) : Prop :=
  isIdentifier w = true ∧ isKeyword (String.ofList w) = false

variable {w : List Char} {args : List (List Char × Expansion)}

theorem spaced_callLexemes (name : IsName w) (names : ∀ a ∈ args, IsName a.1)
    (h : ∀ a ∈ args, a.2.IsWritten) : Spaced (callLexemes w args) := by
  have items : Spaced (separated argumentLexemes args ++ [.sign ')']) := by
    refine spaced_separated (fun a mem ls next rest => ?_) (head_breaks rfl _)
      (.sign (by decide) (by simp) .nil)
    exact .word (names a mem).1 (head_breaks rfl _)
      (.sign (by decide) (Expansion.joins_head (h a mem) ls)
        (Expansion.spaced (h a mem) next rest))
  refine .word name.1 (head_breaks rfl _) (.sign (by decide) ?_ items)
  cases args with
  | nil => simp [separated, Lexeme.joins]
  | cons a args => simp [separated, argumentLexemes, Lexeme.joins]

theorem balanced_callLexemes (h : ∀ a ∈ args, a.2.IsWritten) :
    ((callLexemes w args).map Lexeme.token).foldlM Lexer.bracketsAfter? [] = some [] := by
  have argument : ∀ a ∈ args, ∀ l ∈ argumentLexemes a, l.isBracket = false := by
    intro a mem l inner
    rcases List.mem_cons.1 inner with rfl | inner
    · rfl
    · rcases List.mem_cons.1 inner with rfl | inner
      · rfl
      · exact Expansion.isBracket (h a mem) l inner
  have inner := foldlM_bracketsAfter? (forall_mem_separated rfl argument) ['(']
  have name : Lexer.bracketsAfter? [] (Lexeme.word w).token = some [] := rfl
  have opens : Lexer.bracketsAfter? [] (Lexeme.sign '(').token = some ['('] := by decide
  have closes : Lexer.bracketsAfter? ['('] (Lexeme.sign ')').token = some [] := by decide
  simp [callLexemes, name, opens, List.foldlM_append, inner, closes]

/-- A call is read with the trees of its arguments. -/
theorem readFormula_call (name : IsName w) (names : ∀ a ∈ args, IsName a.1)
    (h : ∀ a ∈ args, a.2.IsWritten) :
    Reader.readFormula (text ((callLexemes w args).map Lexeme.named)) =
      .ok (.call (.name (String.ofList w)) []
        (args.map (fun a => (some (String.ofList a.1), a.2.tree)))) := by
  have parses : Parses 17 .primary ((callLexemes w args).map Lexeme.token)
      (.call (.name (String.ofList w)) []
        (args.map (fun a => (some (String.ofList a.1), a.2.tree)))) [] := by
    cases args with
    | nil => exact (parses_call_nil name.1 name.2 (before_nil _)).mono (by omega)
    | cons a args =>
      rw [callLexemes, List.map_cons, List.map_cons, tokens_separated]
      exact parses_call name.1 name.2 names
        (fun a mem => Expansion.isItem (h a mem)) (before_nil _)
  have whole := parses.whole (by simp [callLexemes, startsOperand, Lexeme.token, name.2])
  refine readFormula_text (spaced_callLexemes name names h) (by simp [callLexemes])
    (by simp [callLexemes, Lexeme.isTight]) ?_ (balanced_callLexemes h) (whole.mono (by omega))
  rw [callLexemes, ← List.cons_append, ← List.cons_append, List.getLast?_concat]
  simp [Lexeme.isTight]

end MathProg.Formula
