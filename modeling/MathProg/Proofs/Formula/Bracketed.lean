import MathProg.Proofs.Formula.Parsing

/-!
# Lists and calls

A list of expressions and a call with named arguments are read item by item. Each item ends at a
comma or at the closing bracket.
-/

namespace MathProg.Formula.Grammar

/-- Tokens that are read as one expression, whatever may stand behind it. -/
structure IsItem (depth : Nat) (s : List Token) (t : Tree) : Prop where
  parses : ∀ {rest}, Before afterSum rest → Parses depth .expression (s ++ rest) t rest
  starts : ∃ first behind, s = first :: behind ∧ startsSum first = true
  /-- The item gives no name to its value. -/
  free : Token.symbol ":=" ∉ s
  notStarred : ∀ u, t ≠ .starred u

variable {α : Type} {tokens : α → List Token} {tree : α → Tree} {x : α} {xs : List α}
  {depth : Nat} {s rest : List Token} {t : Tree}

theorem run_seesNameAnd {w : String} (absent : Token.symbol w ∉ s) (other : w ∉ afterSum)
    (next : Before afterSum rest) :
    (seesNameAnd w).run (s ++ rest) = some (false, s ++ rest) := by
  simp only [seesNameAnd, StateT.run_bind, StateT.run_get, Option.pure_def, Option.bind_eq_bind,
    Option.bind_some]
  split
  · next id v behind same =>
    have differs : (v == w) = false := by
      rw [beq_eq_false_iff_ne]
      rintro rfl
      match s with
      | [] =>
        obtain ⟨u, -, eq⟩ := next (.word id) (by simp_all)
        cases eq
      | [first] =>
        rw [List.singleton_append, List.cons.injEq] at same
        obtain ⟨u, known, eq⟩ := next (.symbol v) (by simp [same.2])
        cases eq
        exact other known
      | first :: second :: more =>
        rw [List.cons_append, List.cons_append, List.cons.injEq, List.cons.injEq] at same
        exact absent (by simp [same.2.1])
    simp [differs]
  · rfl

theorem run_seesLoop (w : String) (rest : List Token) :
    seesLoop.run (.symbol w :: rest) = some (false, .symbol w :: rest) := by
  simp [seesLoop]

namespace IsItem

theorem head_ne (h : IsItem depth s t) (rest : List Token) {w : String} (other : startsSum (.symbol w) = false) :
    (s ++ rest).head? ≠ some (.symbol w) := by
  obtain ⟨first, behind, rfl, starts⟩ := h.starts
  intro same
  obtain rfl : first = .symbol w := by simpa using same
  rw [starts] at other
  cases other

theorem run_starredOrNamed (h : IsItem depth s t) (next : Before afterSum rest) {fuel : Nat}
    (enough : depth + 1 ≤ fuel) :
    (starredOrNamed (parse fuel)).run (s ++ rest) = some (t, rest) := by
  have noStar := h.head_ne rest (w := "*") (by decide)
  have unnamed := run_seesNameAnd h.free (by decide) next
  cases fuel with
  | zero => omega
  | succ fuel =>
    have named : (parse (fuel + 1) .named).run (s ++ rest) = some (t, rest) := by
      simp [parse, step, unnamed, h.parses next fuel (by omega)]
    simp [starredOrNamed, run_accept_of_ne noStar, named]

end IsItem

/-! ## Lists -/

/-- Items between commas, up to the closing symbol and what follows it. -/
def itemTokens (tokens : α → List Token) (xs : List α) (closing : String) (rest : List Token) :
    List Token :=
  xs.flatMap (fun x => .symbol "," :: tokens x) ++ .symbol closing :: rest

theorem before_itemTokens (tokens : α → List Token) (xs : List α) {closing : String}
    (known : closing ∈ afterSum) (rest : List Token) :
    Before afterSum (itemTokens tokens xs closing rest) := by
  cases xs with
  | nil => simpa [Before, itemTokens] using known
  | cons x xs => simp [Before, itemTokens, afterSum]

theorem length_le_itemTokens (tokens : α → List Token) (xs : List α) (closing : String)
    (rest : List Token) : xs.length ≤ (itemTokens tokens xs closing rest).length := by
  induction xs with
  | nil => simp
  | cons x xs ih =>
    simp only [itemTokens, List.flatMap_cons, List.length_append, List.length_cons] at ih ⊢
    omega

/-- The items of a list from the second on. -/
theorem run_items (h : ∀ y ∈ x :: xs, IsItem depth (tokens y) (tree y)) (rest : List Token)
    {self : Nat} (deep : depth + 1 ≤ self) {fuel : Nat} (enough : xs.length < fuel) :
    ∃ comma, (items (.symbol "]") (starredOrNamed (parse self)) fuel).run
      (tokens x ++ itemTokens tokens xs "]" rest) = some ((tree x :: xs.map tree, comma), rest) := by
  induction xs generalizing x fuel with
  | nil =>
    cases fuel with
    | zero => simp at enough
    | succ fuel =>
      have item := h x (by simp)
      have open' := item.head_ne (itemTokens tokens [] "]" rest) (w := "]") (by decide)
      have next := before_itemTokens tokens [] (by decide : "]" ∈ afterSum) rest
      have read := item.run_starredOrNamed next deep
      have noComma : (itemTokens tokens [] "]" rest).head? ≠ some (.symbol ",") := by
        simp [itemTokens]
      exact ⟨false, by
        simp [items, run_accept_of_ne open', read, run_accept_of_ne noComma]
        simp [itemTokens]⟩
  | cons y ys ih =>
    cases fuel with
    | zero => simp at enough
    | succ fuel =>
      have shorter : ys.length < fuel := by simpa using enough
      obtain ⟨comma, tail⟩ := ih (fun z mem => h z (List.mem_cons_of_mem _ mem)) shorter
      have item := h x (by simp)
      have open' := item.head_ne (itemTokens tokens (y :: ys) "]" rest) (w := "]") (by decide)
      have next := before_itemTokens tokens (y :: ys) (by decide : "]" ∈ afterSum) rest
      have read := item.run_starredOrNamed next deep
      have split : itemTokens tokens (y :: ys) "]" rest =
          .symbol "," :: (tokens y ++ itemTokens tokens ys "]" rest) := by
        simp [itemTokens]
      rw [split] at open' read ⊢
      exact ⟨true, by simp [items, run_accept_of_ne open', read, tail]⟩

/-- An empty list. -/
theorem parses_nil (rest : List Token) :
    Parses 1 .atom (.symbol "[" :: .symbol "]" :: rest) (.list []) rest := by
  refine .of_step fun fuel _ => ?_
  simp [step, atom, listDisplay]

/-- A list of items. -/
theorem parses_list (h : ∀ y ∈ x :: xs, IsItem depth (tokens y) (tree y)) :
    Parses (depth + 2) .atom
      (.symbol "[" :: (tokens x ++ itemTokens tokens xs "]" rest))
      (.list (tree x :: xs.map tree)) rest := by
  refine .of_step fun fuel enough => ?_
  have item := h x (by simp)
  have open' := item.head_ne (itemTokens tokens xs "]" rest) (w := "]") (by decide)
  have next := before_itemTokens tokens xs (by decide : "]" ∈ afterSum) rest
  have read := item.run_starredOrNamed next enough
  cases xs with
  | nil =>
    have noComma : (itemTokens tokens [] "]" rest).head? ≠ some (.symbol ",") := by
      simp [itemTokens]
    have behind : itemTokens tokens [] "]" rest = .symbol "]" :: rest := rfl
    have plain := item.notStarred
    rw [behind] at open' read noComma ⊢
    simp only [step, atom, StateT.run_bind, run_peek, List.head?_cons, Option.bind_eq_bind,
      Option.bind_some, run_advance, List.tail_cons, listDisplay, run_accept_of_ne open', read,
      run_accept_of_ne noComma, Bool.false_eq_true, if_false]
    simp [run_seesLoop]
  | cons y ys =>
    have split : itemTokens tokens (y :: ys) "]" rest =
        .symbol "," :: (tokens y ++ itemTokens tokens ys "]" rest) := by
      simp [itemTokens]
    have count : ys.length < (tokens y).length + (itemTokens tokens ys "]" rest).length + 1 := by
      have := length_le_itemTokens tokens ys "]" rest
      omega
    have more : ∀ z ∈ y :: ys, IsItem depth (tokens z) (tree z) :=
      fun z mem => h z (List.mem_cons_of_mem _ mem)
    obtain ⟨comma, tail⟩ := run_items more rest enough count
    rw [split] at open' read ⊢
    simp [step, atom, listDisplay, run_accept_of_ne open', read, tail]

/-! ## Calls -/

section Call

theorem run_seesNameAnd_cons {id w : String} (free : isKeyword id = false) (s : List Token) :
    (seesNameAnd w).run (.word id :: .symbol w :: s) =
      some (true, .word id :: .symbol w :: s) := by
  simp [seesNameAnd, free]

section Argument

variable {w : List Char} {self fuel : Nat} {phase : Phase}

/-- The last argument. -/
theorem run_arguments_last (name : Text.isIdentifier w = true)
    (free : isKeyword (String.ofList w) = false)
    (read : (parse self .expression).run s = some (t, .symbol ")" :: rest)) :
    (arguments (parse self) (fuel + 1) phase).run
      (.word (String.ofList w) :: .symbol "=" :: s) =
      some (([], [(some (String.ofList w), t)]), rest) := by
  have other : ∀ v, (Token.word (String.ofList w) :: .symbol "=" :: s).head? ≠
      some (.symbol v) := by simp
  have noComma : (Token.symbol ")" :: rest).head? ≠ some (.symbol ",") := by simp
  simp [arguments, run_accept_of_ne (other _), run_seesNameAnd_cons free,
    run_nameToken name free, read, run_accept_of_ne noComma]

/-- An argument in front of others. -/
theorem run_arguments_cons (name : Text.isIdentifier w = true)
    (free : isKeyword (String.ofList w) = false) {behind : List Token}
    (read : (parse self .expression).run s = some (t, .symbol "," :: behind))
    (early : phase ≠ .spread) {args : List Tree} {named : List (Option String × Tree)}
    (more : (arguments (parse self) fuel .named).run behind = some ((args, named), rest)) :
    (arguments (parse self) (fuel + 1) phase).run
      (.word (String.ofList w) :: .symbol "=" :: s) =
      some ((args, (some (String.ofList w), t) :: named), rest) := by
  have other : ∀ v, (Token.word (String.ofList w) :: .symbol "=" :: s).head? ≠
      some (.symbol v) := by simp
  simp [arguments, run_accept_of_ne (other _), run_seesNameAnd_cons free,
    run_nameToken name free, read, early, more]

end Argument

variable {field : α → List Char}

/-- An argument with its name. -/
def argumentTokens (field : α → List Char) (tokens : α → List Token) (x : α) : List Token :=
  .word (String.ofList (field x)) :: .symbol "=" :: tokens x

/-- The named arguments of a call, up to its closing bracket. -/
theorem run_arguments
    (names : ∀ y ∈ x :: xs, Text.isIdentifier (field y) = true ∧
      isKeyword (String.ofList (field y)) = false)
    (h : ∀ y ∈ x :: xs, IsItem depth (tokens y) (tree y)) (rest : List Token) {self : Nat}
    (deep : depth ≤ self) {fuel : Nat} (enough : xs.length < fuel) {phase : Phase}
    (early : phase ≠ .spread) :
    (arguments (parse self) fuel phase).run (argumentTokens field tokens x ++
      itemTokens (argumentTokens field tokens) xs ")" rest) =
      some (([], (x :: xs).map (fun y => (some (String.ofList (field y)), tree y))), rest) := by
  have read : ∀ {x xs}, IsItem depth (tokens x) (tree x) → (parse self .expression).run
      (tokens x ++ itemTokens (argumentTokens field tokens) xs ")" rest) =
      some (tree x, itemTokens (argumentTokens field tokens) xs ")" rest) := fun item =>
    item.parses (before_itemTokens _ _ (by decide) rest) self deep
  induction xs generalizing x fuel phase with
  | nil =>
    obtain ⟨name, free⟩ := names x (by simp)
    cases fuel with
    | zero => simp at enough
    | succ fuel => exact run_arguments_last name free (read (h x (by simp)))
  | cons y ys ih =>
    obtain ⟨name, free⟩ := names x (by simp)
    cases fuel with
    | zero => simp at enough
    | succ fuel =>
      have more := ih (fun z mem => names z (List.mem_cons_of_mem _ mem))
        (fun z mem => h z (List.mem_cons_of_mem _ mem)) (Nat.lt_of_succ_lt_succ enough)
        (by decide : Phase.named ≠ .spread)
      have split : itemTokens (argumentTokens field tokens) (y :: ys) ")" rest =
          .symbol "," :: (argumentTokens field tokens y ++
            itemTokens (argumentTokens field tokens) ys ")" rest) := by
        simp [itemTokens]
      have first := @read x (y :: ys) (h x (by simp))
      rw [split] at first ⊢
      exact run_arguments_cons name free first early more

theorem run_trailers_call (self : Rule → Parser Tree) (value : Tree) (fuel : Nat)
    (s : List Token) :
    (trailers self value (fuel + 1)).run (.symbol "(" :: s) =
      ((call self value).run s).bind (fun p => (trailers self p.1 fuel).run p.2) := by
  have noPoint : (Token.symbol "(" :: s).head? ≠ some (.symbol ".") := by simp
  have noEntry : (Token.symbol "(" :: s).head? ≠ some (.symbol "[") := by simp
  simp [trailers, run_accept_of_ne noPoint, run_accept_of_ne noEntry]

/-- A name with a call behind it. -/
theorem parses_name_call {w : List Char} (name : Text.isIdentifier w = true)
    (free : isKeyword (String.ofList w) = false) (next : Before afterOperand rest)
    (h : ∀ fuel, depth ≤ fuel → (call (parse fuel) (.name (String.ofList w))).run s =
      some (t, rest)) :
    Parses (depth + 2) .primary (.word (String.ofList w) :: .symbol "(" :: s) t rest := by
  refine .of_step fun fuel enough => ?_
  have atom := parses_name name free (.symbol "(" :: s) fuel (by omega)
  have called : (call (parse fuel) (.name (String.ofList w))).run s = some (t, rest) :=
    h fuel (by omega)
  simp [step, atom, run_trailers_call, called, run_trailers _ next]

/-- A call without arguments. -/
theorem parses_call_nil {w : List Char} (name : Text.isIdentifier w = true)
    (free : isKeyword (String.ofList w) = false) (next : Before afterOperand rest) :
    Parses 2 .primary (.word (String.ofList w) :: .symbol "(" :: .symbol ")" :: rest)
      (.call (.name (String.ofList w)) [] []) rest := by
  refine parses_name_call name free next fun fuel _ => ?_
  simp [call, arguments]

/-- A call with named arguments. -/
theorem parses_call {w : List Char} (name : Text.isIdentifier w = true)
    (free : isKeyword (String.ofList w) = false)
    (names : ∀ y ∈ x :: xs, Text.isIdentifier (field y) = true ∧
      isKeyword (String.ofList (field y)) = false)
    (h : ∀ y ∈ x :: xs, IsItem depth (tokens y) (tree y)) (next : Before afterOperand rest) :
    Parses (depth + 2) .primary (.word (String.ofList w) :: .symbol "(" ::
      (argumentTokens field tokens x ++ itemTokens (argumentTokens field tokens) xs ")" rest))
      (.call (.name (String.ofList w)) []
        ((x :: xs).map (fun y => (some (String.ofList (field y)), tree y)))) rest := by
  refine parses_name_call name free next fun fuel enough => ?_
  have count : xs.length < (argumentTokens field tokens x ++
      itemTokens (argumentTokens field tokens) xs ")" rest).length + 1 := by
    have := length_le_itemTokens (argumentTokens field tokens) xs ")" rest
    rw [List.length_append]
    omega
  have sees := run_seesNameAnd_cons (w := "=") (names x (by simp)).2
    (tokens x ++ itemTokens (argumentTokens field tokens) xs ")" rest)
  have read := run_arguments names h rest enough count (by decide : Phase.positional ≠ .spread)
  simp only [argumentTokens, List.cons_append] at read ⊢
  simpa [call, sees] using read

end Call

end MathProg.Formula.Grammar
