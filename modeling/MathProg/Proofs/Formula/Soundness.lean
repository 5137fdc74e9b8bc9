import MathProg.Proofs.Formula.Backwards

/-!
# Soundness of the grammar

Whatever plain formula a rule reads, the tokens it has taken spell it. Each rule is followed
backwards from its result: a plain result rules out every branch that makes another form, and the
tokens of the remaining branch are those of a derivation.
-/

namespace MathProg.Formula.Grammar

variable {self : Rule → Parser Tree}

/-! ## Forms that are not plain -/

theorem not_isPlain_compound : ¬ Tree.compound.IsPlain := nofun

theorem loopsUpTo_yields (closing : Token) : Yields (loopsUpTo self closing) (· = .compound) :=
  .bind fun _ => .bind fun _ => .bind fun _ => .pure rfl

theorem handedOut_yields (closing : Token) : Yields (handedOut self closing) (· = .compound) := by
  unfold handedOut
  refine .bind fun _ => .ite ?_ ?_
  · exact .bind fun _ => .bind fun _ => .pure rfl
  · refine .bind fun _ => .ite ?_ ?_
    · exact .pure rfl
    · refine .bind fun _ => .bind fun _ => .ite ?_ ?_
      · exact .bind fun _ => .bind fun _ => .pure rfl
      · exact .bind fun _ => .pure rfl

theorem tableOrSet_yields : Yields (tableOrSet self) (· = .compound) := by
  have closes (closing : Token) :
      Yields (do expect closing; return .compound) (· = Tree.compound) :=
    .bind fun _ => .pure rfl
  have pairs (closing : Token) : Yields (do
      let _ ← items closing (keyValue self) (← remaining)
      return .compound) (· = Tree.compound) :=
    .bind fun _ => .bind fun _ => .pure rfl
  unfold tableOrSet
  refine .bind fun _ => .ite (.pure rfl) (.bind fun _ => .ite ?_ ?_)
  · exact .bind fun _ => .bind fun _ => .ite (pairs _) (closes _)
  · refine .bind fun _ => .bind fun first => .bind fun _ => .ite ?_ ?_
    · refine .bind fun _ => .bind fun _ => .ite (loopsUpTo_yields _) ?_
      exact .bind fun _ => .ite (pairs _) (closes _)
    · refine .bind fun _ => .ite ?_ ?_
      · exact .bind fun _ => .bind fun _ => .pure rfl
      · exact .bind fun _ => .ite (loopsUpTo_yields _) (closes _)

theorem texts_yields (bytes formatted : Bool) (fuel : Nat) :
    Yields (texts self bytes formatted fuel) (fun t => t = .compound ∨ t = .constant) := by
  induction fuel generalizing formatted with
  | zero => exact .fail
  | succ fuel ih =>
    refine .bind fun next => ?_
    split
    · exact .ite .fail (.bind fun _ => ih formatted)
    · exact .ite .fail (.bind fun _ => ih true)
    · exact .ite .fail (.bind fun _ => ih formatted)
    · cases formatted
      · exact .pure (.inr rfl)
      · exact .pure (.inl rfl)

/-! ## Lists and brackets -/

section Rules

variable (sound : ∀ rule, Sound (self rule))

include sound

theorem starredOrNamed_sound : Sound (starredOrNamed self) := by
  intro s t rest read plain
  unfold starredOrNamed at read
  rcases run_accept_ite read with ⟨s', rfl, starred⟩ | ⟨-, read⟩
  · obtain ⟨inner, s'', -, read⟩ := run_bind_iff.1 starred
    obtain ⟨rfl, -⟩ := run_pure_iff.1 read
    cases plain
  · exact sound .named s t rest read plain

/-- What is read behind an opening square bracket. -/
theorem listDisplay_sound {s rest : List Token} {t : Tree}
    (read : (listDisplay self).run s = some (t, rest)) (plain : t.IsPlain) :
    ∃ us, s = us ++ rest ∧ Derives (.tree t) (.symbol "[" :: us) := by
  have item := starredOrNamed_sound sound
  have single {s : List Token} {first : Tree}
      (taken : (starredOrNamed self).run s = some (first, .symbol "]" :: rest))
      (plain : (Tree.list [first]).IsPlain) :
      ∃ us, s = us ++ rest ∧ Derives (.tree (.list [first])) (.symbol "[" :: us) := by
    cases plain with
    | list plain =>
      obtain ⟨us, rfl, head⟩ := item _ _ _ taken (plain first (by simp))
      exact ⟨us ++ [.symbol "]"], by simp, .list (.lastItem head)⟩
  unfold listDisplay at read
  rcases run_accept_ite read with ⟨s', rfl, closed⟩ | ⟨-, read⟩
  · cases closed
    exact ⟨_, rfl, .list .noItem⟩
  · obtain ⟨first, s', taken, read⟩ := run_bind_iff.1 read
    rcases run_accept_ite read with ⟨s'', rfl, more⟩ | ⟨-, read⟩
    · rw [run_remaining_bind] at more
      obtain ⟨⟨others, _⟩, s', tail, done⟩ := run_bind_iff.1 more
      cases done
      cases plain with
      | list plain =>
        obtain ⟨us, rfl, head⟩ := item _ _ _ taken (plain first (by simp))
        obtain ⟨vs, rfl, others⟩ := items_sound item tail
          fun t mem => plain t (List.mem_cons_of_mem _ mem)
        exact ⟨us ++ .symbol "," :: vs, by simp, .list (.item head others)⟩
    · split at read
      · obtain ⟨s'', rfl, done⟩ := run_expect_bind read
        cases done
        exact single taken plain
      · obtain ⟨loop, read⟩ := run_seesLoop_bind read
        split at read
        · rw [loopsUpTo_yields _ _ _ _ read] at plain
          cases plain
        · obtain ⟨s'', rfl, done⟩ := run_expect_bind read
          cases done
          exact single taken plain

/-- What is read behind an opening round bracket. -/
theorem group_sound {s rest : List Token} {t : Tree}
    (read : (group self).run s = some (t, rest)) (plain : t.IsPlain) :
    ∃ us, s = us ++ rest ∧ Derives (.tree t) (.symbol "(" :: us) := by
  unfold group at read
  rcases run_accept_ite read with ⟨s', rfl, closed⟩ | ⟨-, read⟩
  · cases closed
    cases plain
  · rcases run_accept_ite read with ⟨s', rfl, suspended⟩ | ⟨-, read⟩
    · rw [handedOut_yields _ _ _ _ suspended] at plain
      cases plain
    · obtain ⟨first, s', taken, read⟩ := run_bind_iff.1 read
      rcases run_accept_ite read with ⟨s'', rfl, several⟩ | ⟨-, read⟩
      · unfold bundleUpTo at several
        rw [run_remaining_bind] at several
        obtain ⟨⟨others, _⟩, s', -, done⟩ := run_bind_iff.1 several
        cases done
        cases plain
      · split at read
        · cases read
        · obtain ⟨loop, read⟩ := run_seesLoop_bind read
          split at read
          · rw [loopsUpTo_yields _ _ _ _ read] at plain
            cases plain
          · obtain ⟨s'', rfl, done⟩ := run_expect_bind read
            cases done
            obtain ⟨us, rfl, head⟩ := starredOrNamed_sound sound _ _ _ taken plain
            exact ⟨us ++ [.symbol ")"], by simp, by simpa using Derives.group head⟩

/-- The arguments of a call and the bracket behind them. -/
theorem arguments_sound {fuel : Nat} {phase : Phase} {s : List Token} {ts : List Tree}
    {named : List (Option String × Tree)} {rest : List Token}
    (read : (arguments self fuel phase).run s = some ((ts, named), rest))
    (plain : ∀ t ∈ ts, t.IsPlain) (names : ∀ a ∈ named, a.1 ≠ none)
    (values : ∀ a ∈ named, a.2.IsPlain) :
    ∃ us, s = us ++ rest ∧ Derives (.arguments ts named) us := by
  induction fuel generalizing phase s ts named with
  | zero => cases read
  | succ fuel ih =>
    unfold arguments at read
    rcases run_accept_ite read with ⟨s', rfl, closed⟩ | ⟨-, read⟩
    · cases closed
      exact ⟨_, rfl, .noArgument⟩
    · rcases run_accept_ite read with ⟨s', rfl, spread⟩ | ⟨-, read⟩
      -- what a table is spread to has no name
      · obtain ⟨value, s'', -, read⟩ := run_bind_iff.1 spread
        obtain ⟨⟨_, _⟩, s', -, done⟩ := run_bind_iff.1 read
        cases done
        exact absurd rfl (names _ (List.mem_cons_self ..))
      · rcases run_accept_ite read with ⟨s', rfl, starred⟩ | ⟨-, read⟩
        -- what a list is spread to is not plain
        · dsimp only at starred
          split at starred
          · cases starred
          · obtain ⟨value, s'', -, read⟩ := run_bind_iff.1 starred
            obtain ⟨⟨_, _⟩, s', -, done⟩ := run_bind_iff.1 read
            cases done
            cases plain _ (List.mem_cons_self ..)
        · obtain ⟨isNamed, seen, read⟩ := run_seesNameAnd_bind read
          split at read
          -- an argument with its name
          · obtain ⟨id, tail, rfl⟩ := seen ‹_›
            obtain ⟨name, s', word, read⟩ := run_bind_iff.1 read
            obtain ⟨rfl, rfl⟩ := run_nameToken_cons word
            rw [run_advance_bind] at read
            obtain ⟨value, s', taken, read⟩ := run_bind_iff.1 read
            obtain ⟨⟨_, _⟩, s'', tail, done⟩ := run_bind_iff.1 read
            cases done
            obtain ⟨us, same, value⟩ := sound _ _ _ _ taken (values _ (List.mem_cons_self ..))
            rw [List.tail_cons] at same
            rcases run_accept_comma tail with ⟨s'', rfl, more⟩ | ⟨rfl, last⟩
            · obtain ⟨vs, rfl, others⟩ := ih more plain
                (fun a mem => names a (List.mem_cons_of_mem _ mem))
                (fun a mem => values a (List.mem_cons_of_mem _ mem))
              exact ⟨_ :: _ :: us ++ .symbol "," :: vs, by simp [same], .named id value others⟩
            · cases last
              exact ⟨_ :: _ :: us ++ [.symbol ")"], by simp [same], .lastNamed id value⟩
          -- an argument without a name
          · dsimp only at read
            split at read
            · cases read
            · obtain ⟨value, s', taken, read⟩ := run_bind_iff.1 read
              obtain ⟨⟨_, _⟩, s'', tail, done⟩ := run_bind_iff.1 read
              cases done
              obtain ⟨us, rfl, value⟩ := sound _ _ _ _ taken (plain _ (List.mem_cons_self ..))
              rcases run_accept_comma tail with ⟨s'', rfl, more⟩ | ⟨rfl, last⟩
              · obtain ⟨vs, rfl, others⟩ := ih more
                  (fun t mem => plain t (List.mem_cons_of_mem _ mem)) names values
                exact ⟨us ++ .symbol "," :: vs, by simp, .argument value others⟩
              · cases last
                exact ⟨us ++ [.symbol ")"], by simp, .lastArgument value⟩

/-- A call whose opening bracket has been read. -/
theorem call_extends {callee t : Tree} {s rest : List Token}
    (read : (call self callee).run s = some (t, rest)) (plain : t.IsPlain) :
    callee.IsPlain ∧ ∃ vs, s = vs ++ rest ∧
      ∀ us, Derives (.tree callee) us → Derives (.tree t) (us ++ .symbol "(" :: vs) := by
  -- the arguments are read at once, or behind a first one
  have build {ts : List Tree} {named : List (Option String × Tree)}
      (plain : (Tree.call callee ts named).IsPlain) {vs : List Token} (same : s = vs ++ rest)
      (derived : Derives (.arguments ts named) vs) : callee.IsPlain ∧ ∃ vs, s = vs ++ rest ∧
        ∀ us, Derives (.tree callee) us →
          Derives (.tree (.call callee ts named)) (us ++ .symbol "(" :: vs) := by
    cases plain
    exact ⟨.name _, vs, same, fun us name => .call name derived⟩
  have byArguments (read : (arguments self (s.length + 1) .positional >>= fun r =>
      pure (Tree.call callee r.1 r.2)).run s = some (t, rest)) :
      callee.IsPlain ∧ ∃ vs, s = vs ++ rest ∧
        ∀ us, Derives (.tree callee) us → Derives (.tree t) (us ++ .symbol "(" :: vs) := by
    obtain ⟨⟨ts, named⟩, s', taken, done⟩ := run_bind_iff.1 read
    cases done
    cases plain with
    | call plain names values =>
      obtain ⟨vs, same, derived⟩ := arguments_sound sound taken plain names values
      exact build (.call plain names values) same derived
  unfold call at read
  rw [run_get_bind] at read
  split at read
  iterate 3
    simp only [pure_bind, if_true] at read
    rw [run_remaining_bind] at read
    exact byArguments read
  · obtain ⟨isNamed, -, read⟩ := run_seesNameAnd_bind read
    beta_reduce at read
    split at read
    · rw [run_remaining_bind] at read
      exact byArguments read
    · obtain ⟨first, s', taken, read⟩ := run_bind_iff.1 read
      obtain ⟨loop, read⟩ := run_seesLoop_bind read
      split at read
      · obtain ⟨_, s'', -, done⟩ := run_bind_iff.1 read
        cases done
        cases plain with
        | call plain => cases plain _ (List.mem_cons_self ..)
      · rcases run_accept_comma read with ⟨s'', rfl, more⟩ | ⟨rfl, last⟩
        · rw [run_remaining_bind] at more
          obtain ⟨⟨ts, named⟩, s', tail, done⟩ := run_bind_iff.1 more
          cases done
          cases plain with
          | call plain names values =>
            obtain ⟨us, rfl, first⟩ := sound _ _ _ _ taken (plain _ (List.mem_cons_self ..))
            obtain ⟨vs, rfl, others⟩ := arguments_sound sound tail
              (fun t mem => plain t (List.mem_cons_of_mem _ mem)) names values
            exact build (.call plain names values) (by simp) (.argument first others)
        · cases last
          cases plain with
          | call plain names values =>
            obtain ⟨us, rfl, first⟩ := sound _ _ _ _ taken (plain _ (List.mem_cons_self ..))
            exact build (.call plain names values) (by simp) (.lastArgument first)

/-! ## Operands -/

theorem atom_sound : Sound (atom self) := by
  intro s t rest read plain
  unfold atom at read
  rw [run_peek_bind] at read
  split at read
  case h_1 l head =>
    obtain ⟨s', rfl⟩ := List.head?_eq_some_iff.1 head
    cases read
    exact ⟨[_], rfl, .number l⟩
  case h_2 | h_10 =>
    cases read
    cases plain
  case h_3 | h_4 | h_5 =>
    rw [run_remaining_bind] at read
    rcases texts_yields _ _ _ _ _ _ read with rfl | rfl <;> cases plain
  case h_6 id head =>
    obtain ⟨s', rfl⟩ := List.head?_eq_some_iff.1 head
    split at read
    · cases read
      cases plain
    · obtain ⟨name, s'', named, done⟩ := run_bind_iff.1 read
      obtain ⟨rfl, rfl⟩ := run_nameToken_cons named
      cases done
      exact ⟨[_], rfl, .name id⟩
  case h_7 head =>
    obtain ⟨s', rfl⟩ := List.head?_eq_some_iff.1 head
    rw [run_advance_bind] at read
    obtain ⟨us, rfl, derived⟩ := group_sound sound read plain
    exact ⟨_, rfl, derived⟩
  case h_8 head =>
    obtain ⟨s', rfl⟩ := List.head?_eq_some_iff.1 head
    rw [run_advance_bind] at read
    obtain ⟨us, rfl, derived⟩ := listDisplay_sound sound read plain
    exact ⟨_, rfl, derived⟩
  case h_9 =>
    rw [run_advance_bind] at read
    rw [tableOrSet_yields _ _ _ read] at plain
    cases plain
  case h_11 => cases read

theorem trailers_extends (value : Tree) (fuel : Nat) :
    Extends (trailers self value fuel) value := by
  induction fuel generalizing value with
  | zero => nofun
  | succ fuel ih =>
    intro s t rest read plain
    have member : Yields (trailers self .member fuel) (fun t => ¬ t.IsPlain) :=
      fun s t rest read plain => nomatch (ih .member s t rest read plain).1
    unfold trailers at read
    rcases run_accept_ite read with ⟨s', rfl, point⟩ | ⟨-, read⟩
    · exact absurd plain (not_isPlain_of_run point (.bind fun _ => member))
    · rcases run_accept_ite read with ⟨s', rfl, entries⟩ | ⟨-, read⟩
      · obtain ⟨empty, s'', -, read⟩ := run_bind_iff.1 entries
        refine absurd plain (not_isPlain_of_run read (.ite (.bind fun _ => ?_) ?_))
        · exact .bind fun _ => .bind fun _ => member
        · exact .bind fun _ => .bind fun _ => member
      · rcases run_accept_ite read with ⟨s', rfl, called⟩ | ⟨-, done⟩
        · obtain ⟨value', s'', called, read⟩ := run_bind_iff.1 called
          obtain ⟨plain, vs, rfl, grow⟩ := ih value' s'' t rest read plain
          obtain ⟨plain, ws, rfl, arguments⟩ := call_extends sound called plain
          refine ⟨plain, .symbol "(" :: ws ++ vs, by simp, fun us derived => ?_⟩
          simpa using grow _ (arguments us derived)
        · exact Extends.pure value s t rest done plain

/-! ## The rules -/

theorem power_sound : Sound (step self .power) := by
  intro s t rest read plain
  have raise (base : Tree) : Extends (do
      if ← accept (.symbol "**") then return Tree.binary .pow base (← self .signed)
      else return base) base := by
    intro s t rest read plain
    rcases run_accept_ite read with ⟨s', rfl, raised⟩ | ⟨-, done⟩
    · obtain ⟨_, _, -, done⟩ := run_bind_iff.1 raised
      cases done
      cases plain
      contradiction
    · exact Extends.pure base s t rest done plain
  simp only [step] at read
  rcases run_accept_ite read with ⟨s', rfl, awaited⟩ | ⟨-, read⟩
  · obtain ⟨_, s'', -, read⟩ := run_bind_iff.1 awaited
    rw [pure_bind] at read
    cases (raise .compound _ _ _ read plain).1
  · exact (sound .primary).extend raise s t rest read plain

theorem signed_sound : Sound (step self .signed) := by
  intro s t rest read plain
  simp only [step] at read
  have sign {w : String} (op : UnaryOp) {s : List Token} (known : (w, op) ∈ leadingSigns)
      (read : (do return Tree.unary op (← self .signed)).run s = some (t, rest)) :
      ∃ us, .symbol w :: s = us ++ rest ∧ Derives (.tree t) us := by
    obtain ⟨operand, s', taken, done⟩ := run_bind_iff.1 read
    cases done
    cases plain with
    | unary _ plain =>
      obtain ⟨us, rfl, derived⟩ := sound _ _ _ _ taken plain
      exact ⟨.symbol w :: us, rfl, .unary known derived⟩
  rcases run_accept_ite read with ⟨s', rfl, plus⟩ | ⟨-, read⟩
  · exact sign .plus (by decide) plus
  · rcases run_accept_ite read with ⟨s', rfl, minus⟩ | ⟨-, read⟩
    · exact sign .minus (by decide) minus
    · rcases run_accept_ite read with ⟨s', rfl, inverted⟩ | ⟨-, read⟩
      · obtain ⟨operand, s'', -, done⟩ := run_bind_iff.1 inverted
        cases done
        cases plain
        contradiction
      · exact sound _ _ _ _ read plain

theorem operation_sound (level : Nat) : Sound (step self (.operation level)) := by
  have operand := sound (if level + 1 < levels.length then .operation (level + 1) else .signed)
  refine operand.extend fun left => ?_
  intro s t rest read plain
  rw [run_remaining_bind] at read
  exact operands_extends operand level left _ s t rest read plain

theorem inversion_sound : Sound (step self .inversion) := by
  intro s t rest read plain
  simp only [step] at read
  rcases run_accept_ite read with ⟨s', rfl, inverted⟩ | ⟨-, read⟩
  · obtain ⟨operand, s'', -, done⟩ := run_bind_iff.1 inverted
    cases done
    cases plain
    contradiction
  · exact sound _ _ _ _ read plain

theorem comparison_sound : Sound (step self .comparison) := by
  intro s t rest read plain
  simp only [step] at read
  rw [run_remaining_bind] at read
  exact chain_sound (sound _) (fun _ _ => comparator_stays) _ s t rest read plain

theorem disjunction_sound : Sound (step self .disjunction) := by
  have conjunction : Sound (do
      chain (accept (.word "and")) (self .inversion) (← remaining)) := by
    intro s t rest read plain
    rw [run_remaining_bind] at read
    exact chain_sound (sound _) (fun _ _ => accept_stays _) _ s t rest read plain
  intro s t rest read plain
  simp only [step] at read
  rw [run_remaining_bind] at read
  exact chain_sound conjunction (fun _ _ => accept_stays _) _ s t rest read plain

theorem expression_sound : Sound (step self .expression) := by
  intro s t rest read plain
  simp only [step] at read
  rcases run_accept_ite read with ⟨s', rfl, function⟩ | ⟨-, read⟩
  · rw [run_remaining_bind] at function
    refine absurd plain (not_isPlain_of_run function ?_)
    exact .bind fun _ => .bind fun _ => .pure not_isPlain_compound
  · obtain ⟨value, s', taken, read⟩ := run_bind_iff.1 read
    rcases run_accept_ite read with ⟨s'', rfl, choice⟩ | ⟨-, done⟩
    · refine absurd plain (not_isPlain_of_run choice ?_)
      exact .bind fun _ => .bind fun _ => .bind fun _ => .pure not_isPlain_compound
    · cases done
      exact sound _ _ _ _ taken plain

theorem named_sound : Sound (step self .named) := by
  intro s t rest read plain
  simp only [step] at read
  obtain ⟨isNamed, -, read⟩ := run_seesNameAnd_bind read
  split at read
  · refine absurd plain (not_isPlain_of_run read ?_)
    exact .bind fun _ => .bind fun _ => .bind fun _ => .pure not_isPlain_compound
  · exact sound _ _ _ _ read plain

theorem embedded_sound : Sound (step self .embedded) := by
  intro s t rest read plain
  simp only [step] at read
  obtain ⟨s', rfl, inner⟩ := run_expect_bind read
  obtain ⟨value, s'', taken, read⟩ := run_bind_iff.1 inner
  rw [run_peek_bind] at read
  split at read
  · cases read
    obtain ⟨us, rfl, derived⟩ := group_sound sound taken plain
    exact ⟨_, rfl, derived⟩
  · cases read

/-- One step of a rule is sound when the rules that it calls are. -/
theorem step_sound (rule : Rule) : Sound (step self rule) := by
  cases rule with
  | expression => exact expression_sound sound
  | named => exact named_sound sound
  | disjunction => exact disjunction_sound sound
  | inversion => exact inversion_sound sound
  | comparison => exact comparison_sound sound
  | operation level => exact operation_sound sound level
  | signed => exact signed_sound sound
  | power => exact power_sound sound
  | primary =>
    refine (sound .atom).extend fun value => ?_
    intro s t rest read plain
    rw [run_remaining_bind] at read
    exact trailers_extends sound value _ s t rest read plain
  | atom => exact atom_sound sound
  | embedded => exact embedded_sound sound

end Rules

/-! ## Whole formulas -/

theorem parse_sound (fuel : Nat) (rule : Rule) : Sound (parse fuel rule) := by
  induction fuel generalizing rule with
  | zero => nofun
  | succ fuel ih => exact step_sound ih rule

theorem rest_yields {fuel : Nat} {first : Tree} (count : Nat) :
    Yields (formula.rest fuel first count) (fun t => ¬ t.IsPlain) := by
  induction count with
  | zero => exact .fail
  | succ count ih =>
    have bundle : ¬ (Tree.bundle [first]).IsPlain := nofun
    unfold formula.rest
    refine .bind fun left => ?_
    split
    · exact .pure bundle
    · refine .bind fun _ => .bind fun left => ?_
      split
      · exact .pure bundle
      · exact .bind fun _ => ih
      · exact .fail

/-- The tokens of a whole plain formula spell it. -/
theorem formula_sound {fuel : Nat} {s rest : List Token} {t : Tree}
    (read : (formula fuel).run s = some (t, rest)) (plain : t.IsPlain) :
    rest = [] ∧ Derives (.tree t) s := by
  unfold formula at read
  obtain ⟨first, s', taken, read⟩ := run_bind_iff.1 read
  rw [run_get_bind] at read
  split at read
  · cases read
    obtain ⟨us, rfl, derived⟩ := parse_sound fuel .expression _ _ _ taken plain
    exact ⟨rfl, by simpa using derived⟩
  · rw [run_advance_bind, run_remaining_bind] at read
    exact absurd plain (not_isPlain_of_run read (rest_yields _))
  · cases read

end Grammar

/-- A text that reads as a plain formula is cut into tokens that spell it. -/
theorem tokens_of_read {s : List Char} {t : Tree} (read : read s = .ok t) (plain : t.IsPlain) :
    ∃ ts, Lexer.run? s = some ts ∧ Derives (.tree t) ts := by
  unfold Formula.read at read
  split at read
  · cases read
  · split at read
    · cases read
    · rename_i ts cut
      split at read
      · rename_i t' parsed
        cases read
        exact ⟨ts, cut, (Grammar.formula_sound parsed plain).2⟩
      · cases read

end MathProg.Formula
