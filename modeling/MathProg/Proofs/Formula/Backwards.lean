import MathProg.Proofs.Formula.Derivation
import MathProg.Proofs.Formula.Parsing

/-!
# Reading backwards

From the result of a rule back to the tokens it has taken. A reader is sound if the tokens of every
plain formula that it reads spell the formula; forms that are never plain need no spelling. Lists,
rows of operands and chains are sound if their items are.
-/

namespace MathProg.Formula.Grammar

open MathProg.Text (normalForm)

/-! ## Reading backwards -/

section Backwards

variable {α β : Type} {x : Parser α} {f : α → Parser β} {s s' rest : List Token} {b : β}

theorem run_bind_iff : (x >>= f).run s = some (b, rest) ↔
    ∃ a s', x.run s = some (a, s') ∧ (f a).run s' = some (b, rest) := by
  rw [StateT.run_bind]
  cases x.run s with
  | none => simp
  | some r => simp [Prod.ext_iff]

theorem run_pure_iff {a b : β} : (pure a : Parser β).run s = some (b, rest) ↔ a = b ∧ s = rest := by
  simp [StateT.run_pure]

theorem not_run_fail {r : β × List Token} : (fail : Parser β).run s ≠ some r := by
  intro h
  cases h

theorem run_remaining_bind {f : Nat → Parser β} :
    (remaining >>= f).run s = (f (s.length + 1)).run s := rfl

theorem run_peek_bind {f : Option Token → Parser β} :
    (peek >>= f).run s = (f s.head?).run s := rfl

theorem run_get_bind {f : List Token → Parser β} :
    ((get : Parser (List Token)) >>= f).run s = (f s).run s := rfl

theorem run_advance_bind {f : Unit → Parser β} :
    (advance >>= f).run s = (f ()).run s.tail := rfl

variable {t : Token}

/-- Either the token is there and taken, or it is not. -/
theorem run_accept_bind {f : Bool → Parser β} (h : (accept t >>= f).run s = some (b, rest)) :
    (∃ s', s = t :: s' ∧ (f true).run s' = some (b, rest)) ∨
      s.head? ≠ some t ∧ (f false).run s = some (b, rest) := by
  by_cases there : s.head? = some t
  · obtain ⟨s', rfl⟩ := List.head?_eq_some_iff.1 there
    refine .inl ⟨s', rfl, ?_⟩
    rw [StateT.run_bind, run_accept_cons] at h
    exact h
  · refine .inr ⟨there, ?_⟩
    rw [StateT.run_bind, run_accept_of_ne there] at h
    exact h

theorem run_accept_ite {p q : Parser β}
    (h : (accept t >>= fun there => if there = true then p else q).run s = some (b, rest)) :
    (∃ s', s = t :: s' ∧ p.run s' = some (b, rest)) ∨
      s.head? ≠ some t ∧ q.run s = some (b, rest) :=
  run_accept_bind h

theorem run_expect_bind {f : Unit → Parser β} (h : (expect t >>= f).run s = some (b, rest)) :
    ∃ s', s = t :: s' ∧ (f ()).run s' = some (b, rest) := by
  unfold expect at h
  rw [bind_assoc] at h
  rcases run_accept_bind h with ⟨s', rfl, taken⟩ | ⟨-, refused⟩
  · exact ⟨s', rfl, taken⟩
  · cases refused

/-- Either a comma is there and more is read behind it, or the bracket closes. -/
theorem run_accept_comma {p : Parser β} {last : β} {closing : Token}
    (h : (accept (.symbol ",") >>= fun there => if there = true then p else do
      expect closing
      return last).run s = some (b, rest)) :
    (∃ s', s = .symbol "," :: s' ∧ p.run s' = some (b, rest)) ∨
      s = closing :: rest ∧ b = last := by
  rcases run_accept_ite h with more | ⟨-, closed⟩
  · exact .inl more
  · obtain ⟨s', rfl, done⟩ := run_expect_bind closed
    obtain ⟨rfl, rfl⟩ := run_pure_iff.1 done
    exact .inr ⟨rfl, rfl⟩

end Backwards

/-! ## Tokens that are only looked at -/

section Lookahead

variable {β : Type} {f : Bool → Parser β} {s rest : List Token} {b : β}

theorem run_seesLoop_bind (read : (seesLoop >>= f).run s = some (b, rest)) :
    ∃ there, (f there).run s = some (b, rest) := by
  obtain ⟨there, s', seen, read⟩ := run_bind_iff.1 read
  unfold seesLoop at seen
  rw [run_get_bind] at seen
  -- However the test ends, no token is taken.
  split at seen <;>
  · obtain ⟨-, rfl⟩ := run_pure_iff.1 seen
    exact ⟨there, read⟩

/-- A name and a symbol that are seen stand next. -/
theorem run_seesNameAnd_bind {w : String}
    (read : (seesNameAnd w >>= f).run s = some (b, rest)) :
    ∃ there, (there = true → ∃ id tail, s = .word id :: .symbol w :: tail) ∧
      (f there).run s = some (b, rest) := by
  obtain ⟨there, s', seen, read⟩ := run_bind_iff.1 read
  unfold seesNameAnd at seen
  rw [run_get_bind] at seen
  split at seen
  · obtain ⟨rfl, rfl⟩ := run_pure_iff.1 seen
    refine ⟨_, fun there => ?_, read⟩
    simp only [Bool.and_eq_true, beq_iff_eq] at there
    exact ⟨_, _, by rw [there.2]⟩
  · obtain ⟨rfl, rfl⟩ := run_pure_iff.1 seen
    exact ⟨false, fun there => absurd there Bool.false_ne_true, read⟩

end Lookahead

theorem run_nameToken_cons {id name : String} {s rest : List Token}
    (read : nameToken.run (.word id :: s) = some (name, rest)) :
    name = normalForm id ∧ rest = s := by
  unfold nameToken at read
  rw [run_peek_bind] at read
  simp only [List.head?_cons] at read
  split at read
  · cases read
  · rw [run_advance_bind] at read
    obtain ⟨rfl, rfl⟩ := run_pure_iff.1 read
    exact ⟨rfl, rfl⟩

/-! ## Readers of plain formulas -/

/-- Whatever plain formula is read is spelled by the tokens that are taken. -/
def Sound (p : Parser Tree) : Prop :=
  ∀ s t rest, p.run s = some (t, rest) → t.IsPlain → ∃ us, s = us ++ rest ∧ Derives (.tree t) us

/-- All results of a reader have a property. -/
def Yields {α : Type} (p : Parser α) (P : α → Prop) : Prop :=
  ∀ s a rest, p.run s = some (a, rest) → P a

section Yields

variable {α β : Type} {P : β → Prop}

theorem Yields.bind {x : Parser α} {f : α → Parser β} (h : ∀ a, Yields (f a) P) :
    Yields (x >>= f) P := by
  intro s b rest read
  obtain ⟨a, s', -, read⟩ := run_bind_iff.1 read
  exact h a s' b rest read

theorem Yields.pure {b : β} (h : P b) : Yields (pure b : Parser β) P := by
  intro s b' rest read
  obtain ⟨rfl, -⟩ := run_pure_iff.1 read
  exact h

theorem Yields.fail : Yields (fail : Parser β) P :=
  fun _ _ _ read => absurd read not_run_fail

theorem Yields.ite {c : Prop} [Decidable c] {p q : Parser β} (hp : Yields p P) (hq : Yields q P) :
    Yields (if c then p else q) P := by
  split
  · exact hp
  · exact hq

end Yields

theorem not_isPlain_of_run {p : Parser Tree} {s rest : List Token} {t : Tree}
    (read : p.run s = some (t, rest)) (never : Yields p (fun t => ¬ t.IsPlain)) : ¬ t.IsPlain :=
  never s t rest read

/-! ## Repetition -/

/-- The items of a list, their commas and the bracket behind them. -/
theorem items_sound {item : Parser Tree} (sound : Sound item) {fuel : Nat} {s : List Token}
    {ts : List Tree} {comma : Bool} {rest : List Token}
    (read : (items (.symbol "]") item fuel).run s = some ((ts, comma), rest))
    (plain : ∀ t ∈ ts, t.IsPlain) : ∃ us, s = us ++ rest ∧ Derives (.items ts) us := by
  -- One unit of fuel is one item; that all items are plain is handed down to the later ones.
  induction fuel generalizing s ts comma with
  | zero => cases read
  | succ fuel ih =>
    unfold items at read
    rcases run_accept_ite read with ⟨s', rfl, closed⟩ | ⟨-, read⟩
    · cases closed
      exact ⟨_, rfl, .noItem⟩
    · obtain ⟨first, s', taken, read⟩ := run_bind_iff.1 read
      rcases run_accept_comma read with ⟨s'', rfl, more⟩ | ⟨rfl, last⟩
      · obtain ⟨⟨others, _⟩, s', tail, done⟩ := run_bind_iff.1 more
        cases done
        obtain ⟨us, rfl, head⟩ := sound _ _ _ taken (plain first (by simp))
        obtain ⟨vs, rfl, others⟩ := ih tail fun t mem => plain t (List.mem_cons_of_mem _ mem)
        exact ⟨us ++ .symbol "," :: vs, by simp, .item head others⟩
      · cases last
        obtain ⟨us, rfl, head⟩ := sound _ _ _ taken (plain first (by simp))
        exact ⟨us ++ [.symbol "]"], by simp, .lastItem head⟩

/-- Whatever plain formula is read from `left` on is spelled by the tokens of `left` and those that
are taken. -/
def Extends (p : Parser Tree) (left : Tree) : Prop :=
  ∀ s t rest, p.run s = some (t, rest) → t.IsPlain →
    left.IsPlain ∧ ∃ vs, s = vs ++ rest ∧
      ∀ us, Derives (.tree left) us → Derives (.tree t) (us ++ vs)

theorem Extends.pure (t : Tree) : Extends (pure t) t := by
  intro s t' rest read plain
  obtain ⟨rfl, rfl⟩ := run_pure_iff.1 read
  exact ⟨plain, [], rfl, fun us derived => by simpa using derived⟩

/-- A first formula and what extends it. -/
theorem Sound.extend {p : Parser Tree} {f : Tree → Parser Tree} (first : Sound p)
    (more : ∀ left, Extends (f left) left) : Sound (p >>= f) := by
  intro s t rest read plain
  obtain ⟨left, s', taken, read⟩ := run_bind_iff.1 read
  obtain ⟨plain, vs, rfl, grow⟩ := more left s' t rest read plain
  obtain ⟨us, rfl, derived⟩ := first s left _ taken plain
  exact ⟨us ++ vs, by simp, grow us derived⟩

/-- The operators of plain formulas join plain formulas. -/
theorem operator?_joiners {level : Nat} {next : Option Token} {op : BinaryOp}
    (found : operator? level next = some op) (known : op ∈ [.add, .sub, .mul]) :
    ∃ w, next = some (.symbol w) ∧ (w, op) ∈ joiners := by
  have table : ∀ ops ∈ levels, ∀ o ∈ ops, o.2 ∈ [BinaryOp.add, .sub, .mul] → o ∈ joiners := by
    decide
  unfold operator? at found
  split at found
  · rename_i w
    refine ⟨w, rfl, ?_⟩
    cases entry : levels[level]? with
    | none => simp [entry] at found
    | some ops =>
      rw [entry, Option.getD_some] at found
      obtain ⟨before, after, rfl, -⟩ := List.lookup_eq_some_iff.1 found
      exact table _ (List.mem_of_getElem? entry) (w, op) (by simp) known
  · cases found

theorem operands_extends {operand : Parser Tree} (sound : Sound operand) (level : Nat) (left : Tree)
    (fuel : Nat) : Extends (operands level operand left fuel) left := by
  -- Every round makes what has been read the left operand of the next, so `left` has to vary.
  induction fuel generalizing left with
  | zero => nofun
  | succ fuel ih =>
    intro s t rest read plain
    unfold operands at read
    rw [run_peek_bind] at read
    split at read
    · rename_i op found
      rw [run_advance_bind] at read
      obtain ⟨right, s', taken, read⟩ := run_bind_iff.1 read
      obtain ⟨both, vs, rfl, grow⟩ := ih (.binary op left right) s' t rest read plain
      cases both with
      | binary known plainLeft plainRight =>
        obtain ⟨w, next, joins⟩ := operator?_joiners found known
        obtain ⟨s'', rfl⟩ := List.head?_eq_some_iff.1 next
        obtain ⟨us, same, derived⟩ := sound _ _ _ taken plainRight
        rw [List.tail_cons] at same
        refine ⟨plainLeft, .symbol w :: us ++ vs, by simp [same], fun ws operand => ?_⟩
        simpa using grow _ (.binary joins operand derived)
    · exact Extends.pure left s t rest read plain

/-- One item, or what is never plain. -/
theorem chain_sound {more : Parser Bool} {item : Parser Tree} (sound : Sound item)
    (stays : ∀ s s', more.run s = some (false, s') → s' = s) (fuel : Nat) :
    Sound (chain more item fuel) := by
  cases fuel with
  | zero => nofun
  | succ fuel =>
    intro s t rest read plain
    unfold chain at read
    obtain ⟨first, s', taken, read⟩ := run_bind_iff.1 read
    obtain ⟨another, s'', seen, read⟩ := run_bind_iff.1 read
    cases another with
    | true =>
      -- A second item makes the tree a comparison or a connective, which is never plain.
      obtain ⟨_, _, -, done⟩ := run_bind_iff.1 read
      cases done
      cases plain
    | false =>
      cases read
      rw [stays _ _ seen] at *
      exact sound _ _ _ taken plain

theorem comparator_stays {s s' : List Token} (read : comparator.run s = some (false, s')) :
    s' = s := by
  unfold comparator at read
  rw [run_get_bind] at read
  split at read
  · split at read <;> cases read
    rfl
  all_goals
    cases read
  rfl

theorem accept_stays (t : Token) {s s' : List Token} (read : (accept t).run s = some (false, s')) :
    s' = s := by
  by_cases there : s.head? = some t
  · obtain ⟨tail, rfl⟩ := List.head?_eq_some_iff.1 there
    rw [run_accept_cons] at read
    cases read
  · rw [run_accept_of_ne there] at read
    cases read
    rfl

end MathProg.Formula.Grammar
