import MathProg.Config.Options
import MathProg.Proofs.Config.Arithmetic
import MathProg.Proofs.Text.Cutting

/-!
# Resolved options

A table of options keeps its keys. A text that is written as a formula is replaced by what the formula
comes to in the table as it is at that moment, and everything else stays. Only where an operation of a
formula goes out of range, or rounds a complex number down, is the whole table refused.

The names in a text are looked up in the whole table, so an option depends on those behind it as well
as on those before it. With further options behind a table, the values of the table stay the same
exactly if no text that is replaced names one of them.
-/

namespace MathProg.Options

open Fallible
open Formula (Tree)

variable {names options done result : Table} {key value new : Data} {a : ArithmeticError}

/-! ## One value -/

/-- The formula that a value is tried as: that of a text with a sign of arithmetic in it. -/
def formula? : Data → Option Tree
  | .text s =>
    let s := Text.strip s.toList
    if looksArithmetic s then (Formula.read s).toOption else none
  | _ => none

/-- Whether a value cannot be passed over: its formula fails, but not in a division by zero. -/
def Breaks (names : Table) (value : Data) (a : ArithmeticError) : Prop :=
  (a = .overflow ∨ a = .complexOperand) ∧ ∃ t, formula? value = some t ∧ t.Fails names a

/-- What becomes of a value: it is replaced if its formula comes to something, and otherwise stays
unless it cannot be passed over. -/
inductive Becomes (names : Table) (value : Data) : Data → Prop where
  | kept : (∀ t q, formula? value = some t → ¬ t.Computes names q) →
      (∀ a, ¬ Breaks names value a) → Becomes names value value
  | replaced {t : Tree} {q : Quantity} : formula? value = some t → t.Computes names q →
      Becomes names value q.toData

theorem formula?_of_plain (plain : ∀ s, value = .text s → ∀ c ∈ s.toList, c ∉ "+-*/()".toList) :
    formula? value = none := by
  cases value with
  | text s =>
    have none : looksArithmetic (Text.strip s.toList) = false := by
      rw [looksArithmetic, List.any_eq_false]
      intro c mem
      simpa using plain s rfl c (Text.mem_strip mem)
    simp only [formula?, none, Bool.false_eq_true, if_false]
  | _ => rfl

theorem resolveValue_eq (names : Table) (value : Data) :
    resolveValue names value =
      match formula? value with
      | none => .ok value
      | some t =>
        match t.value names with
        | .ok q => .ok q.toData
        | .error e => if e.isHarmless then .ok value else .error e := by
  unfold resolveValue formula?
  cases value with
  | text s =>
    simp only
    split
    next =>
      unfold Formula.evaluate
      cases Formula.read (Text.strip s.toList) with
      | error e => rfl
      | ok t => rfl
    next => rfl
  | _ => rfl

theorem isHarmless_eq_false {e : EvaluationError} :
    e.isHarmless = false ↔ ∃ a, e = .arithmetic a ∧ (a = .overflow ∨ a = .complexOperand) := by
  cases e with
  | arithmetic a => cases a <;> simp [EvaluationError.isHarmless]
  | _ => simp [EvaluationError.isHarmless]

theorem becomes_of_ok (h : resolveValue names value = .ok new) : Becomes names value new := by
  rw [resolveValue_eq] at h
  cases form : formula? value with
  | none =>
    rw [form] at h
    obtain rfl := Except.ok.inj h
    exact .kept (fun t q found => nomatch form.symm.trans found)
      fun a ⟨_, t, found, _⟩ => nomatch form.symm.trans found
  | some t =>
    simp only [form] at h
    split at h
    next q computed =>
      obtain rfl := Except.ok.inj h
      exact .replaced form (Tree.value_eq_ok.1 computed)
    next e failed =>
      split at h
      next harmless =>
        obtain rfl := Except.ok.inj h
        refine .kept (fun t' q found computes => ?_) fun a ⟨kind, t', found, fails⟩ => ?_
        · obtain rfl := Option.some.inj (form.symm.trans found)
          cases failed.symm.trans (Tree.value_eq_ok.2 computes)
        · obtain rfl := Option.some.inj (form.symm.trans found)
          obtain rfl := Except.error.inj (failed.symm.trans (Tree.value_eq_arithmetic.2 fails))
          exact Bool.false_ne_true ((isHarmless_eq_false.2 ⟨a, rfl, kind⟩).symm.trans harmless)
      next => cases h

theorem breaks_of_error {e : EvaluationError} (h : resolveValue names value = .error e) :
    ∃ a, e = .arithmetic a ∧ Breaks names value a := by
  rw [resolveValue_eq] at h
  cases form : formula? value with
  | none =>
    rw [form] at h
    cases h
  | some t =>
    simp only [form] at h
    split at h
    next => cases h
    next failed =>
      split at h
      next => cases h
      next harmful =>
        obtain rfl := Except.error.inj h
        obtain ⟨a, rfl, kind⟩ := isHarmless_eq_false.1 (Bool.not_eq_true _ ▸ harmful)
        exact ⟨a, rfl, kind, t, form, Tree.value_eq_arithmetic.1 failed⟩

theorem Becomes.eq_of_plain (h : Becomes names value new)
    (plain : ∀ s, value = .text s → ∀ c ∈ s.toList, c ∉ "+-*/()".toList) : new = value := by
  cases h with
  | kept => rfl
  | replaced form => cases (formula?_of_plain plain).symm.trans form

/-! ## One option after the other -/

/-- What the first options of a table have become. Each was tried when those before it were done and
those behind it were as they are written. -/
inductive Progress (options : Table) : Table → Prop where
  | start : Progress options []
  | next {done : Table} {key value new : Data} : Progress options done →
      options[done.length]? = some (key, value) →
      Becomes (done ++ options.drop done.length) value new →
      Progress options (done ++ [(key, new)])

theorem Progress.entry (h : Progress options done) {i : Nat} {key new : Data}
    (there : done[i]? = some (key, new)) : ∃ value, options[i]? = some (key, value) ∧
      Becomes (done.take i ++ options.drop i) value new := by
  induction h with
  | start => cases there
  | @next done k v w _ found becomes ih =>
    rcases lt_trichotomy i done.length with before | rfl | behind
    · rw [List.getElem?_append_left before] at there
      rw [List.take_append_of_le_length before.le]
      exact ih there
    · rw [List.getElem?_concat_length] at there
      obtain ⟨rfl, rfl⟩ := Prod.mk.inj (Option.some.inj there)
      rw [List.take_left]
      exact ⟨v, found, becomes⟩
    · rw [List.getElem?_eq_none (by simp; omega)] at there
      cases there

theorem Progress.length_le (h : Progress options done) : done.length ≤ options.length := by
  induction h with
  | start => exact Nat.zero_le _
  | next _ found _ _ =>
    rw [List.length_append]
    exact (List.getElem?_eq_some_iff.1 found).1

/-- A table is resolved to its end, or it is refused for the first value that breaks. -/
theorem resolveFrom_cases {rest : Table} (h : Progress options done)
    (behind : options.drop done.length = rest) :
    (∃ result, resolveFrom done rest = .ok result ∧ Progress options result ∧
      result.length = options.length) ∨
    ∃ part key value a, Progress options part ∧ options[part.length]? = some (key, value) ∧
      Breaks (part ++ options.drop part.length) value a ∧
      resolveFrom done rest = .error (.arithmetic a) := by
  induction rest generalizing done with
  | nil =>
    have all := List.drop_eq_nil_iff.1 behind
    exact .inl ⟨done, rfl, h, le_antisymm h.length_le all⟩
  | cons option rest ih =>
    obtain ⟨key, value⟩ := option
    have found : options[done.length]? = some (key, value) := by
      rw [← List.head?_drop, behind, List.head?_cons]
    rw [resolveFrom]
    cases outcome : resolveValue (done ++ (key, value) :: rest) value with
    | error e =>
      obtain ⟨a, rfl, breaks⟩ := breaks_of_error outcome
      exact .inr ⟨done, key, value, a, h, found, behind ▸ breaks, rfl⟩
    | ok new =>
      have next := h.next found (behind ▸ becomes_of_ok outcome)
      refine ih next ?_
      rw [List.length_append, List.length_singleton, ← List.drop_drop, behind]
      rfl

theorem progress_of_resolve (h : resolve options = .ok result) :
    Progress options result ∧ result.length = options.length := by
  rcases resolveFrom_cases .start (List.drop_zero (l := options)) with
    ⟨result', resolved, known⟩ | ⟨_, _, _, _, _, _, _, refused⟩
  · obtain rfl := Except.ok.inj (h.symm.trans resolved)
    exact known
  · cases h.symm.trans refused

theorem Progress.keys (h : Progress options result) (whole : result.length = options.length) :
    result.map Prod.fst = options.map Prod.fst := by
  refine List.ext_getElem? fun i => ?_
  rw [List.getElem?_map, List.getElem?_map]
  cases there : result[i]? with
  | none =>
    rw [List.getElem?_eq_none_iff, whole, ← List.getElem?_eq_none_iff] at there
    rw [there]
  | some option =>
    obtain ⟨value, found, -⟩ := h.entry there
    rw [found]
    rfl

/-! ## Whole tables -/

/-- What is put in place of a value is a number, unless a power in the formula is not real. -/
theorem Becomes.number_or_power (h : Becomes names value new) : new = value ∨
    (∃ n, new = .number n) ∨ ∃ t, formula? value = some t ∧ t.HasComplexPower names := by
  cases h with
  | kept => exact .inl rfl
  | @replaced t q form computes =>
    cases q with
    | number n => exact .inr (.inl ⟨n, rfl⟩)
    | complex z => exact .inr (.inr ⟨t, form, computes.hasComplexPower⟩)

/-- Every table of options is resolved or refused. It is resolved with its keys in their order: a
value without a sign of arithmetic in it stays, and another one is replaced by what its formula comes
to in the table at that moment, or stays if that is nothing; what is put in its place is an integer or
a float unless a power in the formula is not real. The table is refused for the first formula with an
operation that goes out of range, or that rounds something down which such a power has made. -/
theorem resolve_cases (options : Table) :
    (∃ result, resolve options = .ok result ∧ result.map Prod.fst = options.map Prod.fst ∧
      ∀ i key value, options[i]? = some (key, value) → ∃ new, result[i]? = some (key, new) ∧
        Becomes (result.take i ++ options.drop i) value new ∧
        ((∀ s, value = .text s → ∀ c ∈ s.toList, c ∉ "+-*/()".toList) → new = value) ∧
        (new = value ∨ (∃ n, new = .number n) ∨ ∃ t, formula? value = some t ∧
          t.HasComplexPower (result.take i ++ options.drop i))) ∨
    ∃ done key value t a, Progress options done ∧ options[done.length]? = some (key, value) ∧
      formula? value = some t ∧ t.Fails (done ++ options.drop done.length) a ∧
      (a = .overflow ∨
        a = .complexOperand ∧ t.HasComplexPower (done ++ options.drop done.length)) ∧
      resolve options = .error (.arithmetic a) := by
  rcases resolveFrom_cases Progress.start (List.drop_zero (l := options)) with
    ⟨result, resolved, progress, whole⟩ |
    ⟨done, key, value, a, progress, found, ⟨kind, t, form, fails⟩, refused⟩
  · refine .inl ⟨result, resolved, progress.keys whole, fun i key value found => ?_⟩
    obtain ⟨⟨key', new⟩, there⟩ : ∃ option, result[i]? = some option :=
      ⟨_, List.getElem?_eq_getElem (whole ▸ (List.getElem?_eq_some_iff.1 found).1)⟩
    obtain ⟨value', found', becomes⟩ := progress.entry there
    obtain ⟨rfl, rfl⟩ := Prod.mk.inj (Option.some.inj (found.symm.trans found'))
    exact ⟨new, there, becomes, becomes.eq_of_plain, becomes.number_or_power⟩
  · refine .inr ⟨done, key, value, t, a, progress, found, form, fails, ?_, refused⟩
    rcases kind with rfl | rfl
    · exact .inl rfl
    · exact .inr ⟨rfl, fails.hasComplexPower⟩

end MathProg.Options

/-! ## What options depend on -/

namespace MathProg

open Fallible
open Formula (Tree)

/-! ## Looking up names -/

namespace Table

variable {first second : Table} {name : String}

/-- Whether no key of one table is a key of the other. -/
def Apart (first second : Table) : Prop :=
  ∀ a ∈ first, ∀ b ∈ second, a.1.sameKey b.1 = false

theorem sameKey_text {key : Data} : key.sameKey (.text name) = true ↔ key = .text name := by
  cases key <;> simp [Data.sameKey, Data.keyNumber?]

theorem get?_append (first second : Table) (name : String) :
    Table.get? name (first ++ second) = (first.get? name).or (second.get? name) := by
  unfold get?
  rw [List.find?_append, Option.map_or]

/-- What is found in one table is not found in the other. -/
theorem Apart.get?_eq_none (h : Apart first second) {d : Data} (found : first.get? name = some d) :
    second.get? name = none := by
  obtain ⟨a, foundA, -⟩ := Option.map_eq_some_iff.1 found
  have keyA := sameKey_text.1 (by simpa using List.find?_some foundA)
  rw [get?, Option.map_eq_none_iff, List.find?_eq_none]
  intro b mem same
  have keyB := sameKey_text.1 same
  have apart := h a (List.mem_of_find?_eq_some foundA) b mem
  rw [keyA, keyB] at apart
  simp [Data.sameKey] at apart

/-- Tables stay apart when a value is replaced. -/
theorem Apart.replace {done rest : Table} {key value : Data}
    (h : Apart (done ++ (key, value) :: rest) second) (new : Data) :
    Apart (done ++ [(key, new)] ++ rest) second := by
  intro a mem b inside
  rw [List.append_assoc, List.mem_append, List.singleton_append, List.mem_cons] at mem
  rcases mem with mem | rfl | mem
  · exact h a (by simp [mem]) b inside
  · exact h (key, value) (by simp) b inside
  · exact h a (by simp [mem]) b inside

end Table

namespace Options

variable {names done rest behind result joint : Table} {key value new new' : Data}

/-! ## One value -/

theorem formula?_toData (q : Quantity) : formula? q.toData = none := by
  cases q <;> rfl

/-- A formula that comes to something does so with further options behind. -/
theorem computes_append (behind : Table) {t : Tree} {q : Quantity} (h : t.Computes names q) :
    t.Computes (names ++ behind) q := by
  refine h.congr fun id inside => ?_
  obtain ⟨n, found⟩ := h.exists_number inside
  rw [Table.get?_append, found, Option.some_or]

/-- With further options behind, a value becomes something else exactly if its formula comes to
something and names one of them. -/
theorem Becomes.append_iff (apart : names.Apart behind) (alone : Becomes names value new)
    (both : Becomes (names ++ behind) value new') :
    new' = new ↔ ∀ t q, formula? value = some t → t.Computes (names ++ behind) q →
      ∀ id, t.Contains (.name id) → behind.get? id = none := by
  cases alone with
  | @replaced t q form computes =>
    have later := computes_append behind computes
    cases both with
    | kept none => exact absurd later (none t q form)
    | @replaced t' q' form' computes' =>
      obtain rfl := Option.some.inj (form.symm.trans form')
      obtain rfl := computes'.unique later
      refine iff_of_true rfl fun t' _ form' _ id inside => ?_
      obtain rfl := Option.some.inj (form.symm.trans form')
      obtain ⟨n, found⟩ := computes.exists_number inside
      exact apart.get?_eq_none found
  | kept none =>
    cases both with
    | kept none' => exact iff_of_true rfl fun t q form computes => absurd computes (none' t q form)
    | @replaced t q form computes =>
      refine iff_of_false ?_ fun elsewhere => ?_
      · -- a text is no number
        rintro rfl
        cases (formula?_toData q).symm.trans form
      · refine none t q form (computes.congr fun id inside => ?_)
        rw [Table.get?_append, elsewhere t q form computes id inside, Option.or_none]

/-! ## Whole tables -/

theorem prefix_of_resolveFrom (h : resolveFrom done rest = .ok result) : done <+: result := by
  induction rest generalizing done with
  | nil =>
    obtain rfl := Except.ok.inj h
    exact List.prefix_refl _
  | cons option rest ih =>
    obtain ⟨new, -, h⟩ := bind_eq_ok.1 h
    exact (List.prefix_append _ _).trans (ih h)

/-- The tables agree on what is still to be resolved exactly if none of its texts that are replaced
names an option behind. -/
theorem resolveFrom_append_iff (apart : (done ++ rest).Apart behind)
    (alone : resolveFrom done rest = .ok result)
    (both : resolveFrom done (rest ++ behind) = .ok joint) :
    result <+: joint ↔ ∀ i key value t q, rest[i]? = some (key, value) → formula? value = some t →
      t.Computes (joint.take (done.length + i) ++ (rest ++ behind).drop i) q →
      ∀ id, t.Contains (.name id) → behind.get? id = none := by
  induction rest generalizing done with
  | nil =>
    obtain rfl := Except.ok.inj alone
    exact iff_of_true (prefix_of_resolveFrom both) nofun
  | cons option rest ih =>
    obtain ⟨key, value⟩ := option
    obtain ⟨new, one, alone⟩ := bind_eq_ok.1 alone
    obtain ⟨new', one', both⟩ := bind_eq_ok.1 both
    have first := (becomes_of_ok one).append_iff apart (by
      rw [List.append_assoc]
      exact becomes_of_ok one')
    have start := prefix_of_resolveFrom alone
    have start' := prefix_of_resolveFrom both
    have inForce : joint.take (done.length + 0) ++ ((key, value) :: rest ++ behind).drop 0
        = done ++ (key, value) :: rest ++ behind := by
      rw [Nat.add_zero, List.drop_zero,
        ← List.prefix_iff_eq_take.1 ((List.prefix_append _ _).trans start'), List.append_assoc]
    by_cases same : new' = new
    · -- nothing is decided by the first option, and the others are resolved in the same table
      subst same
      rw [ih (apart.replace new') alone both]
      constructor
      · intro later i k v t q found form computes
        cases i with
        | zero =>
          obtain ⟨rfl, rfl⟩ := Prod.mk.inj (Option.some.inj found)
          exact first.1 rfl t q form (inForce ▸ computes)
        | succ i =>
          refine later i k v t q found form ?_
          rw [List.length_append, List.length_singleton, Nat.add_assoc, Nat.add_comm 1]
          exact computes
      · intro each i k v t q found form computes
        refine each (i + 1) k v t q found form ?_
        rw [List.length_append, List.length_singleton, Nat.add_assoc, Nat.add_comm 1] at computes
        exact computes
    · -- the first option is the one that differs, so its text is replaced and names what is behind
      refine iff_of_false (fun inside => same ?_) fun each => same (first.2 fun t q form computes =>
        each 0 key value t q rfl form (inForce.symm ▸ computes))
      have equal := List.prefix_of_prefix_length_le (start.trans inside) start' (by simp)
      have equal := equal.eq_of_length (by simp)
      simpa using (List.append_cancel_left equal).symm

/-- What a table is resolved to is the beginning of what it is resolved to with further options
behind it, exactly if no text that is replaced names one of these. -/
theorem resolve_append_iff {first behind result joint : Table} (apart : first.Apart behind)
    (alone : resolve first = .ok result) (both : resolve (first ++ behind) = .ok joint) :
    joint.take first.length = result ↔ ∀ i key value t q, first[i]? = some (key, value) →
      formula? value = some t → t.Computes (joint.take i ++ (first ++ behind).drop i) q →
      ∀ id, t.Contains (.name id) → behind.get? id = none := by
  have fresh : ([] ++ first : Table).Apart behind := apart
  rw [← (progress_of_resolve alone).2, eq_comm, ← List.prefix_iff_eq_take,
    resolveFrom_append_iff fresh alone both]
  simp only [List.length_nil, Nat.zero_add]

/-- A text that names an option behind its table, and one that does not. -/
def ahead : Table := [(.text "a", .text "x + 1"), (.text "b", .text "2 * 3")]

theorem resolve_append_iff_ahead :
    let behind : Table := [(.text "x", .number (.integer 5))]
    ∃ result joint, ahead.Apart behind ∧ resolve ahead = .ok result ∧
      resolve (ahead ++ behind) = .ok joint ∧ joint.take ahead.length ≠ result ∧
      ∃ i key value t q, ahead[i]? = some (key, value) ∧ formula? value = some t ∧
        t.Computes (joint.take i ++ (ahead ++ behind).drop i) q ∧
        ∃ id, t.Contains (.name id) ∧ behind.get? id ≠ none := by
  intro behind
  have apart : ahead.Apart behind := by simp [Table.Apart, ahead, behind, Data.sameKey]
  have alone : resolve ahead = .ok [(.text "a", .text "x + 1"), (.text "b", .number (.integer 6))] := by
    cbv
  have both : resolve (ahead ++ behind) = .ok [(.text "a", .number (.integer 6)),
      (.text "b", .number (.integer 6)), (.text "x", .number (.integer 5))] := by
    cbv
  have differ := resolve_append_iff apart alone both
  refine ⟨_, _, apart, alone, both, by simp [ahead], ?_⟩
  have named := mt differ.2 (by simp [ahead])
  push Not at named
  exact named

end Options

end MathProg
