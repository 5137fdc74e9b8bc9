import Mathlib

/-!
# Computations that may fail

How a result in `Except` or `Option` is taken apart, and what an operation with a state leaves
behind. An operation that fails has still done what it did before, so a statement about it speaks of
the result and of the state at once.
-/

namespace MathProg.Fallible

universe u

variable {ε ε' α β : Type u}

/-! ## Results -/

theorem bind_eq_ok {x : Except ε α} {f : α → Except ε β} {b : β} :
    x >>= f = .ok b ↔ ∃ a, x = .ok a ∧ f a = .ok b := by
  cases x with
  | error e => simp [bind, Except.bind]
  | ok a => simp [bind, Except.bind]

theorem bind_eq_error {x : Except ε α} {f : α → Except ε β} {e : ε} :
    x >>= f = .error e ↔ x = .error e ∨ ∃ a, x = .ok a ∧ f a = .error e := by
  cases x with
  | error e => simp [bind, Except.bind]
  | ok a => simp [bind, Except.bind]

theorem pure_eq_ok {a b : α} : (pure a : Except ε α) = .ok b ↔ a = b := by
  simp [pure, Except.pure]

theorem map_eq_ok {x : Except ε α} {f : α → β} {b : β} :
    f <$> x = .ok b ↔ ∃ a, x = .ok a ∧ f a = b := by
  cases x with
  | error e => simp [Functor.map, Except.map]
  | ok a => simp [Functor.map, Except.map]

theorem exists_map_eq_ok {x : Except ε α} {f : α → β} :
    (∃ b, x.map f = .ok b) ↔ ∃ a, x = .ok a := by
  cases x <;> simp [Except.map]

theorem mapError_eq_ok {x : Except ε α} {f : ε → ε'} {a : α} :
    x.mapError f = .ok a ↔ x = .ok a := by
  cases x <;> simp [Except.mapError]

theorem mapError_eq_error {x : Except ε α} {f : ε → ε'} {e' : ε'} :
    x.mapError f = .error e' ↔ ∃ e, x = .error e ∧ f e = e' := by
  cases x <;> simp [Except.mapError]

/-- A list is read if each of its members is. -/
theorem mapM_eq_ok {f : α → Except ε β} {xs : List α} {ys : List β} :
    xs.mapM f = .ok ys ↔ List.Forall₂ (fun x y => f x = .ok y) xs ys := by
  induction xs generalizing ys with
  | nil => simp [pure, Except.pure, eq_comm]
  | cons x xs ih =>
    rw [List.mapM_cons, List.forall₂_cons_left_iff]
    simp only [bind_eq_ok, pure_eq_ok, ih]
    constructor
    · rintro ⟨y, hy, ys, hys, rfl⟩
      exact ⟨y, ys, hy, hys, rfl⟩
    · rintro ⟨y, ys, hy, hys, rfl⟩
      exact ⟨y, hy, ys, hys, rfl⟩

/-- What a list cannot be read for is what one of its members cannot be read for. -/
theorem exists_of_mapM_eq_error {f : α → Except ε β} {xs : List α} {e : ε}
    (h : xs.mapM f = .error e) : ∃ x ∈ xs, f x = .error e := by
  induction xs with
  | nil => cases h
  | cons x xs ih =>
    rw [List.mapM_cons, bind_eq_error] at h
    rcases h with first | ⟨y, -, rest⟩
    · exact ⟨x, List.mem_cons_self, first⟩
    · rcases bind_eq_error.1 rest with rest | ⟨ys, -, rest⟩
      · obtain ⟨z, mem, failed⟩ := ih rest
        exact ⟨z, List.mem_cons_of_mem _ mem, failed⟩
      · cases rest

/-- All members are read one by one. -/
theorem mapM_ok {f : α → Except ε β} {g : α → β} {xs : List α} (h : ∀ x ∈ xs, f x = .ok (g x)) :
    xs.mapM f = .ok (xs.map g) := by
  rw [mapM_eq_ok, List.forall₂_map_right_iff, List.forall₂_same]
  exact h

/-- A computation that always goes on succeeds if its first part does. -/
theorem exists_bind {x : Except ε α} {f : α → Except ε β} (first : ∃ a, x = .ok a)
    (next : ∀ a, ∃ b, f a = .ok b) : ∃ b, x >>= f = .ok b := by
  obtain ⟨a, ha⟩ := first
  obtain ⟨b, hb⟩ := next a
  exact ⟨b, bind_eq_ok.2 ⟨a, ha, hb⟩⟩

/-- What every step keeps holds of the result. -/
theorem foldlM_invariant {f : β → α → Except ε β} (P : β → Prop)
    (step : ∀ b a b', P b → f b a = .ok b' → P b') {xs : List α} {start final : β}
    (h : xs.foldlM f start = .ok final) (begin : P start) : P final := by
  induction xs generalizing start with
  | nil =>
    cases h
    exact begin
  | cons x xs ih =>
    rw [List.foldlM_cons] at h
    obtain ⟨next, first, rest⟩ := bind_eq_ok.1 h
    exact ih rest (step start x next begin first)

/-- A fold can be carried out if each of its steps can. -/
theorem exists_foldlM {f : β → α → Except ε β} {xs : List α}
    (step : ∀ b, ∀ a ∈ xs, ∃ b', f b a = .ok b') (start : β) : ∃ b, xs.foldlM f start = .ok b := by
  induction xs generalizing start with
  | nil => exact ⟨start, rfl⟩
  | cons x xs ih =>
    rw [List.foldlM_cons]
    exact exists_bind (step start x List.mem_cons_self) fun next =>
      ih (fun b a mem => step b a (List.mem_cons_of_mem _ mem)) next

/-- A fold that adds a term at every step adds the sum of the terms. -/
theorem foldlM_add [AddMonoid β] {f : β → α → Except ε β} {term : α → β} {xs : List α}
    (step : ∀ x ∈ xs, ∀ total, f total x = .ok (total + term x)) (total : β) :
    xs.foldlM f total = .ok (total + (xs.map term).sum) := by
  induction xs generalizing total with
  | nil =>
    rw [List.map_nil, List.sum_nil, add_zero]
    rfl
  | cons x xs ih =>
    obtain ⟨first, others⟩ := List.forall_mem_cons.1 step
    rw [List.foldlM_cons, first, List.map_cons, List.sum_cons, ← add_assoc]
    exact ih others _

theorem exists_mapM {f : α → Except ε β} {xs : List α} (h : ∀ x ∈ xs, ∃ y, f x = .ok y) :
    ∃ ys, xs.mapM f = .ok ys := by
  induction xs with
  | nil => exact ⟨[], rfl⟩
  | cons x xs ih =>
    rw [List.forall_mem_cons] at h
    rw [List.mapM_cons]
    exact exists_bind h.1 fun y => exists_bind (ih h.2) fun ys => ⟨y :: ys, rfl⟩

theorem mapM_eq_some {f : α → Option β} {xs : List α} {ys : List β} :
    xs.mapM f = some ys ↔ List.Forall₂ (fun x y => f x = some y) xs ys := by
  induction xs generalizing ys with
  | nil => simp [eq_comm]
  | cons x xs ih =>
    rw [List.mapM_cons, List.forall₂_cons_left_iff]
    simp only [Option.bind_eq_bind, Option.bind_eq_some_iff, Option.pure_def, Option.some.injEq, ih]
    constructor
    · rintro ⟨y, hy, ys, hys, rfl⟩
      exact ⟨y, ys, hy, hys, rfl⟩
    · rintro ⟨y, ys, hy, hys, rfl⟩
      exact ⟨y, hy, ys, hys, rfl⟩

theorem exists_mapM_some {f : α → Option β} {xs : List α} (h : ∀ x ∈ xs, ∃ y, f x = some y) :
    ∃ ys, xs.mapM f = some ys := by
  induction xs with
  | nil => exact ⟨[], rfl⟩
  | cons x xs ih =>
    rw [List.forall_mem_cons] at h
    obtain ⟨y, hy⟩ := h.1
    obtain ⟨ys, hys⟩ := ih h.2
    exact ⟨y :: ys, by rw [List.mapM_cons, hy, hys]; rfl⟩

theorem mapM_eq_some_map {f : α → Option β} {g : α → β} (h : ∀ a, f a = some (g a))
    (xs : List α) : xs.mapM f = some (xs.map g) := by
  rw [mapM_eq_some, List.forall₂_map_right_iff, List.forall₂_same]
  exact fun x _ => h x

/-- What was read of a place. -/
theorem getElem?_mapM {f : α → Option β} {xs : List α} {ys : List β} (h : xs.mapM f = some ys)
    (k : Nat) : ys[k]? = xs[k]?.bind f := by
  have related := mapM_eq_some.1 h
  clear h
  induction related generalizing k with
  | nil => rfl
  | cons first _ ih =>
    cases k with
    | zero => simp [first]
    | succ k => simpa using ih k

/-- Lists whose members are read alike are read alike. -/
theorem mapM_congr {γ : Type u} {m : Type u → Type u} [Monad m] [LawfulMonad m] {f : α → m γ}
    {g : β → m γ} {xs : List α} {ys : List β}
    (h : List.Forall₂ (fun x y => f x = g y) xs ys) : xs.mapM f = ys.mapM g := by
  induction h with
  | nil => rfl
  | cons first _ ih => rw [List.mapM_cons, List.mapM_cons, first, ih]

/-- Everything that was read came from somewhere. -/
theorem exists_of_mem_right {R : α → β → Prop} {xs : List α} {ys : List β}
    (h : List.Forall₂ R xs ys) {y : β} (hy : y ∈ ys) : ∃ x ∈ xs, R x y := by
  induction h with
  | nil => cases hy
  | cons first _ ih =>
    rcases List.mem_cons.1 hy with rfl | hy
    · exact ⟨_, List.mem_cons_self .., first⟩
    · obtain ⟨x, hx, related⟩ := ih hy
      exact ⟨x, List.mem_cons_of_mem _ hx, related⟩

theorem rel_getElem? {R : α → β → Prop} {xs : List α} {ys : List β} (h : List.Forall₂ R xs ys)
    (i : Nat) : Option.Rel R xs[i]? ys[i]? := by
  induction h generalizing i with
  | nil => exact .none
  | cons first _ ih =>
    cases i with
    | zero => exact .some first
    | succ i => simpa using ih i

/-- Two lists that are related to a third one are related to each other. -/
theorem forall₂_of_common {γ : Type u} {R : α → β → Prop} {S : α → γ → Prop} {T : β → γ → Prop}
    {xs : List α} {ys : List β} {zs : List γ} (h : List.Forall₂ R xs ys)
    (h' : List.Forall₂ S xs zs) (both : ∀ x ∈ xs, ∀ y z, R x y → S x z → T y z) :
    List.Forall₂ T ys zs := by
  induction h generalizing zs with
  | nil => cases h'; exact .nil
  | cons first _ ih =>
    cases h' with
    | cons first' rest' =>
      exact .cons (both _ (List.mem_cons_self ..) _ _ first first')
        (ih rest' fun x hx => both x (List.mem_cons_of_mem _ hx))

/-! ## Conditions -/

/-- A computation that comes down to a condition: it gives a value of some kind if the condition
holds, and a certain error if it does not. -/
structure Settles (needed : Prop) (e : ε) (P : α → Prop) (result : Except ε α) : Prop where
  value : needed → ∃ a, result = .ok a ∧ P a
  refused : ¬ needed → result = .error e

namespace Settles

variable {needed needed' : Prop} {e : ε} {P : α → Prop} {Q : β → Prop} {x : Except ε α}

theorem of_ok {a : α} (h : x = .ok a) (kind : P a) (holds : needed) : Settles needed e P x :=
  ⟨fun _ => ⟨a, h, kind⟩, fun none => absurd holds none⟩

theorem congr (h : Settles needed e P x) (same : needed ↔ needed') : Settles needed' e P x :=
  ⟨fun holds => h.value (same.2 holds), fun none => h.refused (mt same.1 none)⟩

theorem exists_ok_iff (h : Settles needed e P x) : (∃ a, x = .ok a) ↔ needed := by
  constructor
  · rintro ⟨a, ok⟩
    by_contra none
    cases ok.symm.trans (h.refused none)
  · intro holds
    obtain ⟨a, ok, -⟩ := h.value holds
    exact ⟨a, ok⟩

/-- What comes next asks for its own condition. -/
theorem bind (h : Settles needed e P x) {f : α → Except ε β}
    (next : ∀ a, P a → Settles needed' e Q (f a)) : Settles (needed ∧ needed') e Q (x >>= f) where
  value := by
    rintro ⟨holds, holds'⟩
    obtain ⟨a, rfl, kind⟩ := h.value holds
    exact (next a kind).value holds'
  refused none := by
    by_cases holds : needed
    · obtain ⟨a, rfl, kind⟩ := h.value holds
      exact (next a kind).refused fun holds' => none ⟨holds, holds'⟩
    · rw [h.refused holds]
      rfl

/-- A list asks for the conditions of all its members. -/
theorem mapM {γ : Type u} {needs : γ → Prop} {f : β → Except ε α} {zs : List γ} {ys : List β}
    (h : List.Forall₂ (fun z y => Settles (needs z) e P (f y)) zs ys) :
    Settles (∀ z ∈ zs, needs z) e (fun xs => xs.length = zs.length ∧ ∀ x ∈ xs, P x)
      (ys.mapM f) := by
  induction h with
  | nil => exact of_ok rfl ⟨rfl, by simp⟩ (by simp)
  | cons first _ ih =>
    rw [List.mapM_cons]
    refine (first.bind fun x kind => ih.bind fun xs kinds => of_ok rfl ?_ trivial).congr ?_
    · exact ⟨congrArg Nat.succ kinds.1, List.forall_mem_cons.2 ⟨kind, kinds.2⟩⟩
    · rw [List.forall_mem_cons, and_true]

end Settles

end MathProg.Fallible

namespace MathProg

variable {ε σ α β : Type}

/-! ## Operations -/

/-- Whether `post` holds of the result of an operation and of the state it leaves behind. -/
def Leaves (op : ExceptT ε (StateM σ) α) (s : σ) (post : Except ε α → σ → Prop) : Prop :=
  post (op.run.run s).1 (op.run.run s).2

namespace Leaves

variable {s : σ} {post : Except ε α → σ → Prop}

@[simp] theorem pure_iff {a : α} : Leaves (pure a) s post ↔ post (.ok a) s :=
  Iff.rfl

@[simp] theorem throw_iff {e : ε} : Leaves (throw e) s post ↔ post (.error e) s :=
  Iff.rfl

@[simp] theorem get_iff {post : Except ε σ → σ → Prop} :
    Leaves (get : ExceptT ε (StateM σ) σ) s post ↔ post (.ok s) s :=
  Iff.rfl

@[simp] theorem set_iff {t : σ} {post : Except ε PUnit → σ → Prop} :
    Leaves (set t : ExceptT ε (StateM σ) PUnit) s post ↔ post (.ok ⟨⟩) t :=
  Iff.rfl

@[simp] theorem modify_iff {f : σ → σ} {post : Except ε PUnit → σ → Prop} :
    Leaves (modify f : ExceptT ε (StateM σ) PUnit) s post ↔ post (.ok ⟨⟩) (f s) :=
  Iff.rfl

/-- What comes next starts from what the first operation leaves, unless that has failed. -/
@[simp] theorem bind_iff {op : ExceptT ε (StateM σ) α} {next : α → ExceptT ε (StateM σ) β}
    {post : Except ε β → σ → Prop} :
    Leaves (op >>= next) s post ↔
      Leaves op s (fun result t =>
        match result with
        | .ok a => Leaves (next a) t post
        | .error e => post (.error e) t) := by
  unfold Leaves
  simp only [ExceptT.run_bind, StateT.run_bind]
  rcases op.run.run s with ⟨_ | a, t⟩ <;> rfl

@[simp] theorem map_iff {op : ExceptT ε (StateM σ) α} {f : α → β}
    {post : Except ε β → σ → Prop} :
    Leaves (f <$> op) s post ↔ Leaves op s (fun result t => post (result.map f) t) := by
  unfold Leaves
  simp only [ExceptT.run_map, StateT.run_map]
  rcases op.run.run s with ⟨_ | a, t⟩ <;> rfl

theorem mono {op : ExceptT ε (StateM σ) α} {post post' : Except ε α → σ → Prop}
    (h : Leaves op s post) (weaker : ∀ result t, post result t → post' result t) :
    Leaves op s post' :=
  weaker _ _ h

/-- A relation that every step keeps is kept by a list of steps. -/
theorem mapM {R : σ → σ → Prop} (refl : ∀ s, R s s) (trans : ∀ r s t, R r s → R s t → R r t)
    {f : α → ExceptT ε (StateM σ) β} {xs : List α}
    (step : ∀ x ∈ xs, ∀ s, Leaves (f x) s (fun _ t => R s t)) (s : σ) :
    Leaves (xs.mapM f) s (fun _ t => R s t) := by
  induction xs generalizing s with
  | nil => simpa using refl s
  | cons x xs ih =>
    rw [List.mapM_cons]
    simp only [bind_iff, pure_iff]
    refine (step x (by simp) s).mono fun result t ht => ?_
    cases result with
    | error e => exact ht
    | ok y =>
      refine (ih (fun x hx => step x (List.mem_cons_of_mem _ hx)) t).mono fun result u hu => ?_
      cases result <;> exact trans _ _ _ ht hu

/-- Steps that never fail can be taken one after the other. -/
theorem mapM_ok {f : α → ExceptT ε (StateM σ) β} {xs : List α}
    (step : ∀ x ∈ xs, ∀ s, Leaves (f x) s (fun result _ => ∃ y, result = .ok y)) (s : σ) :
    Leaves (xs.mapM f) s (fun result _ => ∃ ys, result = .ok ys) := by
  induction xs generalizing s with
  | nil => exact ⟨[], rfl⟩
  | cons x xs ih =>
    rw [List.mapM_cons]
    simp only [bind_iff, pure_iff]
    refine (step x (by simp) s).mono fun result t taken => ?_
    obtain ⟨y, rfl⟩ := taken
    refine (ih (fun x hx => step x (List.mem_cons_of_mem _ hx)) t).mono fun result u rest => ?_
    obtain ⟨ys, rfl⟩ := rest
    exact ⟨y :: ys, rfl⟩

end Leaves

end MathProg
