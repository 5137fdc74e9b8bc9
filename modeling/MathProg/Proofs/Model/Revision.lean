import MathProg.Proofs.Model.Invariant

/-!
# The revision of a model

The revision tells when a model has changed. It never falls, and whatever changes anything in a
model raises it, be it the part of a call that was done before the call failed. Between calls, two
moments of the same revision therefore see the same model, with the same representation.
-/

namespace MathProg

variable {N K : Type} [Zero K] [One K] [Add K] [Mul K] [Neg K] [BEq K] [Numeral N K]

namespace Model

omit [Zero K] [One K] [Add K] [Mul K] [Neg K] [BEq K] [Numeral N K] in
/-- Between two models of which one comes from the other, the revision decides. -/
theorem Steps.revision_eq_iff {m t : Model N K} (h : m.Steps t) :
    m.revision = t.revision ↔ m = t := by
  constructor
  · intro same
    rcases h.raises with rfl | later
    · rfl
    · exact absurd same (Nat.ne_of_lt later)
  · rintro rfl
    rfl

omit [Zero K] [One K] [Add K] [Mul K] [Neg K] [BEq K] [Numeral N K] in
/-- A change raises the revision. -/
theorem Steps.revision_lt {m t : Model N K} (h : m.Steps t) (changed : t ≠ m) :
    m.revision < t.revision :=
  h.raises.resolve_left changed

end Model

namespace ModelCall

/-- What a call does, a whole run does. -/
theorem steps_afterAll (calls : List (ModelCall N K)) (m : Model N K) :
    m.Steps (afterAll calls m) := by
  induction calls generalizing m with
  | nil => exact .refl m
  | cons call calls ih => exact (call.steps m).trans (ih (call.after m))

/-- The model after the first `k` calls of a run. -/
def moment (calls : List (ModelCall N K)) (m : Model N K) (k : Nat) : Model N K :=
  afterAll (calls.take k) m

/-- A later moment comes from an earlier one by the calls between them. -/
theorem moment_of_le (calls : List (ModelCall N K)) (m : Model N K) {i j : Nat} (le : i ≤ j) :
    moment calls m j = afterAll ((calls.take j).drop i) (moment calls m i) := by
  have first : calls.take i = (calls.take j).take i := by
    rw [List.take_take, Nat.min_eq_left le]
  unfold moment afterAll
  rw [first, ← List.foldl_append, List.take_append_drop]

theorem moment_succ (calls : List (ModelCall N K)) (m : Model N K) {k : Nat}
    (inside : k < calls.length) : moment calls m (k + 1) = calls[k].after (moment calls m k) := by
  unfold moment afterAll
  rw [List.take_succ_eq_append_getElem inside, List.foldl_append]
  rfl

theorem steps_moment (calls : List (ModelCall N K)) (m : Model N K) {i j : Nat} (le : i ≤ j) :
    (moment calls m i).Steps (moment calls m j) := by
  rw [moment_of_le calls m le]
  exact steps_afterAll _ _

/-- The revision identifies the content of a model. Along every run of calls, of which each may
succeed or fail, it never falls; a call that leaves anything different behind leaves a larger
revision; and two moments have the same revision exactly if they see the same model. -/
theorem revision_identifies (calls : List (ModelCall N K)) (m : Model N K) :
    (∀ i j, i ≤ j → (moment calls m i).revision ≤ (moment calls m j).revision) ∧
    (∀ k (inside : k < calls.length),
      moment calls m (k + 1) = calls[k].after (moment calls m k) ∧
      (moment calls m (k + 1) ≠ moment calls m k →
        (moment calls m k).revision < (moment calls m (k + 1)).revision)) ∧
    ∀ i j, ((moment calls m i).revision = (moment calls m j).revision ↔
        moment calls m i = moment calls m j) ∧
      ((moment calls m i).revision = (moment calls m j).revision →
        (moment calls m i).represent = (moment calls m j).represent) := by
  have decides : ∀ i j, (moment calls m i).revision = (moment calls m j).revision ↔
      moment calls m i = moment calls m j := by
    intro i j
    rcases Nat.le_total i j with le | le
    · exact (steps_moment calls m le).revision_eq_iff
    · have back := (steps_moment calls m le).revision_eq_iff
      rw [eq_comm, back, eq_comm]
  refine ⟨fun i j le => (steps_moment calls m le).follows.revision, fun k inside => ?_,
    fun i j => ⟨decides i j, fun same => ?_⟩⟩
  · exact ⟨moment_succ calls m inside, (steps_moment calls m (Nat.le_succ k)).revision_lt⟩
  · rw [(decides i j).1 same]

/-- A variable whose bound is too large and therefore missing, a constraint on a variable of another
model, and a name. -/
def haltingCalls : List (ModelCall Number Float) :=
  [.addVariable ⟨some "x", none, some (.integer (10 ^ 400)), none, false, false⟩,
    .addConstraint (.expression (.var ⟨7, 0⟩)) .integer none,
    .setName (.expression (.var ⟨0, 0⟩)) (some "y")]

/-- The call that has failed halfway raises the revision, and the one that has changed nothing does
not. -/
theorem revision_identifies_haltingCalls :
    let at' := moment haltingCalls (.empty 0 none)
    (at' 0).revision < (at' 1).revision ∧ at' 1 = at' 2 ∧
      (at' 1).represent = (at' 2).represent ∧ (at' 2).revision ≤ (at' 3).revision := by
  intro at'
  obtain ⟨mono, raises, decides⟩ := revision_identifies haltingCalls (.empty 0 none)
  have added : (at' 1).vars.length = 1 := by decide +kernel
  have same : (at' 1).revision = (at' 2).revision := by decide +kernel
  refine ⟨(raises 0 (by decide)).2 fun unchanged => ?_, (decides 1 2).1.1 same,
    (decides 1 2).2 same, mono 2 3 (by decide)⟩
  have none : (at' 0).vars.length = 0 := rfl
  rw [show at' 1 = at' 0 from unchanged, none] at added
  cases added

end ModelCall

end MathProg
