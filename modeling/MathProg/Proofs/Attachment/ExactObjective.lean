import MathProg.Proofs.Attachment.ObjectiveValue
import MathProg.Proofs.Backend.ExactNode

/-!
# Objectives at a point

The in-memory backend evaluates the function that it holds, the algebraic one the node that it has
built for it. In exact arithmetic both find the same value at the same point, for every tree of
operators that is defined there. Real numbers with the usual functions are such an arithmetic.
-/

namespace MathProg

open Fallible

variable {N K V : Type}

/-! ## The in-memory backend -/

namespace InMemory

/-- Whether the primal values of a result are the numbers of a point. -/
def ShowsPoint (b : InMemory N K) (result : Int) (x : Int → K) : Prop :=
  ∀ v : Int, 1 ≤ v → v ≤ b.problem.variableNames.length → b.variablePrimal v result = some (x v)

variable {b : InMemory N K} {result : Int} {x : Int → K}

theorem ShowsPoint.isAt [OperatorMeaning K] (shows : b.ShowsPoint result x) {vs : List Int}
    (inside : ∀ v ∈ vs, 1 ≤ v ∧ v ≤ b.problem.variableNames.length) :
    (b.interpretation result).IsAt x vs where
  value v hv := by
    simp only [interpretation, shows v (inside v hv).1 (inside v hv).2]
  operator _ _ _ applied := mapError_eq_ok.2 applied

/-- A tree that is held as the objective is evaluated at the point. -/
theorem ShowsPoint.objectiveValue_eq [Field K] [ElementaryFunctions K]
    (shows : b.ShowsPoint result x) (tree : b.problem.objective.IsTree)
    (notNumber : b.problem.objective.family ≠ .number)
    (inside : ∀ v ∈ b.problem.objective.support, 1 ≤ v ∧ v ≤ b.problem.variableNames.length)
    (computes : b.computesObjective result) :
    b.objectiveValue result = .ok (some (b.problem.objective.numberAt x)) := by
  rw [objectiveValue_of_computes computes notNumber, tree.evaluate_eq _ (shows.isAt inside)]
  rfl

end InMemory

/-! ## The algebraic backend -/

namespace Algebraic

open CheckedArithmetic (value)

/-- Whether a result is loaded, with the numbers of a point as the values of the variables. -/
structure ShowsPoint [Numeral N K] (d : Algebraic N K V) (result : Int) (x : Int → K) : Prop where
  holds : d.holds result
  primal : ∀ v : Int, 1 ≤ v → v ≤ d.problem.vars.length →
    d.variablePrimal v result = .ok (some (x v))

/-- A shown value is the number that the variable has. -/
theorem exists_of_variablePrimal [Numeral N K] {d : Algebraic N K V} {v result : Int} {c : K}
    (holds : d.holds result) (primal : d.variablePrimal v result = .ok (some c)) :
    ∃ y n, d.problem.vars[v.toNat - 1]? = some y ∧ y.value = some n ∧
      Numeral.toCoefficient n = .ok c := by
  unfold variablePrimal at primal
  rw [holds, Bool.not_true, if_neg Bool.false_ne_true] at primal
  split at primal
  next => cases primal
  next =>
    split at primal
    next => cases primal
    next y stands =>
      cases given : y.value with
      | none =>
        rw [given] at primal
        cases primal
      | some n =>
        rw [given] at primal
        obtain ⟨_, found, same⟩ := map_eq_ok.1 primal
        obtain rfl := Option.some.inj same
        exact ⟨y, n, stands, given, mapError_eq_ok.1 found⟩

/-- How nodes are evaluated once a solution is loaded. -/
def reading [Numeral N K] [CheckedArithmetic N K V] (d : Algebraic N K V) :
    Node.Reading BackendError V :=
  ⟨ofArithmetic, d.variableValue⟩

section

variable [Field K] [ElementaryFunctions K] [FunctionDomain K] [Numeral N K]
variable [CheckedArithmetic N K V] [ExactFunctions N K V]
variable {d : Algebraic N K V} {result : Int} {x : Int → K} {n : Node V} {c : K}

theorem ShowsPoint.isRead (shows : d.ShowsPoint result x) : d.problem.IsRead d.reading x := by
  intro v low high
  obtain ⟨y, m, stands, given, number⟩ :=
    exists_of_variablePrimal shows.holds (shows.primal v low high)
  refine Node.valueIn_eq_some.2 ⟨CheckedArithmetic.ofNumber K m, ?_,
    CheckedArithmetic.value_ofNumber number⟩
  rw [Node.evaluate]
  change d.variableValue v.toNat = _
  obtain ⟨_, _, _⟩ := y
  obtain rfl := given
  rw [variableValue, stands]

theorem objectiveValue_of_valueIn (holds : d.holds result)
    (objective : d.problem.objective = some n)
    (value : n.valueIn? N d.reading = some c) : d.objectiveValue result = .ok (some c) := by
  obtain ⟨z, evaluated, rfl⟩ := Node.valueIn_eq_some.1 value
  have node : d.nodeValue n = .ok (CheckedArithmetic.value N z) := by
    unfold nodeValue
    rw [show n.evaluate N K ofArithmetic d.variableValue = .ok z from evaluated]
    exact mapError_eq_ok.2 (CheckedArithmetic.toCoefficient_eq z)
  rw [objectiveValue, if_pos holds, objective]
  change some <$> d.nodeValue n = _
  rw [node]
  rfl

theorem setObjective_of_valueIn {f : Function K} {ε : Type} {i : Node.Reading ε V}
    (built : d.problem.node f = .ok n) (value : n.valueIn? N i = some c) (sense : Sense) :
    d.setObjective sense f = ({ d with problem := { d.problem with
      maximizes := sense == Sense.maximize, objective := some n } }, .ok ()) := by
  have real : (n.isPlain && !n.isReal N K) = false := by
    cases n with
    | undefined => exact absurd rfl (Node.ne_undefined_of_valueIn value)
    | constant z => rw [Node.isReal, ExactFunctions.isReal, Bool.not_true, Bool.and_false]
    | _ => rfl
  unfold setObjective
  simp only [built, real, Bool.false_eq_true, if_false]

end

end Algebraic

/-! ## Real numbers -/

/-- Where the power of two real numbers is defined. -/
def RealPower (x y : ℝ) : Prop :=
  0 < x ∨ x = 0 ∧ 0 ≤ y ∨ x ≠ 0 ∧ ∃ n : ℤ, y = n

noncomputable instance : ElementaryFunctions ℝ where
  power x y := x ^ y
  sin := Real.sin
  cos := Real.cos
  exp := Real.exp
  log := Real.log
  sqrt := Real.sqrt
  abs x := |x|

instance : FunctionDomain ℝ where
  power := RealPower
  function op x :=
    match op with
    | .log => 0 < x
    | .sqrt => 0 ≤ x
    | _ => True

section

open Classical in
/-- The operators on real numbers. -/
noncomputable def ArithmeticOp.applyReal (op : ArithmeticOp) (x y : ℝ) :
    Except ArithmeticError ℝ :=
  match op with
  | add => .ok (x + y)
  | sub => .ok (x - y)
  | mul => .ok (x * y)
  | div => if y = 0 then .error .divisionByZero else .ok (x / y)
  | floorDiv => if y = 0 then .error .divisionByZero else .ok ⌊x / y⌋
  | mod => if y = 0 then .error .divisionByZero else .ok (x - y * ⌊x / y⌋)
  | pow => if RealPower x y then .ok (x ^ y) else .error .domain

open Classical in
/-- The functions of one real number. -/
noncomputable def Operator.callReal (op : Operator) (x : ℝ) : Except ArithmeticError ℝ :=
  match op with
  | .sin => .ok (Real.sin x)
  | .cos => .ok (Real.cos x)
  | .exp => .ok (Real.exp x)
  | .log => if 0 < x then .ok (Real.log x) else .error .domain
  | .sqrt => if 0 ≤ x then .ok (Real.sqrt x) else .error .domain
  | .abs => .ok |x|
  | _ => .error .domain

open Classical in
noncomputable instance : Numeral ℝ ℝ where
  toCoefficient := .ok
  ofCoefficient x := x
  sub x y := .ok (x - y)
  neg x := -x
  isInt x n := decide (x = n)
  le x y := decide (x ≤ y)
  square x := x * x
  triangular x := ⌊x * (x + 1) / (2 : Nat)⌋
  integer? x := if x = ⌊x⌋ then some ⌊x⌋ else none
  ofInt n := n
  kindName _ := "Real"
  text _ := ""

open Classical in
/-- Real numbers, of which there are no complex ones. -/
noncomputable instance realArithmetic : CheckedArithmetic ℝ ℝ ℝ where
  ofCoefficient c := c
  ofNumber n := n
  ofNat n := n
  ofComplex _ := 0
  parts x := .inl x
  toCoefficient := .ok
  isNat x n := decide (x = n)
  neg x := -x
  apply := ArithmeticOp.applyReal
  call := Operator.callReal
  extent _ := .finite

end

instance : ExactFunctions ℝ ℝ ℝ where
  exists_toCoefficient x := ⟨x, rfl⟩
  toCoefficient_ofCoefficient _ := rfl
  toCoefficient_ofNat _ := rfl
  isNat_iff x n := by
    change decide (x = (n : ℝ)) = true ↔ Except.ok x = Except.ok (n : ℝ)
    rw [decide_eq_true_iff, Except.ok.injEq]
  apply_add x y c d hc hd := by
    obtain rfl := Except.ok.inj hc
    obtain rfl := Except.ok.inj hd
    exact ⟨_, rfl, rfl⟩
  apply_mul x y c d hc hd := by
    obtain rfl := Except.ok.inj hc
    obtain rfl := Except.ok.inj hd
    exact ⟨_, rfl, rfl⟩
  isReal _ := rfl
  toCoefficient_ofNumber n c h := by
    obtain rfl := Except.ok.inj h
    rfl
  toCoefficient_neg x c h := by
    obtain rfl := Except.ok.inj h
    rfl
  apply_div x y c d hc hd nonzero := by
    obtain rfl := Except.ok.inj hc
    obtain rfl := Except.ok.inj hd
    exact ⟨_, if_neg nonzero, rfl⟩
  apply_pow x y c d hc hd domain := by
    obtain rfl := Except.ok.inj hc
    obtain rfl := Except.ok.inj hd
    exact ⟨_, if_pos domain, rfl⟩
  power_one c _ := Real.rpow_one c
  call op x c d unary allowed hc applied := by
    obtain rfl := Except.ok.inj hc
    refine ⟨d, ?_, rfl⟩
    cases op with
    | sum | minus | product | quotient | power => cases unary
    | sin | cos | exp | abs => exact congrArg Except.ok (Except.ok.inj applied)
    | log | sqrt => exact (if_pos allowed).trans (congrArg Except.ok (Except.ok.inj applied))

/-! ## The objective value -/

section

variable [Field K] [ElementaryFunctions K] [FunctionDomain K] [Numeral N K]
variable [CheckedArithmetic N K V] [ExactFunctions N K V]

/-- In exact arithmetic a tree of operators has one value at a point where it is defined, and both
backends find it. Every algebraic model with its variables has a node for it, which has that value
at the point and is taken as the objective; with the point loaded it is the objective value. An
in-memory backend that computes the objective at the point finds the same. -/
theorem Function.objectives_agree {f : Function K} (tree : f.IsTree) {x : Int → K}
    (defined : f.IsDefinedAt x) :
    ∃ c, f.evaluate (.ofPoint x) = .ok (.scalar c) ∧
      (∀ d : Algebraic N K V, (∀ v ∈ f.support, 1 ≤ v ∧ v ≤ d.problem.vars.length) →
        ∃ n, d.problem.node f = .ok n ∧ n.valueAt? N (fun v => x v) = some c ∧
          (∀ sense, ∃ e, d.setObjective sense f = (e, .ok ()) ∧ e.problem.objective = some n) ∧
          ∀ e : Algebraic N K V, e.problem.objective = some n →
            d.problem.vars.length ≤ e.problem.vars.length →
            ∀ result, e.ShowsPoint result x → e.objectiveValue result = .ok (some c)) ∧
      (f.family ≠ .number → ∀ b : InMemory N K, b.problem.objective = f →
        (∀ v ∈ f.support, 1 ≤ v ∧ v ≤ b.problem.variableNames.length) →
        ∀ result, b.computesObjective result → b.ShowsPoint result x →
          b.objectiveValue result = .ok (some c)) := by
  refine ⟨f.numberAt x, tree.evaluate_eq _ (Interpretation.isAt_ofPoint x _), fun d there => ?_,
    ?_⟩
  · have reads : d.problem.IsRead (.point N fun v => x v) x := fun v low _ => by
      rw [Node.valueIn_var_point, Int.toNat_of_nonneg (by omega)]
    obtain ⟨n, built, value⟩ := Algebraic.Problem.builds_node tree defined there reads
    refine ⟨n, built, value, fun sense => ⟨_, Algebraic.setObjective_of_valueIn built value sense,
      rfl⟩, fun e objective more result shows => ?_⟩
    -- the node is the same under the values that are loaded
    have loaded : d.problem.IsRead e.reading x := fun v low high =>
      shows.isRead v low (by omega)
    obtain ⟨m, built', value⟩ := Algebraic.Problem.builds_node tree defined there loaded
    obtain rfl : n = m := Except.ok.inj (built.symm.trans built')
    exact Algebraic.objectiveValue_of_valueIn shows.holds objective value
  · rintro notNumber b rfl inside result computes shows
    exact shows.objectiveValue_eq tree notNumber inside computes

end

/-! ### A quotient of real numbers -/

/-- The logarithm of the first variable over the second one. -/
def logarithmOverSecond : Function ℝ :=
  .nonlinear "/" [.nonlinear "log" [.var 1], .var 2]

/-- Two variables with values. -/
noncomputable def loadedModel (a b : ℝ) : Algebraic ℝ ℝ ℝ where
  settings := ⟨"ipopt", none, [], false⟩
  problem := ⟨[⟨some "x", .reals, some a⟩, ⟨some "y", .reals, some b⟩], [], [], 1, false, none⟩
  duals := none
  outcome := ⟨.optimal, none, true, none⟩

/-- The same, with the quotient as the objective. -/
noncomputable def heldModel (a b : ℝ) : InMemory ℝ ℝ where
  settings := .standard
  solveCount := 1
  clearCount := 0
  problem := ⟨[some "x", some "y"], [], .minimize, logarithmOverSecond, 1⟩
  solution := { InMemory.Solution.empty with
    resultCount := 1
    primal := [((1, 1), a), ((1, 2), b)] }

/-- At 2 and 3 both find the logarithm of 2 over 3. -/
theorem Function.objectives_agree_logarithm :
    ((loadedModel 2 3).setObjective .minimize logarithmOverSecond).1.objectiveValue 1 =
        .ok (some (Real.log 2 / 3)) ∧
      (heldModel 2 3).objectiveValue 1 = .ok (some (Real.log 2 / 3)) := by
  let x : Int → ℝ := fun v => if v = 1 then 2 else 3
  have leaf (v : Int) : (var v : Function ℝ).IsTree := .scalar List.mem_cons_self
  have quotient : Operator.ofHead? "/" = some .quotient := rfl
  have log : Operator.ofHead? "log" = some .log := rfl
  have tree : logarithmOverSecond.IsTree := by
    refine .nonlinear quotient rfl ?_
    simp only [List.forall_mem_cons]
    exact ⟨.nonlinear log rfl (by simpa using leaf 1), leaf 2, nofun⟩
  have defined : logarithmOverSecond.IsDefinedAt x := by
    refine .nonlinear quotient (three_ne_zero : (3 : ℝ) ≠ 0) ?_
    simp only [List.forall_mem_cons]
    refine ⟨.nonlinear log (two_pos : (0 : ℝ) < 2) ?_, .leaf nofun, nofun⟩
    simpa using .leaf nofun
  obtain ⟨c, value, algebraic, inMemory⟩ :=
    objectives_agree (N := ℝ) (V := ℝ) tree defined
  have two (v : Int) (low : 1 ≤ v) (high : v ≤ (2 : Nat)) : v = 1 ∨ v = 2 := by omega
  have inside : ∀ v ∈ logarithmOverSecond.support, 1 ≤ v ∧ v ≤ (2 : Nat) := by
    intro v hv
    obtain rfl | rfl : v = 1 ∨ v = 2 := List.mem_pair.1 hv
    all_goals decide
  obtain rfl : Real.log 2 / 3 = c := by
    have known : logarithmOverSecond.evaluate (.ofPoint x) = .ok (.scalar (Real.log 2 / 3)) := rfl
    exact Shaped.scalar.inj (Except.ok.inj (known.symm.trans value))
  obtain ⟨n, built, shown, set, loaded⟩ := algebraic (loadedModel 2 3) inside
  obtain ⟨e, same, objective⟩ := set .minimize
  refine ⟨?_, inMemory nofun (heldModel 2 3) rfl inside 1 rfl fun v low high => ?_⟩
  · rw [same]
    rw [Algebraic.setObjective_of_valueIn (i := .point ℝ fun v => x v) built shown] at same
    obtain ⟨rfl, -⟩ := Prod.mk.inj same
    refine loaded _ objective le_rfl 1 ⟨rfl, fun v low high => ?_⟩
    obtain rfl | rfl := two v low high <;> rfl
  · obtain rfl | rfl := two v low high <;> rfl

end MathProg
