import MathProg.Proofs.Attachment.Problem
import MathProg.Proofs.Backend.Folding
import MathProg.Proofs.Backend.Load
import MathProg.Proofs.Backend.NodeValue

/-!
# Functions that an algebraic model takes

A scalar function has a node. An operator has one unless a part of it without variables does: such a
part is computed at once, and must have a real value.
-/

namespace MathProg

open Fallible

namespace Function

variable {K : Type}

/-- Whether every operator in the function has an argument. -/
inductive HasOperands : Function K → Prop where
  | leaf {f : Function K} (other : f.family ≠ .nonlinear) : HasOperands f
  | nonlinear {head : String} {args : List (Function K)} (some : args ≠ [])
      (all : ∀ a ∈ args, a.HasOperands) : HasOperands (.nonlinear head args)

theorem HasOperands.args {head : String} {args : List (Function K)}
    (h : (Function.nonlinear head args).HasOperands) : args ≠ [] ∧ ∀ a ∈ args, a.HasOperands := by
  cases h with
  | leaf other => exact absurd rfl other
  | nonlinear some all => exact ⟨some, all⟩

/-- Whether the function has no variables, and an algebraic model computes the number from it. -/
def FoldsTo (f : Function Float) (c : Quantity) : Prop :=
  f.support = [] ∧
    (Algebraic.Problem.empty : Algebraic.Problem Number Quantity).node f = .ok (.constant c)

/-- Whether an algebraic model can express the function: a scalar function, a number that is real,
or a known operator on fitting arguments of which some has a variable, and which does not divide by
zero. -/
inductive IsExpressible : Function Float → Prop where
  | scalar {f : Function Float} (family : f.family ∈ Algebraic.scalarFamilies) : IsExpressible f
  | number {f : Function Float} {c : Quantity} (folds : f.FoldsTo c) (real : c.isReal = true) :
      IsExpressible f
  | nonlinear {head : String} {args : List (Function Float)} {op : Operator}
      (known : Operator.ofHead? head = some op) (takes : op.takes args.length = true)
      (mixed : supportAll args ≠ []) (all : ∀ a ∈ args, a.IsExpressible)
      (nonzero : op = .quotient → ∀ b, args[1]? = some b → ∀ c, b.FoldsTo c → c.isNat 0 = false) :
      IsExpressible (.nonlinear head args)

end Function

namespace Algebraic

variable {p q : Problem Number Quantity} {f : Function Float} {a : Node Quantity}

/-- Whether all variables of the function are in the problem. -/
def Problem.Covers (p : Problem Number Quantity) (f : Function Float) : Prop :=
  ∀ v ∈ f.support, 1 ≤ v ∧ v ≤ p.vars.length

theorem Problem.Covers.arg {head : String} {args : List (Function Float)}
    (h : p.Covers (.nonlinear head args)) {f : Function Float} (mem : f ∈ args) : p.Covers f :=
  fun v used => h v (Function.mem_supportAll mem used)

/-! ## Scalar functions -/

theorem exists_addAll {args : List (Node Quantity)} (operands : ∀ a ∈ args, a.IsOperand)
    (mixed : ∀ a ∈ args, a.isPlain = false) :
    ∃ c, Node.addAll Number Float args = .ok c ∧ c.IsOperand ∧ c.isPlain = args.isEmpty := by
  have floats : ∀ a ∈ args, a.isInteger = false := fun a mem =>
    Node.isInteger_of_not_plain (mixed a mem)
  obtain ⟨c, added, operand⟩ := Node.completes_foldlM
    (fun a b ha hb float => Node.completes_add ha hb (.inr float)) operands floats
    (a := Node.number Number Float 0) (Quantity.IsCoefficient.sign 0 (by decide))
  refine ⟨c, added, operand, ?_⟩
  rw [(Node.outcome_foldlM (fun _ _ _ => Node.combines_add) added).isPlain]
  cases args with
  | nil => rfl
  | cons a args => simp [mixed a (by simp)]

theorem Problem.exists_termNode {v : Int} (there : 1 ≤ v ∧ v ≤ p.vars.length) (c : Float) :
    ∃ b, (do
      let x ← p.variableNode v
      (Node.mul Number Float (fromCoefficient (N := Number) c) x).mapError ofArithmetic) = .ok b ∧
      b.IsOperand ∧ b.isPlain = false := by
  have found : p.variableNode v = .ok (.var v.toNat) := if_pos there
  obtain ⟨b, scaled, operand⟩ := Node.completes_mul (a := fromCoefficient (N := Number) c)
    (b := .var v.toNat) (.real c) trivial
  exact ⟨b, bind_eq_ok.2 ⟨_, found, mapError_eq_ok.2 scaled⟩, operand,
    (Node.combines_mul scaled).isPlain⟩

/-- The sum of terms that are each written has variables unless there are none. -/
theorem exists_sum {α : Type} (terms : List α) {node : α → Except BackendError (Node Quantity)}
    (each : ∀ t ∈ terms, ∃ b, node t = .ok b ∧ b.IsOperand ∧ b.isPlain = false) :
    ∃ c, (do
      let nodes ← terms.mapM node
      (Node.addAll Number Float nodes).mapError ofArithmetic) = .ok c ∧
      c.IsOperand ∧ c.isPlain = terms.isEmpty ∧
      (c.isPlain = true → c = Node.number Number Float 0) := by
  obtain ⟨nodes, built⟩ := exists_mapM fun t mem => (each t mem).imp fun _ h => h.1
  have related := mapM_eq_ok.1 built
  have known : ∀ b ∈ nodes, b.IsOperand ∧ b.isPlain = false := by
    intro b mem
    obtain ⟨t, inside, same⟩ := exists_of_mem_right related mem
    obtain ⟨b', same', known⟩ := each t inside
    cases same.symm.trans same'
    exact known
  obtain ⟨c, added, operand, isPlain⟩ := exists_addAll (fun b mem => (known b mem).1)
    fun b mem => (known b mem).2
  refine ⟨c, bind_eq_ok.2 ⟨nodes, built, mapError_eq_ok.2 added⟩, operand, ?_, fun plain => ?_⟩
  · rw [isPlain]
    cases related <;> rfl
  · rw [isPlain, List.isEmpty_iff] at plain
    subst plain
    exact (Except.ok.inj added).symm

theorem Problem.exists_pairNode {v w : Int} (left : 1 ≤ v ∧ v ≤ p.vars.length)
    (right : 1 ≤ w ∧ w ≤ p.vars.length) (c : Float) :
    ∃ b, (do
      let x ← p.variableNode v
      let scaled ← (Node.mul Number Float (fromCoefficient (N := Number) c) x).mapError ofArithmetic
      let y ← p.variableNode w
      (Node.mul Number Float scaled y).mapError ofArithmetic) = .ok b ∧
      b.IsOperand ∧ b.isPlain = false := by
  obtain ⟨b, scaled, operand, mixed⟩ := p.exists_termNode left c
  have found : p.variableNode w = .ok (.var w.toNat) := if_pos right
  obtain ⟨d, multiplied, operand⟩ := Node.completes_mul (b := .var w.toNat) operand trivial
  obtain ⟨x, first, scaled⟩ := bind_eq_ok.1 scaled
  refine ⟨d, bind_eq_ok.2 ⟨x, first, bind_eq_ok.2 ⟨b, scaled, bind_eq_ok.2 ⟨_, found,
    mapError_eq_ok.2 multiplied⟩⟩⟩, operand, ?_⟩
  rw [(Node.combines_mul multiplied).isPlain, mixed]
  rfl

/-- A sum with a constant is no integer. -/
theorem exists_addConstant (operand : a.IsOperand) (c : Float) :
    ∃ b, Node.add Number Float a (fromCoefficient (N := Number) c) = .ok b ∧ b.IsOperand ∧
      b.isInteger = false ∧ b.isPlain = a.isPlain := by
  obtain ⟨b, added, known⟩ := Node.completes_add (b := fromCoefficient (N := Number) c) operand
    (.real c) (.inr rfl)
  have sum := Node.combines_add added
  refine ⟨b, added, known, ?_, ?_⟩
  · by_contra integer
    exact Bool.false_ne_true (sum.isInteger (by simpa using integer)).2
  · rw [sum.isPlain]
    exact Bool.and_true _

/-- A scalar function has a node, which is a number only if no variable is left. -/
theorem Problem.exists_scalarNode (covers : p.Covers f) (scalar : f.family ∈ scalarFamilies) :
    ∃ a, p.node f = .ok a ∧ a.IsOperand ∧ a.isInteger = false ∧
      a.isPlain = f.support.isEmpty := by
  cases f with
  | var v => exact ⟨.var v.toNat, if_pos (covers v (by simp [Function.support])), trivial, rfl, rfl⟩
  | affine f =>
    obtain ⟨terms, built, operand, isPlain, -⟩ := exists_sum f.terms
      fun t mem => p.exists_termNode (covers t.1 (List.mem_map_of_mem mem)) t.2
    obtain ⟨a, added, known, float, same⟩ := exists_addConstant operand f.constant
    refine ⟨a, bind_eq_ok.2 ⟨terms, built, mapError_eq_ok.2 added⟩, known, float, ?_⟩
    simp [same, isPlain, Function.support]
  | quadratic f =>
    have inside (t : VariablePair × Float) (mem : t ∈ f.pairs) :
        ∀ v ∈ [t.1.first, t.1.second], 1 ≤ v ∧ v ≤ p.vars.length := fun v used =>
      covers v (List.mem_append_left _ (List.mem_flatMap.2 ⟨t, mem, used⟩))
    obtain ⟨pairs, products, left, leftPlain, leftNumber⟩ := exists_sum f.pairs
      fun t mem => p.exists_pairNode (inside t mem t.1.first (by simp))
        (inside t mem t.1.second (by simp)) t.2
    obtain ⟨terms, built, right, rightPlain, rightNumber⟩ := exists_sum f.terms
      fun t mem => p.exists_termNode
        (covers t.1 (List.mem_append_right _ (List.mem_map_of_mem mem))) t.2
    have sum : ∃ b, Node.add Number Float pairs terms = .ok b ∧ b.IsOperand := by
      by_cases both : (pairs.isPlain && terms.isPlain) = true
      · -- two sums without a member are two integers
        obtain ⟨first, second⟩ := Bool.and_eq_true_iff.1 both
        rw [leftNumber first, rightNumber second]
        exact ⟨_, rfl, .sign 0 (by decide)⟩
      · refine Node.completes_add left right ?_
        rw [Bool.not_eq_true, Bool.and_eq_false_iff] at both
        exact both.imp Node.isInteger_of_not_plain Node.isInteger_of_not_plain
    obtain ⟨b, summed, operand⟩ := sum
    obtain ⟨a, added, known, float, same⟩ := exists_addConstant operand f.constant
    refine ⟨a, bind_eq_ok.2 ⟨pairs, products, bind_eq_ok.2 ⟨terms, built, bind_eq_ok.2 ⟨b,
      mapError_eq_ok.2 summed, mapError_eq_ok.2 added⟩⟩⟩, known, float, ?_⟩
    rw [same, (Node.combines_add summed).isPlain, leftPlain, rightPlain, Function.support]
    cases f.pairs <;> cases f.terms <;> rfl
  | _ => simp [Function.family, scalarFamilies] at scalar

/-! ## All functions -/

theorem Problem.node_nonlinear_eq_ok {head : String} {args : List (Function Float)}
    (h : p.node (.nonlinear head args) = .ok a) :
    ∃ op nodes, Operator.ofHead? head = some op ∧
      List.Forall₂ (fun f b => p.node f = .ok b) args nodes ∧
      operatorNode (N := Number) (K := Float) op nodes = .ok a := by
  unfold node at h
  split at h
  next => cases h
  next op known =>
    obtain ⟨nodes, built, h⟩ := bind_eq_ok.1 h
    rw [nodes_eq_mapM] at built
    exact ⟨op, nodes, known, mapM_eq_ok.1 built, h⟩

/-- The node of a function without variables needs none. -/
theorem Problem.node_of_closed (closed : f.support = []) : p.node f = q.node f := by
  induction f using Function.induction_args with
  | leaf f other =>
    cases f with
    | var v => cases closed
    | affine f =>
      have none : f.terms = [] := List.map_eq_nil_iff.1 closed
      simp only [node, termsNode, none, List.mapM_nil]
    | quadratic f =>
      obtain ⟨pairs, terms⟩ := List.append_eq_nil_iff.1 closed
      have none : f.terms = [] := List.map_eq_nil_iff.1 terms
      have noPairs : f.pairs = [] := by
        rw [List.flatMap_eq_nil_iff] at pairs
        exact List.eq_nil_iff_forall_not_mem.2 fun t mem => by cases pairs t mem
      simp only [node, pairsNode, termsNode, none, noPairs, List.mapM_nil]
    | nonlinear head args => exact absurd rfl other
    | _ => rfl
  | nonlinear head args ih =>
    have each := Function.supportAll_eq_nil.1 closed
    have same : p.nodes args = q.nodes args := by
      rw [nodes_eq_mapM, nodes_eq_mapM]
      exact mapM_congr (List.forall₂_same.2 fun a mem => ih a mem (each a mem))
    simp only [node, same]

theorem Problem.leafNode (covers : p.Covers f) (other : f.family ≠ .nonlinear)
    (built : p.node f = .ok a) : a.isInteger = false ∧ a.isPlain = f.support.isEmpty := by
  by_cases scalar : f.family ∈ scalarFamilies
  · obtain ⟨b, same, -, known⟩ := exists_scalarNode covers scalar
    cases built.symm.trans same
    exact known
  · cases f with
    | number c =>
      obtain rfl := Except.ok.inj built
      exact ⟨rfl, rfl⟩
    | vars vs => cases built
    | rows fs => cases built
    | nonlinear head args => exact absurd rfl other
    | _ => simp [Function.family, scalarFamilies] at scalar

/-- If each node is a number exactly if its function has no variables, so is all of them. -/
theorem all_isPlain {args : List (Function Float)} {nodes : List (Node Quantity)}
    (each : List.Forall₂ (fun f b => b.isPlain = f.support.isEmpty) args nodes) :
    nodes.all Node.isPlain = (Function.supportAll args).isEmpty := by
  induction each with
  | nil => rfl
  | cons first _ rest =>
    rw [List.all_cons, first, rest, Function.supportAll, Bool.eq_iff_iff, Bool.and_eq_true]
    simp only [List.isEmpty_iff, List.append_eq_nil_iff]

/-- A function has a node that is a number exactly if it has no variables. -/
theorem Problem.isPlain_of_node (covers : p.Covers f) (built : p.node f = .ok a) :
    a.isPlain = f.support.isEmpty := by
  induction f using Function.induction_args generalizing a with
  | leaf f other => exact (leafNode covers other built).2
  | nonlinear head args ih =>
    obtain ⟨op, nodes, known, related, h⟩ := node_nonlinear_eq_ok built
    rw [(operatorNode_eq_ok h).2.1.isPlain, Function.support]
    exact all_isPlain (((List.forall₂_and_left _ _).2 ⟨fun f mem => mem, related⟩).imp
      fun f b h => ih f h.1 (covers.arg h.1) h.2)

/-- A node is no integer, unless an empty sum or product is. -/
theorem Problem.isInteger_of_node (operands : f.HasOperands) (covers : p.Covers f)
    (built : p.node f = .ok a) : a.isInteger = false := by
  induction operands generalizing a with
  | leaf other => exact (leafNode covers other built).1
  | @nonlinear head args some all ih =>
    obtain ⟨op, nodes, known, related, h⟩ := node_nonlinear_eq_ok built
    by_contra integer
    have integers := (operatorNode_eq_ok h).2.1.isInteger (by simpa using integer)
    cases related with
    | nil => exact some rfl
    | cons first rest =>
      next f b fs bs =>
      have float := ih f (by simp) (covers.arg (by simp)) first
      exact Bool.false_ne_true (float.symm.trans (integers b (by simp)))

theorem Problem.foldsTo_of_node {c : Quantity} (covers : p.Covers f)
    (built : p.node f = .ok (.constant c)) : f.FoldsTo c := by
  have closed : f.support = [] := List.isEmpty_iff.1 (isPlain_of_node covers built).symm
  exact ⟨closed, (node_of_closed closed).trans built⟩

/-- What has a node is expressible, unless it is a number that is not real. -/
theorem Problem.isExpressible_of_node (covers : p.Covers f) (built : p.node f = .ok a)
    (settled : a.IsSettled) : f.IsExpressible := by
  induction f using Function.induction_args generalizing a with
  | leaf f other =>
    cases f with
    | number c =>
      obtain rfl := Except.ok.inj built
      exact .number (c := .number (.real c)) ⟨rfl, rfl⟩ rfl
    | vars vs => cases built
    | rows fs => cases built
    | nonlinear head args => exact absurd rfl other
    | _ => exact .scalar (by simp [Function.family, scalarFamilies])
  | nonlinear head args ih =>
    -- without variables the whole is one number, and the parts need not be real
    cases plain : a.isPlain with
    | true =>
      have real := settled plain
      cases a with
      | constant c => exact .number (foldsTo_of_node covers built) real
      | undefined => cases real
      | _ => cases plain
    | false =>
      obtain ⟨op, nodes, known, related, h⟩ := node_nonlinear_eq_ok built
      obtain ⟨takes, outcome, nonzero⟩ := operatorNode_eq_ok h
      refine .nonlinear known (related.length_eq ▸ takes) ?_ (fun f mem => ?_) ?_
      · intro none
        have empty := isPlain_of_node covers built
        rw [Function.support, none, plain] at empty
        cases empty
      · obtain ⟨b, inside, node⟩ := exists_of_mem_right related.flip mem
        exact ih f mem (covers.arg mem) node (outcome.settled plain b inside)
      · intro division f second c folds
        have pair := rel_getElem? related 1
        rw [second] at pair
        generalize last : nodes[1]? = b at pair
        obtain ⟨node⟩ := pair
        cases node.symm.trans ((node_of_closed folds.1).trans folds.2)
        exact nonzero division plain c last

/-- What is expressible has a node, unless a sum or a product is empty. -/
theorem Problem.exists_node (covers : p.Covers f) (operands : f.HasOperands)
    (expressible : f.IsExpressible) : ∃ a, p.node f = .ok a ∧ a.IsOperand := by
  induction expressible with
  | scalar family =>
    obtain ⟨a, built, operand, -⟩ := exists_scalarNode covers family
    exact ⟨a, built, operand⟩
  | @number f c folds real =>
    have built : p.node f = .ok (.constant c) := (node_of_closed folds.1).trans folds.2
    have float : c.isInteger = false := isInteger_of_node operands covers built
    refine ⟨_, built, ?_⟩
    -- an integer could be too large for a float
    match c with
    | .complex z => cases real
    | .number (.integer k) => cases float
    | .number (.real x) => exact .real x
  | @nonlinear head args op known takes mixed all nonzero ih =>
    obtain ⟨nodes, built⟩ := exists_mapM fun f mem =>
      (ih f mem (covers.arg mem) (operands.args.2 f mem)).imp fun _ h => h.1
    have related := mapM_eq_ok.1 built
    have each : ∀ b ∈ nodes, b.IsOperand ∧ b.isInteger = false := by
      intro b inside
      obtain ⟨f, mem, node⟩ := exists_of_mem_right related inside
      obtain ⟨b', same, operand⟩ := ih f mem (covers.arg mem) (operands.args.2 f mem)
      cases node.symm.trans same
      exact ⟨operand, isInteger_of_node (operands.args.2 f mem) (covers.arg mem) node⟩
    have mixed' : nodes.all Node.isPlain = false := by
      rw [all_isPlain (((List.forall₂_and_left _ _).2 ⟨fun f mem => mem, related⟩).imp
        fun f b h => isPlain_of_node (covers.arg h.1) h.2)]
      simpa using mixed
    have divisor : op = .quotient → ∀ x, nodes[1]? = some (.constant x) → x.isNat 0 = false := by
      intro division x second
      have pair := rel_getElem? related 1
      rw [second] at pair
      generalize last : args[1]? = f at pair
      obtain ⟨node⟩ := pair
      next f =>
      have mem : f ∈ args := List.mem_of_getElem? last
      exact nonzero division f last x (foldsTo_of_node (covers.arg mem) node)
    obtain ⟨a, h, operand⟩ := exists_operatorNode (related.length_eq ▸ takes)
      (fun b mem => (each b mem).1) (fun b mem => (each b mem).2) mixed' divisor
    refine ⟨a, ?_, operand⟩
    simp only [node, known, nodes_eq_mapM, built]
    exact h

end Algebraic

/-! ## Numbers for positions -/

namespace Function

variable {K : Type} [Zero K] [Add K] [BEq K] [ZeroStart K] {φ ψ : Int → Int}

theorem Renames.hasOperands {f : Function K} (h : f.Renames φ ψ) (operands : f.HasOperands) :
    (f.mapVariables φ).HasOperands := by
  induction operands with
  | leaf other => exact .leaf (h.family_eq ▸ other)
  | nonlinear some all ih =>
    rw [mapVariables, mapAllVariables_eq_map]
    refine .nonlinear (by simpa using some) fun b mem => ?_
    obtain ⟨a, inside, rfl⟩ := List.mem_map.1 mem
    exact ih a inside (h.arg inside)

variable {f : Function Float}

theorem Renames.foldsTo_iff (h : f.Renames φ ψ) {c : Quantity} :
    (f.mapVariables φ).FoldsTo c ↔ f.FoldsTo c := by
  unfold FoldsTo
  rw [h.support_eq_nil]
  refine and_congr_right fun closed => ?_
  rw [mapVariables_of_closed h.canonical closed]

theorem isExpressible_nonlinear_iff {head : String} {args : List (Function Float)} :
    (nonlinear head args).IsExpressible ↔
      (∃ c, (nonlinear head args).FoldsTo c ∧ c.isReal = true) ∨
      (supportAll args ≠ [] ∧ (∀ a ∈ args, a.IsExpressible) ∧
        ∃ op, Operator.ofHead? head = some op ∧ op.takes args.length = true ∧
          (op = .quotient → ∀ b, args[1]? = some b → ∀ c, b.FoldsTo c → c.isNat 0 = false)) := by
  constructor
  · intro h
    cases h with
    | scalar scalar => simp [Function.family, Algebraic.scalarFamilies] at scalar
    | number folds real => exact .inl ⟨_, folds, real⟩
    | nonlinear known takes mixed all nonzero =>
      exact .inr ⟨mixed, all, _, known, takes, nonzero⟩
  · rintro (⟨c, folds, real⟩ | ⟨mixed, all, op, known, takes, nonzero⟩)
    · exact .number folds real
    · exact .nonlinear known takes mixed all nonzero

theorem isExpressible_leaf_iff (other : f.family ≠ .nonlinear) :
    f.IsExpressible ↔ f.family ∈ Algebraic.scalarFamilies ∨ ∃ c, f.FoldsTo c ∧ c.isReal = true := by
  constructor
  · intro h
    cases h with
    | scalar family => exact .inl family
    | number folds real => exact .inr ⟨_, folds, real⟩
    | nonlinear => exact absurd rfl other
  · rintro (family | ⟨c, folds, real⟩)
    · exact .scalar family
    · exact .number folds real

/-- Whether a function is expressible does not depend on how its variables are numbered. -/
theorem Renames.isExpressible_iff (h : f.Renames φ ψ) :
    (f.mapVariables φ).IsExpressible ↔ f.IsExpressible := by
  induction f using induction_args with
  | leaf f other =>
    rw [isExpressible_leaf_iff other, isExpressible_leaf_iff (h.family_eq ▸ other), h.family_eq]
    simp only [h.foldsTo_iff]
  | nonlinear head args ih =>
    have folds (c : Quantity) := h.foldsTo_iff (c := c)
    have closed := h.support_eq_nil
    rw [mapVariables, mapAllVariables_eq_map] at folds closed ⊢
    have second (P : Function Float → Prop) :
        (∀ b, (args.map (mapVariables φ))[1]? = some b → P b) ↔
          ∀ b, args[1]? = some b → P (b.mapVariables φ) := by
      simp
    have divisors : (∀ b, (args.map (mapVariables φ))[1]? = some b →
          ∀ c, b.FoldsTo c → c.isNat 0 = false) ↔
        ∀ b, args[1]? = some b → ∀ c, b.FoldsTo c → c.isNat 0 = false := by
      rw [second]
      exact forall₂_congr fun b at' => by
        simp only [(h.arg (List.mem_of_getElem? at')).foldsTo_iff]
    have all : (∀ a ∈ args.map (mapVariables φ), a.IsExpressible) ↔
        ∀ a ∈ args, a.IsExpressible := by
      rw [List.forall_mem_map]
      exact forall₂_congr fun a mem => ih a mem (h.arg mem)
    rw [isExpressible_nonlinear_iff, isExpressible_nonlinear_iff]
    simp only [folds, all, divisors, List.length_map]
    exact or_congr_right (and_congr_left fun _ => not_congr closed)

end Function

end MathProg
