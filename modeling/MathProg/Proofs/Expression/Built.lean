import MathProg.Proofs.Expression.Operators
import MathProg.Proofs.Expression.Totality

/-!
# Expressions that callers build

Nodes and signs give expressions whose operators have as many arguments as an expression must give.
How many that are is left open for sums, for products and for the minus sign, which takes only one
argument or two.
-/

namespace MathProg

open Fallible

variable {N K V : Type}

namespace Expression

/-! ## Results of signs -/

section Signs

variable [Zero K] [One K] [Add K] [Mul K] [Neg K] [Numeral N K]
variable {op : Operator} {e f g : Expression N K}

/-- A sign gives nothing but a node of its operator or a scalar expression. -/
def Forms (op : Operator) (e f : Expression N K)
    (result : Except ExpressionError (Expression N K)) : Prop :=
  ∀ g, result = .ok g → g = node op e f ∨ g.isScalarFunction

namespace Forms

omit [Mul K] [Neg K] [Numeral N K]

theorem node : Forms op e f (.ok (.node op e f)) := fun _ h => .inl (Except.ok.inj h).symm

theorem linear (a : LinearExpr K) : Forms op e f (.ok (.linear a)) := fun _ h => by
  cases h
  exact .inr rfl

theorem quadratic (a : QuadraticExpr K) : Forms op e f (.ok (.quadratic a)) := fun _ h => by
  cases h
  exact .inr rfl

theorem error (x : ExpressionError) : Forms op e f (.error x) := nofun

theorem bind {α : Type} {x : Except ExpressionError α}
    {next : α → Except ExpressionError (Expression N K)} (h : ∀ a, Forms op e f (next a)) :
    Forms op e f (x >>= next) := fun g result => by
  obtain ⟨a, -, result⟩ := bind_eq_ok.1 result
  exact h a g result

end Forms

omit [Mul K] [Neg K] in
theorem forms_add (e f : Expression N K) : Forms .sum e f (e.add f) := by
  unfold add
  split
  -- a nonlinear side comes first, then a number, a linear and a quadratic one on the left
  case h_1 | h_2 => exact .node
  case h_3 => exact .bind fun _ => .bind fun _ => .linear _
  case h_4 | h_6 => exact .bind fun _ => .linear _
  case h_5 | h_9 => exact .bind fun _ => .quadratic _
  case h_7 => exact .linear _
  case h_8 | h_10 | h_11 => exact .quadratic _

theorem forms_sub (e f : Expression N K) : Forms .minus e f (e.sub f) := by
  unfold sub
  split
  case h_1 | h_2 => exact .node
  case h_3 => exact .bind fun _ => .bind fun _ => .linear _
  case h_4 | h_6 => exact .bind fun _ => .linear _
  case h_5 | h_9 => exact .bind fun _ => .quadratic _
  case h_7 => exact .linear _
  case h_8 | h_10 | h_11 => exact .quadratic _

omit [One K] [Neg K] [Numeral N K] in
theorem forms_mulQuadratic [One K] (a : LinearExpr K) (b : QuadraticExpr K) :
    Forms op e f (mulQuadratic a b) := by
  unfold mulQuadratic
  split
  · exact .quadratic _
  · exact .error _

omit [Neg K] in
theorem forms_mul (e f : Expression N K) : Forms .product e f (e.mul f) := by
  unfold mul
  split
  case h_1 | h_2 => exact .node
  case h_3 => exact .bind fun _ => .bind fun _ => .linear _
  case h_4 | h_6 => exact .bind fun _ => .linear _
  case h_5 | h_9 => exact .bind fun _ => .quadratic _
  case h_7 => exact .quadratic _
  case h_8 | h_10 => exact forms_mulQuadratic _ _
  case h_11 => exact .error _

omit [Neg K] in
theorem forms_pow (e f : Expression N K) : Forms .power e f (e.pow f) := by
  unfold pow
  split
  case h_1 => exact .node
  case h_2 =>
    -- the exponents two and one stay out of the tree
    split
    · exact .quadratic _
    · split
      · exact .linear _
      · exact .node
  case h_3 => exact .error _

omit [Neg K] in
theorem forms_div [Div K] [BEq K] (e f : Expression N K) : Forms .quotient e f (e.div f) := by
  unfold div
  split
  case h_1 => exact .node
  case h_2 => exact .bind fun _ => .linear _
  case h_3 => exact .bind fun _ => .quadratic _
  case h_4 => exact .error _

theorem forms_apply [Div K] [BEq K] (sign : Sign) (e f : Expression N K) :
    Forms sign.operator e f (e.apply sign f) := by
  cases sign with
  | add => exact forms_add e f
  | sub => exact forms_sub e f
  | mul => exact forms_mul e f
  | div => exact forms_div e f
  | pow => exact forms_pow e f

end Signs

/-! ## Accepted expressions -/

section Accepted

variable [Numeral N Float] {e f : Expression N Float}

theorem IsAccepted.promoted (h : e.IsAccepted) : e.promoted.IsAccepted := by
  cases e with
  | var v => exact .scalar rfl
  | _ => exact h

/-- A node of a sign is accepted. -/
theorem IsAccepted.node (he : e.IsAccepted) (hf : f.IsAccepted) (sign : Sign) :
    (node sign.operator e f).IsAccepted := by
  refine .nonlinear (fun n wanted => ?_) fun a mem => ?_
  · cases sign <;> cases wanted <;> rfl
  · rcases List.mem_pair.1 mem with rfl | rfl
    · exact he.promoted
    · exact hf

theorem IsAccepted.neg (h : e.IsAccepted) (notNumber : ¬ e.isNumber) : e.neg.IsAccepted := by
  cases e with
  | number n => exact absurd rfl notNumber
  | nonlinear op args =>
    refine .nonlinear (fun n none => nomatch none) fun a mem => ?_
    rwa [List.mem_singleton.1 mem]
  | _ => exact .scalar rfl

end Accepted

end Expression

namespace Operand

/-- A node that is built has a known operator with as many arguments as it must be given. -/
theorem node_expressions_eq_ok [Numeral N K] {head : String} {args : List (Expression N K)}
    {e : Expression N K} (h : node head (args.map expression) = .ok e) :
    ∃ op, Operator.ofHead? head = some op ∧ e = .nonlinear op args ∧
      ∀ n, op.arity? = some n → args.length = n := by
  have arguments : (args.map (expression (N := N) (K := K))).mapM argument = .ok args := by
    rw [mapM_eq_ok, List.forall₂_map_left_iff, List.forall₂_same]
    exact fun _ _ => rfl
  unfold node at h
  split at h
  next => cases h
  next op known =>
    rw [arguments, List.length_map] at h
    refine ⟨op, known, ?_⟩
    split at h
    next n wanted =>
      split at h
      next given =>
        cases h
        exact ⟨rfl, fun k same => given.trans (Option.some.inj (wanted.symm.trans same))⟩
      next => cases h
    next any =>
      cases h
      exact ⟨rfl, fun k same => absurd (same.symm.trans any) (Option.some_ne_none k)⟩

end Operand

/-! ## Built expressions -/

namespace Expression

/-- The expressions that are built from numbers within the floats, variables, affine and quadratic
expressions by nodes and by signs. Signs among numbers alone give numbers, which count as such. -/
inductive Built : Expression Number Float → Prop where
  | number {n : Number} {x : Float} (fits : n.toFloat = .ok x) : Built (.number n)
  | var (v : VariableRef) : Built (.var v)
  | linear (e : LinearExpr Float) : Built (.linear e)
  | quadratic (e : QuadraticExpr Float) : Built (.quadratic e)
  | node {head : String} {args : List (Expression Number Float)} {e : Expression Number Float}
      (all : ∀ a ∈ args, Built a) (accepted : Operand.node head (args.map .expression) = .ok e) :
      Built e
  | sign {s : Sign} {e f g : Expression Number Float} (left : Built e) (right : Built f)
      (notBoth : ¬(e.isNumber ∧ f.isNumber))
      (result : Operand.apply s (.expression e) (.expression f) = .ok (.expression g)) : Built g
  | neg {e f : Expression Number Float} (operand : Built e) (notNumber : ¬ e.isNumber)
      (result : (Operand.expression e).neg = .ok (.expression f)) : Built f

theorem Built.isAccepted {e : Expression Number Float} (built : e.Built) : e.IsAccepted := by
  induction built with
  | number fits => exact .number fits
  | var | linear | quadratic => exact .scalar rfl
  | node all accepted ih =>
    obtain ⟨op, -, rfl, given⟩ := Operand.node_expressions_eq_ok accepted
    exact .nonlinear given ih
  | @sign s e f g _ _ notBoth result left right =>
    rw [Operand.apply_expression s notBoth] at result
    obtain ⟨_, made, same⟩ := map_eq_ok.1 result
    obtain rfl := Operand.expression.inj same
    -- what is no scalar expression is a node with two arguments, as many as every sign gives
    rcases forms_apply s e f _ made with rfl | scalar
    · exact left.node right s
    · exact .scalar scalar
  | neg _ notNumber result operand =>
    cases result
    exact operand.neg notNumber

end Expression

end MathProg
