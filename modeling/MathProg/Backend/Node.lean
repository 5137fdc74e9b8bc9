import MathProg.Function.Basic
import MathProg.Number.Checked

/-!
# Expression nodes

The expressions of an algebraic model. They are simplified while they are built: what has no
variable is computed at once, zero is not added and one is not multiplied, a number times a
variable is one node, and sums are flattened. The values are those of the written arithmetic. A
complex number goes together with numbers only.
-/

namespace MathProg

/-- An expression over numbered variables, with numbers `V`. -/
inductive Node (V : Type) where
  | constant (c : V)
  /-- What a function makes of a complex number. Functions apart, nothing can be done with it. -/
  | undefined
  | var (v : Nat)
  /-- A number times a variable. -/
  | monomial (c : V) (v : Nat)
  /-- A sum of numbers, variables and monomials. -/
  | linear (args : List (Node V))
  | sum (args : List (Node V))
  | product (a b : Node V)
  | quotient (a b : Node V)
  | power (a b : Node V)
  | negation (a : Node V)
  | call (op : Operator) (a : Node V)

namespace Node

variable {N K V : Type}

/-- Whether the node stands for something without variables, which is no expression. -/
def isPlain : Node V → Bool
  | constant _ => true
  | undefined => true
  | _ => false

/-- A variable or a monomial. -/
def isSimple : Node V → Bool
  | var _ => true
  | monomial _ _ => true
  | _ => false

/-- A sum of two nodes of which one is a number, the number coming last in a longer sum. -/
def addNumber (c : Node V) (a : Node V) (both : List (Node V)) : Node V :=
  match a with
  | linear args => linear (args ++ [c])
  | sum args => sum (args ++ [c])
  | var _ => linear both
  | monomial _ _ => linear both
  | _ => sum both

/-- The sum of two nodes that are no numbers. -/
def join (a b : Node V) : Node V :=
  match a, b with
  | sum as, sum bs => sum (as ++ bs)
  | sum as, b => sum (as ++ [b])
  | a, sum bs => sum (bs ++ [a])
  | linear as, linear bs => linear (as ++ bs)
  | linear as, b => if b.isSimple then linear (as ++ [b]) else sum [linear as, b]
  | a, linear bs => if a.isSimple then linear (bs ++ [a]) else sum [a, linear bs]
  | a, b => if a.isSimple && b.isSimple then linear [a, b] else sum [a, b]

variable (N K) [CheckedArithmetic N K V]

open CheckedArithmetic (isNat ofNat)

def number (n : Nat) : Node V :=
  constant (ofNat N K n)

def isRealNumber (c : V) : Bool :=
  (CheckedArithmetic.parts K c : N ⊕ Complex).isLeft

/-- Whether the node is a real number. -/
def isReal : Node V → Bool
  | constant c => isRealNumber N K c
  | _ => false

/-- Refuses a number that cannot go together with variables. -/
def checkReal (c : V) : Except ArithmeticError Unit :=
  if isRealNumber N K c then .ok () else .error .complexOperand

def add (a b : Node V) : Except ArithmeticError (Node V) :=
  match a, b with
  | undefined, _ => .error .complexOperand
  | _, undefined => .error .complexOperand
  | constant c, constant d => do return constant (← CheckedArithmetic.apply N K .add c d)
  | constant c, b => do
    checkReal N K c
    return if isNat N K c 0 then b else addNumber (constant c) b [constant c, b]
  | a, constant d => do
    checkReal N K d
    return if isNat N K d 0 then a else addNumber (constant d) a [a, constant d]
  | a, b => .ok (join a b)

def neg : Node V → Except ArithmeticError (Node V)
  | undefined => .error .complexOperand
  | constant c => .ok (constant (CheckedArithmetic.neg N K c))
  | var v => .ok (monomial (CheckedArithmetic.neg N K (ofNat N K 1)) v)
  | monomial c v => .ok (monomial (CheckedArithmetic.neg N K c) v)
  | a => .ok (negation a)

def sub (a b : Node V) : Except ArithmeticError (Node V) := do
  add N K a (← neg N K b)

/-- A node times a number. -/
def scale (c : V) (a : Node V) (otherwise : Node V) : Except ArithmeticError (Node V) := do
  checkReal N K c
  if isNat N K c 1 then return a
  else
    match a with
    | var v => return monomial c v
    | monomial d v => return monomial (← CheckedArithmetic.apply N K .mul c d) v
    | _ => return otherwise

def mul (a b : Node V) : Except ArithmeticError (Node V) :=
  match a, b with
  | undefined, _ => .error .complexOperand
  | _, undefined => .error .complexOperand
  | constant c, constant d => do return constant (← CheckedArithmetic.apply N K .mul c d)
  | constant c, b => scale N K c b (product (constant c) b)
  | a, constant d => scale N K d a (product a (constant d))
  | a, b => .ok (product a b)

/-- The quotient; a number that divides must not be zero. -/
def div (a b : Node V) : Except ArithmeticError (Node V) :=
  match a, b with
  | undefined, _ => .error .complexOperand
  | _, undefined => .error .complexOperand
  | constant c, constant d => do return constant (← CheckedArithmetic.apply N K .div c d)
  | constant c, b => do
    checkReal N K c
    return quotient (constant c) b
  | a, constant d => do
    checkReal N K d
    if isNat N K d 0 then throw .divisionByZero
    else if isNat N K d 1 then return a
    else
      match a with
      | var v => return monomial (← CheckedArithmetic.apply N K .div (ofNat N K 1) d) v
      | monomial c v => return monomial (← CheckedArithmetic.apply N K .div c d) v
      | a => return quotient a (constant d)
  | a, b => .ok (quotient a b)

def pow (a b : Node V) : Except ArithmeticError (Node V) :=
  match a, b with
  | undefined, _ => .error .complexOperand
  | _, undefined => .error .complexOperand
  | constant c, constant d => do return constant (← CheckedArithmetic.apply N K .pow c d)
  | constant c, b => do
    checkReal N K c
    return power (constant c) b
  | a, constant d => do
    checkReal N K d
    return if isNat N K d 1 then a else power a (constant d)
  | a, b => .ok (power a b)

/-- A function of one argument. -/
def apply (op : Operator) (a : Node V) : Except ArithmeticError (Node V) :=
  match a with
  | undefined => if op = .abs then .error .complexOperand else .ok undefined
  | constant c =>
    if op = .abs || isRealNumber N K c then do
      return constant (← CheckedArithmetic.call N K op c)
    else .ok undefined
  | a => .ok (call op a)

def addAll (args : List (Node V)) : Except ArithmeticError (Node V) :=
  args.foldlM (add N K) (number N K 0)

def mulAll (args : List (Node V)) : Except ArithmeticError (Node V) :=
  args.foldlM (mul N K) (number N K 1)

mutual

/-- The value of a node, sums running from the left. An undefined node has none. -/
def evaluate {ε : Type} (fault : ArithmeticError → ε) (value : Nat → Except ε V) :
    Node V → Except ε V
  | constant c => .ok c
  | undefined => .error (fault .domain)
  | var v => value v
  | monomial c v => do (CheckedArithmetic.apply N K .mul c (← value v)).mapError fault
  | linear args => do total fault (← evaluateAll fault value args)
  | sum args => do total fault (← evaluateAll fault value args)
  | product a b => do
    let x ← a.evaluate fault value
    let y ← b.evaluate fault value
    (CheckedArithmetic.apply N K .mul x y).mapError fault
  | quotient a b => do
    let x ← a.evaluate fault value
    let y ← b.evaluate fault value
    (CheckedArithmetic.apply N K .div x y).mapError fault
  | power a b => do
    let x ← a.evaluate fault value
    let y ← b.evaluate fault value
    (CheckedArithmetic.apply N K .pow x y).mapError fault
  | negation a => do return CheckedArithmetic.neg N K (← a.evaluate fault value)
  | call op a => do (CheckedArithmetic.call N K op (← a.evaluate fault value)).mapError fault

def evaluateAll {ε : Type} (fault : ArithmeticError → ε) (value : Nat → Except ε V) :
    List (Node V) → Except ε (List V)
  | [] => .ok []
  | a :: rest => do
    let x ← a.evaluate fault value
    let xs ← evaluateAll fault value rest
    return x :: xs

/-- A sum from the left, starting with the first number. -/
def total {ε : Type} (fault : ArithmeticError → ε) : List V → Except ε V
  | [] => .ok (ofNat N K 0)
  | x :: xs => xs.foldlM (fun s x => (CheckedArithmetic.apply N K .add s x).mapError fault) x

end

end Node

end MathProg
