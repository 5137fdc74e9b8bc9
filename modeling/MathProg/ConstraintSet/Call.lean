import MathProg.ConstraintSet.Text

/-!
# Sets from arguments

A set is written like a call: its arguments come by position or by name, positional ones first. A
vector or matrix set takes its size, or nothing; in text the size is an integer.
-/

namespace MathProg

/-- Why a call makes no set. -/
inductive SetCallError where
  | unknownSet (name : String)
  /-- Too many arguments, one missing, an unknown name or an argument given twice. -/
  | badArguments (name : String)
  | number (e : NumberError)
deriving DecidableEq, Repr

namespace SetCall

variable {V : Type}

/-- Gives every field at most one argument. A name that is repeated counts once, with its last
value; a spread argument has no name and fits no field. -/
def bind? (fields : List String) (positional : List V) (named : List (Option String × V)) :
    Option (List (String × V)) :=
  let free := fields.drop positional.length
  if fields.length < positional.length then none
  else do
    let named ← named.mapM (fun (name, v) => do
      let name ← name
      if free.contains name then some (name, v) else none)
    return fields.zip positional ++ named.reverse

end SetCall

namespace SetFamily

/-- The set of a family with the given arguments, if none is missing. -/
def ofArguments? {N : Type} (arguments : List (String × N)) :
    SetFamily → Option (ConstraintSet N)
  | lessThan => do return .lessThan (← arguments.lookup "upper")
  | greaterThan => do return .greaterThan (← arguments.lookup "lower")
  | equalTo => do return .equalTo (← arguments.lookup "value")
  | interval => do return .interval (← arguments.lookup "lower") (← arguments.lookup "upper")
  | integer => some .integer
  | zeroOne => some .zeroOne
  | vector cone => some (.vector cone (arguments.lookup "dimension"))
  | matrix layout => some (.matrix layout (arguments.lookup "side"))

/-- The set of a family whose arguments come by position, then by name. -/
def ofCall? {N : Type} (family : SetFamily) (positional : List N)
    (named : List (Option String × N)) : Option (ConstraintSet N) := do
  family.ofArguments? (← SetCall.bind? family.fields positional named)

def isScalar : SetFamily → Bool
  | vector _ => false
  | matrix _ => false
  | _ => true

end SetFamily

/-- The set with the given name and arguments. Sizes are truncated toward zero. -/
def ConstraintSet.ofCall {N K : Type} [Numeral N K] [TextNumber K] (name : String)
    (positional : List K) (named : List (Option String × K)) :
    Except SetCallError (ConstraintSet N) := do
  let some family := SetFamily.ofName? name | .error (.unknownSet name)
  let argument (c : K) : Except SetCallError N :=
    if family.isScalar then .ok (Numeral.ofCoefficient c)
    else do return Numeral.ofInt (← (TextNumber.truncate c).mapError .number)
  let positional ← positional.mapM argument
  let named ← named.mapM (fun (field, c) => do return (field, ← argument c))
  match family.ofCall? positional named with
  | some set => return set
  | none => .error (.badArguments name)

end MathProg
