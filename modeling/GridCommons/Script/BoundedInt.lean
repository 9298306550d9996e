import GridCommons.Script.Word

/-!
Contract: named integer variables with bounds, and arithmetic that refuses a
result outside them.

Owns:
- the variable, its bounds and the test that its value lies within them;
- the five operations, each preceded by a test of its own;
- the two ways an operation can be refused.

Does not own: the table of variables of a running script.
-/

namespace GridCommons.Script

/-- A named integer variable whose value is meant to stay within its bounds. -/
structure BoundedInt where
  name : String
  value : Word
  lower : Word := Word.least
  upper : Word := Word.greatest
deriving DecidableEq, Repr

inductive Operation where
  | add
  | sub
  | mul
  | div
  | mod
deriving DecidableEq, Repr

/-- Why an operation was refused; each cause carries the name of the variable
on the left. -/
inductive Refusal where
  | overflow (name : String)
  | zeroDivisor (name : String)
deriving DecidableEq, Repr

namespace BoundedInt

def inBounds (a : BoundedInt) : Bool :=
  a.lower ≤ a.value && a.value ≤ a.upper

def canAdd (a b : BoundedInt) : Calc Bool :=
  if b.value > 0 then do
    let room ← Calc.sub a.upper b.value
    return !decide (a.value > room)
  else if b.value < 0 then do
    let room ← Calc.sub a.lower b.value
    return !decide (a.value < room)
  else
    return true

/-- Subtracting `b` keeps `a` within its bounds. -/
def canSub (a b : BoundedInt) : Calc Bool :=
  if b.value < 0 then do
    let room ← Calc.add a.upper b.value
    return !decide (a.value > room)
  else if b.value > 0 then do
    let room ← Calc.add a.lower b.value
    return !decide (a.value < room)
  else
    return true

/-- The first half of the test for a product: a positive value that would pass
one of the bounds. -/
def productPasses (a b : BoundedInt) : Calc Bool :=
  if a.value > 0 then
    if b.value > 0 then do
      let limit ← Calc.div a.upper b.value
      return decide (a.value > limit)
    else if b.value < 0 then do
      let limit ← Calc.div a.lower a.value
      return decide (b.value < limit)
    else
      return false
  else
    return false

/-- The second half of the test for a product, by the sign of the factor
alone. -/
def productFallsShort (a b : BoundedInt) : Calc Bool :=
  if b.value > 0 then do
    let limit ← Calc.div a.lower b.value
    return decide (a.value < limit)
  else if b.value < 0 then do
    let limit ← Calc.div a.upper b.value
    return decide (a.value < limit)
  else
    return false

/-- Multiplying by `b` keeps `a` within its bounds. -/
def canMul (a b : BoundedInt) : Calc Bool :=
  if a.value = 0 ∨ b.value = 0 then
    return true
  else do
    if ← productPasses a b then
      return false
    else
      return !(← productFallsShort a b)

/-- Dividing by `b` is defined and the quotient is no overflow. -/
def canDiv (a b : BoundedInt) : Calc Bool :=
  return !(b.value = 0 || (a.value = a.lower && b.value = -1))

def canMod (_ b : BoundedInt) : Calc Bool :=
  return b.value ≠ 0

def can : Operation → BoundedInt → BoundedInt → Calc Bool
  | .add => canAdd
  | .sub => canSub
  | .mul => canMul
  | .div => canDiv
  | .mod => canMod

/-- The word operation behind an operation on variables. -/
def compute : Operation → Word → Word → Calc Word
  | .add => Calc.add
  | .sub => Calc.sub
  | .mul => Calc.mul
  | .div => Calc.div
  | .mod => Calc.mod

/-- A quotient or remainder by zero is refused as such, before any other test. -/
def dividesByZero (op : Operation) (b : BoundedInt) : Bool :=
  (op = .div || op = .mod) && b.value = 0

/-- Apply an operation to `a`, keeping its name and bounds, with the record of
exactness of every word operation on the way. -/
def applyCalc (op : Operation) (a b : BoundedInt) : Calc (Except Refusal BoundedInt) :=
  if dividesByZero op b then
    return .error (.zeroDivisor a.name)
  else do
    if ← can op a b then
      let value ← compute op a.value b.value
      return .ok { a with value }
    else
      return .error (.overflow a.name)

def apply (op : Operation) (a b : BoundedInt) : Except Refusal BoundedInt :=
  (applyCalc op a b).value

end BoundedInt

end GridCommons.Script
