/-!
Contract: 32-bit machine words and calculations on them that remember whether
every intermediate result was exact.

Owns:
- the range of a word, read as a signed integer;
- `Calc`, a value together with the record of exactness;
- addition, subtraction, multiplication, quotient and remainder of words.

Does not own: bounds narrower than a word, or what a caller does when a
calculation was not exact.
-/

namespace GridCommons.Script

abbrev Word := Int32

namespace Word

def least : Word := Int32.minValue

def greatest : Word := Int32.maxValue

/-- An integer that a word can hold. -/
def Fits (n : Int) : Prop :=
  -2147483648 ≤ n ∧ n ≤ 2147483647

instance (n : Int) : Decidable (Fits n) := by
  unfold Fits
  infer_instance

end Word

/-- A computed value and whether every word operation behind it was exact,
that is, inside the range of a word and without a zero divisor. -/
structure Calc (α : Type) where
  value : α
  exact : Bool
deriving DecidableEq, Repr

namespace Calc

instance : Monad Calc where
  pure value := ⟨value, true⟩
  bind first next :=
    let second := next first.value
    ⟨second.value, first.exact && second.exact⟩

def add (a b : Word) : Calc Word :=
  ⟨a + b, decide (Word.Fits (a.toInt + b.toInt))⟩

def sub (a b : Word) : Calc Word :=
  ⟨a - b, decide (Word.Fits (a.toInt - b.toInt))⟩

def mul (a b : Word) : Calc Word :=
  ⟨a * b, decide (Word.Fits (a.toInt * b.toInt))⟩

/-- The quotient of two words, cut toward zero. -/
def div (a b : Word) : Calc Word :=
  ⟨a / b, decide (b ≠ 0 ∧ Word.Fits (a.toInt.tdiv b.toInt))⟩

/-- The remainder that belongs to `div`.  It is exact only where the quotient
is. -/
def mod (a b : Word) : Calc Word :=
  ⟨a % b, decide (b ≠ 0 ∧ Word.Fits (a.toInt.tdiv b.toInt))⟩

@[simp] theorem pure_value {α : Type} (a : α) : (pure a : Calc α).value = a := rfl

@[simp] theorem pure_exact {α : Type} (a : α) : (pure a : Calc α).exact = true := rfl

@[simp] theorem bind_value {α β : Type} (first : Calc α) (next : α → Calc β) :
    (first >>= next).value = (next first.value).value := rfl

@[simp] theorem bind_exact {α β : Type} (first : Calc α) (next : α → Calc β) :
    (first >>= next).exact = (first.exact && (next first.value).exact) := rfl

end Calc

end GridCommons.Script
