import GridCommons.Script.BoundedInt

/-!
Contract: words as integers.

Owns:
- the operation on integers that an operation on words stands for;
- that an operation on words gives the integer result where a word can hold it, and when it is
  exact;
- quotients cut toward zero: when a word can hold them, and how they limit products.

Does not own: bounds narrower than a word.
-/

namespace GridCommons.Script

/-! ## Quotients -/

section Quotients

variable {x y limit : Int}

theorem le_tdiv_iff (positive : 0 < y) (nonneg : 0 ≤ limit) : x ≤ limit.tdiv y ↔ x * y ≤ limit := by
  rw [Int.tdiv_eq_ediv_of_nonneg nonneg]
  exact Int.le_ediv_iff_mul_le positive

/-- Below zero the quotient is cut upward, so it bounds from below. -/
theorem tdiv_le_iff (positive : 0 < y) (nonpos : limit ≤ 0) : limit.tdiv y ≤ x ↔ limit ≤ x * y := by
  have mirrored : -x ≤ (-limit).tdiv y ↔ -x * y ≤ -limit := le_tdiv_iff positive (by omega)
  rw [Int.neg_tdiv, Int.neg_le_neg_iff, Int.neg_mul, Int.neg_le_neg_iff] at mirrored
  exact mirrored

/-- The remainder lies between zero and the dividend. -/
theorem tmod_between (x y : Int) : (0 ≤ x → 0 ≤ x.tmod y ∧ x.tmod y ≤ x) ∧
    (x ≤ 0 → x ≤ x.tmod y ∧ x.tmod y ≤ 0) := by
  have upward : ∀ z : Int, 0 ≤ z → 0 ≤ z.tmod y ∧ z.tmod y ≤ z := by
    intro z nonneg
    refine ⟨Int.tmod_nonneg y nonneg, ?_⟩
    have small : (z.tmod y).natAbs ≤ z.natAbs := by
      rw [Int.natAbs_tmod]
      exact Nat.mod_le _ _
    omega
  refine ⟨upward x, fun nonpos => ?_⟩
  have mirrored := upward (-x) (by omega)
  rw [Int.neg_tmod] at mirrored
  omega

end Quotients

/-! ### Limits of products

A factor `x` between two bounds is held against a bound divided by the other factor.  By the signs
of both factors, the product leaves the bounds exactly beyond one of four limits. -/

section Products

variable {low high x y : Int} (least : low ≤ x) (most : x ≤ high)

include least most

/-- A product of positive numbers is tested by dividing the upper bound. -/
theorem high_tdiv_lt_iff (value : 0 < x) (factor : 0 < y) :
    high.tdiv y < x ↔ ¬(low ≤ x * y ∧ x * y ≤ high) := by
  have limit : x ≤ high.tdiv y ↔ x * y ≤ high := le_tdiv_iff factor (by omega)
  have grows : x * 1 ≤ x * y := Int.mul_le_mul_of_nonneg_left (by omega) (by omega)
  omega

omit least in
theorem lt_low_tdiv_value_iff (value : 0 < x) (factor : y < 0) :
    y < low.tdiv x ↔ ¬(low ≤ x * y ∧ x * y ≤ high) := by
  have falls : x * y < 0 := Int.mul_neg_of_pos_of_neg value factor
  by_cases below : low ≤ 0
  · have limit : low.tdiv x ≤ y ↔ low ≤ y * x := tdiv_le_iff value below
    rw [Int.mul_comm] at limit
    omega
  · have nonneg : 0 ≤ low.tdiv x := Int.tdiv_nonneg (by omega) (by omega)
    omega

/-- Only a negative value can fall below this limit. -/
theorem lt_low_tdiv_iff (factor : 0 < y) :
    x < low.tdiv y ↔ x < 0 ∧ ¬(low ≤ x * y ∧ x * y ≤ high) := by
  by_cases value : x < 0
  · have limit : low.tdiv y ≤ x ↔ low ≤ x * y := tdiv_le_iff factor (by omega)
    have falls : x * y ≤ x * 1 := Int.mul_le_mul_of_nonpos_left (by omega) (by omega)
    omega
  · have small : low.tdiv y ≤ max low 0 := by
      rcases Int.le_total low 0 with below | above
      · have := (tdiv_le_iff (x := 0) factor below).mpr (by omega)
        omega
      · have := Int.tdiv_le_self y above
        omega
    omega

theorem lt_high_tdiv_iff (factor : y < 0) :
    x < high.tdiv y ↔ x < 0 ∧ ¬(low ≤ x * y ∧ x * y ≤ high) := by
  have mirrored : high.tdiv y = -high.tdiv (-y) := by rw [Int.tdiv_neg, Int.neg_neg]
  by_cases above : 0 ≤ high
  · have limit : -x ≤ high.tdiv (-y) ↔ -x * -y ≤ high := le_tdiv_iff (by omega) above
    have nonneg : 0 ≤ high.tdiv (-y) := Int.tdiv_nonneg above (by omega)
    have rises : x < 0 → 0 < x * y := fun value => Int.mul_pos_of_neg_of_neg value factor
    rw [Int.neg_mul_neg] at limit
    omega
  · have nonneg : 0 ≤ (-high).tdiv (-y) := Int.tdiv_nonneg (by omega) (by omega)
    have rises : 0 < x * y := Int.mul_pos_of_neg_of_neg (by omega) factor
    rw [Int.neg_tdiv] at nonneg
    omega

end Products

/-! ## The range of a word -/

namespace Word

variable {x y n low high : Int}

theorem toInt_least : least.toInt = -2147483648 :=
  rfl

theorem toInt_greatest : greatest.toInt = 2147483647 :=
  rfl

theorem fits_toInt (a : Word) : Fits a.toInt :=
  ⟨Int32.le_toInt a, Int32.toInt_le a⟩

/-- What lies between two integers that a word can hold, a word can hold. -/
theorem Fits.of_between (below : Fits low) (above : Fits high) (least : low ≤ n) (most : n ≤ high) :
    Fits n :=
  ⟨Int.le_trans below.1 least, Int.le_trans most above.2⟩

theorem bmod_of_fits (fits : Fits n) : n.bmod 4294967296 = n := by
  obtain ⟨least, most⟩ := fits
  exact Int.bmod_eq_of_le_mul_two (by omega) (by omega)

/-- A word can hold the quotient of two words, but for one. -/
theorem fits_tdiv_iff (fits : Fits x) : Fits (x.tdiv y) ↔ ¬(x = -2147483648 ∧ y = -1) := by
  have small := Int.natAbs_tdiv_le_natAbs x y
  obtain ⟨least, most⟩ := fits
  constructor
  · rintro ⟨-, held⟩ ⟨rfl, rfl⟩
    exact absurd held (by decide)
  · intro other
    -- only the quotient of the least word can be as far from zero as the least word
    by_cases extreme : x.tdiv y = 2147483648
    · have divisor : y ≠ 0 := by
        rintro rfl
        simp at extreme
      have product := Int.tdiv_mul_add_tmod x y
      have between := tmod_between x y
      rw [extreme] at product
      omega
    · exact ⟨by omega, by omega⟩

theorem fits_tmod (fits : Fits x) (y : Int) : Fits (x.tmod y) := by
  obtain ⟨least, most⟩ := fits
  have between := tmod_between x y
  exact ⟨by omega, by omega⟩

end Word

/-! ## Operations -/

open Word (Fits)

def Operation.eval : Operation → Int → Int → Int
  | .add, x, y => x + y
  | .sub, x, y => x - y
  | .mul, x, y => x * y
  | .div, x, y => x.tdiv y
  | .mod, x, y => x.tmod y

def Operation.divides (op : Operation) : Prop :=
  op = .div ∨ op = .mod

instance (op : Operation) : Decidable op.divides :=
  inferInstanceAs (Decidable (_ ∨ _))

/-- The operation on words is defined: its result is one that a word can hold.  Where it divides,
the divisor is not zero, and a word can hold the quotient. -/
def Operation.Defined : Operation → Int → Int → Prop
  | .add, x, y => Fits (x + y)
  | .sub, x, y => Fits (x - y)
  | .mul, x, y => Fits (x * y)
  | .div, x, y | .mod, x, y => y ≠ 0 ∧ Fits (x.tdiv y)

/-- An operation that is defined has a result that fits in a word. -/
theorem Operation.Defined.fits_eval {op : Operation} {a b : Word}
    (inside : op.Defined a.toInt b.toInt) :
    Fits (op.eval a.toInt b.toInt) := by
  cases op with
  | add | sub | mul => exact inside
  | div => exact inside.2
  | mod => exact Word.fits_tmod (Word.fits_toInt a) b.toInt

/-- Only a remainder can be held by a word and yet not be defined. -/
theorem Operation.Defined.of_fits {op : Operation} {x y : Int} (exactly : op ≠ .mod)
    (divisor : op.divides → y ≠ 0) (fits : Fits (op.eval x y)) : op.Defined x y := by
  cases op with
  | add | sub | mul => exact fits
  | div => exact ⟨divisor (.inl rfl), fits⟩
  | mod => exact absurd rfl exactly

namespace BoundedInt

variable (op : Operation) (a b : Word)

/-- A computation with words is exact exactly where the operation is defined. -/
theorem compute_exact_iff : (compute op a b).exact = true ↔ op.Defined a.toInt b.toInt := by
  have zero : b = 0 ↔ b.toInt = 0 := Int32.toInt_inj.symm
  cases op <;>
    simp [compute, Calc.add, Calc.sub, Calc.mul, Calc.div, Calc.mod, Operation.Defined, zero]

/-- A result that a word can hold is the result. -/
theorem toInt_compute (fits : Fits (op.eval a.toInt b.toInt)) :
    (compute op a b).value.toInt = op.eval a.toInt b.toInt := by
  have held := Word.bmod_of_fits fits
  cases op with
  | add => exact (Int32.toInt_add a b).trans held
  | sub => exact (Int32.toInt_sub a b).trans held
  | mul => exact (Int32.toInt_mul a b).trans held
  | div => exact (Int32.toInt_div a b).trans held
  | mod => exact Int32.toInt_mod a b

end BoundedInt

end GridCommons.Script
