import GridCommons.Proofs.Bounds

/-!
Contract: arithmetic of variables whose bounds are those of a word.

Owns:
- that an operation on such a variable gives the integer result wherever a word can hold it, and
  refuses nothing else;
- what an operation leaves alone, and that making a third variable answers as changing the first;
- the laws of division and cancellation, with no refusal on the way.

Does not own: narrower bounds.
-/

namespace GridCommons.Script

open Word (Fits)

namespace BoundedInt

variable {op : Operation} {a b c : BoundedInt}

/-- The bounds are those of a word. -/
def FullRange (a : BoundedInt) : Prop :=
  a.lower = Word.least ∧ a.upper = Word.greatest

/-- The operation on two variables gives a third, and every word operation on the way is exact. -/
def Yields (op : Operation) (a b c : BoundedInt) : Prop :=
  applyCalc op a b = ⟨.ok c, true⟩

section Full

variable (full : a.FullRange)

include full

theorem FullRange.allows_iff {n : Int} : a.Allows n ↔ Fits n := by
  rw [Allows, full.1, full.2]
  exact Iff.rfl

theorem FullRange.within : a.Allows a.value.toInt :=
  full.allows_iff.mpr (Word.fits_toInt a.value)

/-- No word operation of a test leaves the range of a word. -/
theorem FullRange.testDefined (op : Operation) (b : BoundedInt) :
    TestDefined op a b.value.toInt := by
  obtain ⟨least, most⟩ := Word.fits_toInt b.value
  unfold TestDefined
  rw [full.1, full.2, Word.toInt_least, Word.toInt_greatest]
  cases op with
  | add | sub => exact ⟨fun _ => ⟨by omega, by omega⟩, fun _ => ⟨by omega, by omega⟩⟩
  | mul => exact fun both => absurd both.1 (by decide)
  | div | mod => trivial

/-- A test lets exactly the results pass that a word can hold. -/
theorem FullRange.testPasses_iff (op : Operation) (b : BoundedInt) :
    TestPasses op a b.value.toInt ↔
      (op.divides → b.value.toInt ≠ 0) ∧ Fits (op.eval a.value.toInt b.value.toInt) := by
  have value := Word.fits_toInt a.value
  have quotient := Word.fits_tdiv_iff (y := b.value.toInt) value
  have remainder := Word.fits_tmod value b.value.toInt
  cases op with
  | add | sub => simp [TestPasses, Operation.eval, Operation.divides, full.allows_iff]
  | mul =>
      simp only [TestPasses, Operation.eval, Operation.divides, full.allows_iff]
      constructor
      · rintro (zero | held)
        · refine ⟨by simp, ?_⟩
          rw [zero, Int.mul_zero]
          decide
        · exact ⟨by simp, held⟩
      · exact fun both => .inr both.2
  | div =>
      have lowest : a.lower.toInt = -2147483648 := congrArg Int32.toInt full.1
      simp [TestPasses, Operation.eval, Operation.divides, quotient, lowest]
  | mod => simp [TestPasses, Operation.eval, Operation.divides, remainder]

/-- An operation divides by zero, or gives the integer result where a word can hold it, or
refuses. -/
theorem FullRange.applyCalc_eq (op : Operation) (b : BoundedInt) :
    applyCalc op a b =
      if op.divides ∧ b.value.toInt = 0 then ⟨.error (.zeroDivisor a.name), true⟩
      else if Fits (op.eval a.value.toInt b.value.toInt) then
        ⟨.ok { a with value := (compute op a.value b.value).value },
          (compute op a.value b.value).exact⟩
      else ⟨.error (.overflow a.name), true⟩ := by
  have test := can_decides (b := b) full.within op
  have tested := full.testDefined op b
  have told := (test.value tested).trans (full.testPasses_iff op b)
  by_cases zero : op.divides ∧ b.value.toInt = 0
  · rw [if_pos zero]
    exact applyCalc_of_zero (dividesByZero_iff.mpr zero)
  rw [if_neg zero, applyCalc_of_nonzero (mt dividesByZero_iff.mp zero), test.exact.mpr tested, Bool.true_and]
  have passes : (can op a b).value = true ↔ Fits (op.eval a.value.toInt b.value.toInt) :=
    told.trans (and_iff_right fun divides here => zero ⟨divides, here⟩)
  by_cases held : Fits (op.eval a.value.toInt b.value.toInt)
  · rw [if_pos (passes.mpr held), if_pos held]
  · rw [if_neg (mt passes.mp held), if_neg held]

/-- A result that is defined is given. -/
theorem FullRange.yields (defined : op.Defined a.value.toInt b.value.toInt) :
    ∃ value : Word, value.toInt = op.eval a.value.toInt b.value.toInt ∧
      Yields op a b { a with value } := by
  have divisor : ¬(op.divides ∧ b.value.toInt = 0) := by
    rintro ⟨rfl | rfl, zero⟩ <;> exact defined.1 zero
  refine ⟨(compute op a.value b.value).value, toInt_compute op _ _ defined.fits_eval, ?_⟩
  rw [Yields, full.applyCalc_eq, if_neg divisor, if_pos defined.fits_eval,
    (compute_exact_iff op a.value b.value).mpr defined]

/-- A result that is given is the integer result. -/
theorem FullRange.of_apply (applied : apply op a b = .ok c) :
    (op.divides → b.value.toInt ≠ 0) ∧ Fits (op.eval a.value.toInt b.value.toInt) ∧
      ∃ value : Word, value.toInt = op.eval a.value.toInt b.value.toInt ∧ c = { a with value } := by
  rw [apply, full.applyCalc_eq] at applied
  split at applied
  · cases applied
  rename_i divisor
  split at applied
  · rename_i held
    cases applied
    exact ⟨fun divides zero => divisor ⟨divides, zero⟩, held, _, toInt_compute op _ _ held, rfl⟩
  · cases applied

/-- No operation but the remainder computes anything that no word can hold. -/
theorem FullRange.exact_applyCalc (exactly : op ≠ .mod) (b : BoundedInt) :
    (applyCalc op a b).exact = true := by
  rw [full.applyCalc_eq]
  split
  · rfl
  rename_i divisor
  split
  · rename_i held
    have defined := Operation.Defined.of_fits exactly (fun divides zero => divisor ⟨divides, zero⟩) held
    exact (compute_exact_iff op a.value b.value).mpr defined
  · rfl

/-- An operation that leads back to the value of a variable gives the variable. -/
theorem FullRange.yields_back {value : Word} (exactly : op ≠ .mod)
    (divisor : op.divides → b.value.toInt ≠ 0)
    (back : op.eval value.toInt b.value.toInt = a.value.toInt) : Yields op { a with value } b a := by
  have held : Fits (op.eval value.toInt b.value.toInt) := by
    rw [back]
    exact Word.fits_toInt a.value
  have fullToo : ({ a with value } : BoundedInt).FullRange := full
  obtain ⟨given, same, yields⟩ := fullToo.yields (.of_fits exactly divisor held)
  obtain rfl : given = a.value := Int32.toInt_inj.mp (same.trans back)
  exact yields

end Full

/-- Quotient and remainder make up the dividend again, and sums, differences and products are
undone, with no refusal on the way and every word operation exact. -/
theorem division_and_cancellation_laws (full : a.FullRange) (b : BoundedInt) :
    (∀ q, apply .div a b = .ok q → ∃ r p, Yields .mod a b r ∧ Yields .mul q b p ∧ Yields .add p r a ∧
        r.value.toInt.natAbs < b.value.toInt.natAbs ∧
        (r.value.toInt = 0 ∨ r.value.toInt.sign = a.value.toInt.sign)) ∧
      (∀ s, apply .add a b = .ok s → Yields .sub s b a) ∧
      (∀ d, apply .sub a b = .ok d → Yields .add d b a) ∧
      ∀ p, apply .mul a b = .ok p → b.value ≠ 0 → Yields .div p b a := by
  refine ⟨fun q applied => ?_, fun s applied => ?_, fun d applied => ?_, fun p applied factor => ?_⟩
  · obtain ⟨divisor, fits, quotient, isQuotient, rfl⟩ := full.of_apply applied
    have nonzero : b.value.toInt ≠ 0 := divisor (.inl rfl)
    have modulo : Operation.mod.Defined a.value.toInt b.value.toInt := ⟨nonzero, fits⟩
    obtain ⟨remainder, isRemainder, yieldsRemainder⟩ := full.yields modulo
    have whole := Int.tdiv_mul_add_tmod a.value.toInt b.value.toInt
    -- the product lies between zero and the dividend, so a word can hold it
    have held : Operation.mul.Defined quotient.toInt b.value.toInt := by
      have between := tmod_between a.value.toInt b.value.toInt
      obtain ⟨least, most⟩ := Word.fits_toInt a.value
      rw [isQuotient]
      simp only [Operation.eval]
      constructor <;> omega
    have fullToo : ({ a with value := quotient } : BoundedInt).FullRange := full
    obtain ⟨product, isProduct, yieldsProduct⟩ := fullToo.yields held
    refine ⟨_, _, yieldsRemainder, yieldsProduct, ?_, ?_, ?_⟩
    · refine full.yields_back (by decide) (by simp [Operation.divides]) ?_
      rw [isProduct, isRemainder]
      simp only [isQuotient, Operation.eval]
      exact whole
    · rw [isRemainder, Operation.eval, Int.natAbs_tmod]
      exact Nat.mod_lt _ (Int.natAbs_pos.mpr nonzero)
    · have sign := Int.sign_tmod a.value.toInt b.value.toInt
      rw [isRemainder, Operation.eval]
      split at sign
      · exact .inl (Int.sign_eq_zero_iff_zero.mp sign)
      · exact .inr sign
  · obtain ⟨-, -, sum, isSum, rfl⟩ := full.of_apply applied
    refine full.yields_back (by decide) (by simp [Operation.divides]) ?_
    rw [isSum]
    exact Int.add_sub_cancel _ _
  · obtain ⟨-, -, difference, isDifference, rfl⟩ := full.of_apply applied
    refine full.yields_back (by decide) (by simp [Operation.divides]) ?_
    rw [isDifference]
    exact Int.sub_add_cancel _ _
  · obtain ⟨-, -, product, isProduct, rfl⟩ := full.of_apply applied
    have nonzero : b.value.toInt ≠ 0 := mt zero_iff.mpr factor
    refine full.yields_back (by decide) (fun _ => nonzero) ?_
    rw [isProduct]
    exact Int.mul_tdiv_cancel _ nonzero

/-! ### The least word, divided by three -/

def lowest : BoundedInt :=
  { name := "a", value := Word.least }

def three : BoundedInt :=
  { name := "b", value := 3 }

/-- Quotient and remainder make up the least word again. -/
theorem division_and_cancellation_laws_lowest :
    lowest.FullRange ∧ apply .div lowest three = .ok { lowest with value := -715827882 } ∧
      ∃ r p, Yields .mod lowest three r ∧ Yields .mul { lowest with value := -715827882 } three p ∧
        Yields .add p r lowest ∧ r.value.toInt.natAbs < 3 ∧
        (r.value.toInt = 0 ∨ r.value.toInt.sign = -1) := by
  have divided : apply .div lowest three = .ok { lowest with value := -715827882 } := rfl
  exact ⟨⟨rfl, rfl⟩, divided, (division_and_cancellation_laws ⟨rfl, rfl⟩ three).1 _ divided⟩

end BoundedInt

/-! ## Stored variables -/

namespace Workspace

variable {w : Workspace} {left right : String} {a b : BoundedInt}

/-- What an operation on the variables `a` and `b`, stored under two names, leaves alone.  To change
the first of them and to make a third variable are answered alike. -/
structure LeavesOperands (w : Workspace) (left : String) (op : Operation) (right : String)
    (a b : BoundedInt) : Prop where
  refused : ∀ cause, (w.step (.update left op right)).1 = .refused cause →
    (w.step (.update left op right)).2 = w
  changed : ∃ value, (w.step (.update left op right)).2.find? left = some { a with value }
  operand : (w.step (.update left op right)).2.find? right = some b
  answer : ∀ target, (w.step (.combine target left op right)).1 = (w.step (.update left op right)).1
  made : ∀ target, (∀ cause, (w.step (.update left op right)).1 ≠ .refused cause) →
    (w.step (.combine target left op right)).2.find? target =
      (w.step (.update left op right)).2.find? left
  others : ∀ target name, name ≠ target →
    (w.step (.combine target left op right)).2.find? name = w.find? name

theorem leavesOperands (leftFound : w.find? left = some a) (rightFound : w.find? right = some b)
    (distinct : left ≠ right) (op : Operation) : w.LeavesOperands left op right a b := by
  have ends := fun target => arithmetic_eq leftFound rightFound target op
  cases applied : BoundedInt.apply op a b with
  | error cause =>
      rw [applied] at ends
      constructor
      all_goals simp only [step, ends]
      · exact fun _ _ => trivial
      · exact ⟨a.value, leftFound⟩
      · exact rightFound
      · exact fun _ => trivial
      · exact fun _ answered => absurd rfl (answered cause)
      · exact fun _ _ _ => trivial
  | ok c =>
      obtain ⟨value, rfl⟩ := BoundedInt.withValue_of_apply applied
      rw [applied] at ends
      constructor
      all_goals simp only [step, ends]
      · intro _ told
        cases told
      · exact ⟨value, by simp⟩
      · simp [distinct.symm, rightFound]
      · exact fun _ => trivial
      · simp
      · intro target name other
        simp [other]

/-- Between the bounds of a word, an update is the operation on integers, or it is refused. -/
theorem step_update_eq (leftFound : w.find? left = some a) (rightFound : w.find? right = some b)
    (full : a.FullRange) (op : Operation) :
    w.step (.update left op right) =
      if op.divides ∧ b.value.toInt = 0 then (.refused (.zeroDivisor a.name), w)
      else if Fits (op.eval a.value.toInt b.value.toInt) then
        (.stored a.name (BoundedInt.compute op a.value b.value).value,
          w.setVariable left { a with value := (BoundedInt.compute op a.value b.value).value })
      else (.refused (.overflow a.name), w) := by
  rw [step, arithmetic_eq leftFound rightFound, BoundedInt.apply, full.applyCalc_eq]
  by_cases zero : op.divides ∧ b.value.toInt = 0
  · simp only [if_pos zero]
  by_cases held : Fits (op.eval a.value.toInt b.value.toInt)
  · simp only [if_neg zero, if_pos held]
  · simp only [if_neg zero, if_neg held]

/-- Arithmetic of a variable with the bounds of a word is that of the integers.  It is refused
exactly for a zero divisor and for a result that no word can hold, and no test computes anything
that no word can hold. -/
theorem full_range_arithmetic_is_exact (leftFound : w.find? left = some a)
    (rightFound : w.find? right = some b) (distinct : left ≠ right) (full : a.FullRange)
    (op : Operation) :
    let x := a.value.toInt
    let y := b.value.toInt
    let updated := w.step (.update left op right)
    (op ≠ .mod →
        (updated.1 = .refused (.zeroDivisor a.name) ↔ op = .div ∧ y = 0) ∧
        (updated.1 = .refused (.overflow a.name) ↔ ¬Fits (op.eval x y)) ∧
        (¬(op = .div ∧ y = 0) → Fits (op.eval x y) → ∃ value : Word, value.toInt = op.eval x y ∧
          updated = (.stored a.name value, w.setVariable left { a with value })) ∧
        (op = .div → (¬Fits (op.eval x y) ↔ x = -2147483648 ∧ y = -1)) ∧
        (BoundedInt.applyCalc op a b).exact = true) ∧
      (BoundedInt.can op a b).exact = true ∧ w.LeavesOperands left op right a b := by
  intro x y updated
  have ends : updated = _ := step_update_eq leftFound rightFound full op
  refine ⟨fun exactly => ?_, ?_, leavesOperands leftFound rightFound distinct op⟩
  · have divides : op.divides ↔ op = .div := or_iff_left exactly
    have quotient : op = .div → (Fits (op.eval x y) ↔ ¬(x = -2147483648 ∧ y = -1)) := by
      rintro rfl
      exact Word.fits_tdiv_iff (Word.fits_toInt a.value)
    -- a quotient by zero counts as one that a word can hold, so there is one refusal at most
    have held : op = .div ∧ y = 0 → Fits (op.eval x y) := fun zero =>
      (quotient zero.1).mpr (by omega)
    simp only [divides] at ends
    refine ⟨?_, ?_, fun nonzero fits => ⟨_, BoundedInt.toInt_compute op _ _ fits, ?_⟩, fun divided => ?_,
      full.exact_applyCalc exactly b⟩
    · rw [ends]
      split
      · exact iff_of_true rfl ‹_›
      · refine iff_of_false ?_ ‹_›
        split <;> simp
    · rw [ends]
      split
      · exact iff_of_false (by simp) (not_not_intro (held ‹_›))
      split
      · exact iff_of_false (by simp) (not_not_intro ‹_›)
      · exact iff_of_true rfl ‹_›
    · rw [ends, if_neg nonzero, if_pos fits]
    · rw [quotient divided, Classical.not_not]
  · exact (BoundedInt.can_decides full.within op).exact.mpr (full.testDefined op b)

/-! ### The least word, divided by minus one -/

def minusOne : BoundedInt :=
  { name := "b", value := -1 }

def extremes : Workspace :=
  { bindings := [("a", BoundedInt.lowest), ("b", minusOne)] }

/-- The quotient is refused, and both variables stay. -/
theorem full_range_arithmetic_is_exact_lowest :
    BoundedInt.lowest.FullRange ∧
      (extremes.step (.update "a" .div "b")).1 = .refused (.overflow "a") ∧
      (BoundedInt.applyCalc .div BoundedInt.lowest minusOne).exact = true ∧
      extremes.LeavesOperands "a" .div "b" BoundedInt.lowest minusOne := by
  have full : BoundedInt.lowest.FullRange := ⟨rfl, rfl⟩
  obtain ⟨known, -, leaves⟩ :=
    full_range_arithmetic_is_exact (w := extremes) (a := BoundedInt.lowest) (b := minusOne) rfl rfl
      (by decide : "a" ≠ "b") full .div
  obtain ⟨-, overflows, -, -, exact⟩ := known (by decide)
  exact ⟨full, overflows.mpr (by decide), exact, leaves⟩

end Workspace

end GridCommons.Script
