import GridCommons.Proofs.Words
import GridCommons.Script.Workspace

/-!
Contract: when the bounds of a variable hold.

Owns:
- `Calc.Decides`: where a test of words is exact, and what it tells there;
- for the test of each operation, both of these in integers;
- what an operation on stored variables answers and stores;
- the exact condition under which an operation either refuses or keeps its variable within
  bounds, with every word operation on the way defined.

The tests for sums and differences compute with the bounds, the test for products divides them,
and those for quotients and remainders do not look at the result.  So the condition differs from
operation to operation.
-/

namespace GridCommons.Script

open Word (Fits)

/-! ## Tests -/

namespace Calc

/-- The test is exact where it is `defined`, and there it tells whether something `holds`. -/
structure Decides (test : Calc Bool) (defined holds : Prop) : Prop where
  exact : test.exact = true ↔ defined
  value : defined → (test.value = true ↔ holds)

namespace Decides

variable {first second : Calc Bool} {defined defined' holds holds' : Prop}

/-- A test may be told in other words where it is defined. -/
theorem congr (decides : first.Decides defined holds) (domain : defined ↔ defined')
    (same : defined → (holds ↔ holds')) : first.Decides defined' holds' where
  exact := decides.exact.trans domain
  value inside := (decides.value (domain.mpr inside)).trans (same (domain.mpr inside))

theorem pure {answer : Bool} (tells : answer = true ↔ holds) :
    (Pure.pure answer : Calc Bool).Decides True holds where
  exact := by simp
  value _ := tells

/-- A test against a limit that is computed is defined where the limit is. -/
theorem of_limit (op : Operation) (left right : Word) (tells : Int → Prop) {test : Word → Bool}
    (tested : ∀ limit : Word, test limit = true ↔ tells limit.toInt) :
    (do let limit ← BoundedInt.compute op left right; return test limit).Decides
      (op.Defined left.toInt right.toInt) (tells (op.eval left.toInt right.toInt)) where
  exact := by simp [BoundedInt.compute_exact_iff]
  value inside := by simp [tested, BoundedInt.toInt_compute op left right inside.fits_eval]

/-- Of two tests that must both fail, the second is made only if the first does. -/
theorem neither (before : first.Decides defined holds) (after : second.Decides defined' holds') :
    (do if ← first then return false else return !(← second)).Decides
      (defined ∧ (¬holds → defined')) (¬holds ∧ ¬holds') where
  exact := by
    rw [Calc.bind_exact, Bool.and_eq_true, before.exact]
    refine and_congr_right fun inside => ?_
    rw [← before.value inside]
    cases first.value <;> simp [after.exact]
  value := by
    rintro ⟨inside, later⟩
    rw [Calc.bind_value, ← before.value inside]
    cases told : first.value with
    | true => simp
    | false => 
      have := after.value (later (by simp [← before.value inside, told]))
      simp [← this]

end Decides

end Calc

/-! ## Bounds -/

namespace BoundedInt

variable {op : Operation} {a b : BoundedInt}

/-- The bounds of a variable let it have a value. -/
def Allows (a : BoundedInt) (n : Int) : Prop :=
  a.lower.toInt ≤ n ∧ n ≤ a.upper.toInt

theorem inBounds_iff : a.inBounds = true ↔ a.Allows a.value.toInt := by
  simp [inBounds, Allows, Int32.le_iff_toInt_le]

theorem Allows.fits {n : Int} (allows : a.Allows n) : Fits n :=
  .of_between (Word.fits_toInt a.lower) (Word.fits_toInt a.upper) allows.1 allows.2

/-- Every word operation behind the test for an operation is defined. -/
def TestDefined (op : Operation) (a : BoundedInt) (y : Int) : Prop :=
  match op with
  | .add => (0 < y → Fits (a.upper.toInt - y)) ∧ (y < 0 → Fits (a.lower.toInt - y))
  | .sub => (y < 0 → Fits (a.upper.toInt + y)) ∧ (0 < y → Fits (a.lower.toInt + y))
  | .mul => ¬(a.upper.toInt = -2147483648 ∧ y = -1)
  | .div | .mod => True

/-- The test for an operation lets the operand pass. -/
def TestPasses (op : Operation) (a : BoundedInt) (y : Int) : Prop :=
  match op with
  | .add => a.Allows (a.value.toInt + y)
  | .sub => a.Allows (a.value.toInt - y)
  | .mul => y = 0 ∨ a.Allows (a.value.toInt * y)
  | .div => y ≠ 0 ∧ ¬(a.value.toInt = a.lower.toInt ∧ y = -1)
  | .mod => y ≠ 0

section Tests

variable (within : a.Allows a.value.toInt)

theorem positive_iff {v : Word} : v > 0 ↔ 0 < v.toInt := by
  rw [gt_iff_lt, Int32.lt_iff_toInt_lt, Int32.toInt_zero]

theorem negative_iff {v : Word} : v < 0 ↔ v.toInt < 0 := by
  rw [Int32.lt_iff_toInt_lt, Int32.toInt_zero]

theorem zero_iff {v : Word} : v = 0 ↔ v.toInt = 0 := by
  rw [← Int32.toInt_inj, Int32.toInt_zero]

theorem not_above_iff {v limit : Word} : (!decide (v > limit)) = true ↔ v.toInt ≤ limit.toInt := by
  simp [Int32.lt_iff_toInt_lt]

theorem not_below_iff {v limit : Word} : (!decide (v < limit)) = true ↔ limit.toInt ≤ v.toInt := by
  simp [Int32.lt_iff_toInt_lt]

theorem above_iff {v limit : Word} : decide (v > limit) = true ↔ limit.toInt < v.toInt := by
  simp [Int32.lt_iff_toInt_lt]

theorem below_iff {v limit : Word} : decide (v < limit) = true ↔ v.toInt < limit.toInt := by
  simp [Int32.lt_iff_toInt_lt]

include within

/-- The test for a sum is exact wherever no word overflows. -/
theorem canAdd_decides : (canAdd a b).Decides (TestDefined .add a b.value.toInt)
    (TestPasses .add a b.value.toInt) := by
  obtain ⟨least, most⟩ := within
  unfold canAdd TestDefined TestPasses Allows
  simp only [positive_iff, negative_iff]
  split
  · refine (Calc.Decides.of_limit .sub a.upper b.value (a.value.toInt ≤ ·)
      fun _ => not_above_iff).congr ?_ ?_
    all_goals simp only [Operation.Defined, Operation.eval]; grind
  split
  · refine (Calc.Decides.of_limit .sub a.lower b.value (· ≤ a.value.toInt)
      fun _ => not_below_iff).congr ?_ ?_
    all_goals simp only [Operation.Defined, Operation.eval]; grind
  · refine (Calc.Decides.pure (iff_true_intro rfl)).congr ?_ ?_ <;> grind

/-- The test for a difference is exact wherever no word overflows. -/
theorem canSub_decides : (canSub a b).Decides (TestDefined .sub a b.value.toInt)
    (TestPasses .sub a b.value.toInt) := by
  obtain ⟨least, most⟩ := within
  unfold canSub TestDefined TestPasses Allows
  simp only [positive_iff, negative_iff]
  split
  · refine (Calc.Decides.of_limit .add a.upper b.value (a.value.toInt ≤ ·)
      fun _ => not_above_iff).congr ?_ ?_
    all_goals simp only [Operation.Defined, Operation.eval]; grind
  split
  · refine (Calc.Decides.of_limit .add a.lower b.value (· ≤ a.value.toInt)
      fun _ => not_below_iff).congr ?_ ?_
    all_goals simp only [Operation.Defined, Operation.eval]; grind
  · refine (Calc.Decides.pure (iff_true_intro rfl)).congr ?_ ?_ <;> grind

/-- A positive value passes a bound exactly if the bounds do not allow the product. -/
theorem productPasses_decides (factor : b.value.toInt ≠ 0) :
    (productPasses a b).Decides True
      (0 < a.value.toInt ∧ ¬a.Allows (a.value.toInt * b.value.toInt)) := by
  obtain ⟨least, most⟩ := within
  unfold productPasses
  simp only [positive_iff, negative_iff]
  split
  next value =>
    split
    next upward =>
      have inside : Fits (a.upper.toInt.tdiv b.value.toInt) :=
        (Word.fits_tdiv_iff (Word.fits_toInt a.upper)).mpr (by omega)
      refine (Calc.Decides.of_limit .div a.upper b.value (· < a.value.toInt)
        fun _ => above_iff).congr ?_ ?_
      · exact iff_true_intro ⟨factor, inside⟩
      · exact fun _ => (high_tdiv_lt_iff least most value upward).trans (and_iff_right value).symm
    next notUpward =>
      have downward : b.value.toInt < 0 := by omega
      have inside : Fits (a.lower.toInt.tdiv a.value.toInt) :=
        (Word.fits_tdiv_iff (Word.fits_toInt a.lower)).mpr (by omega)
      rw [if_pos downward]
      refine (Calc.Decides.of_limit .div a.lower a.value (b.value.toInt < ·)
        fun _ => below_iff).congr ?_ ?_
      · exact iff_true_intro ⟨by omega, inside⟩
      · exact fun _ => (lt_low_tdiv_value_iff most value downward).trans (and_iff_right value).symm
  next notPositive => exact .pure (by simp [notPositive])

/-- Then a negative value falls short exactly if the bounds do not allow the product. -/
theorem productFallsShort_decides (factor : b.value.toInt ≠ 0) :
    (productFallsShort a b).Decides (TestDefined .mul a b.value.toInt)
      (a.value.toInt < 0 ∧ ¬a.Allows (a.value.toInt * b.value.toInt)) := by
  obtain ⟨least, most⟩ := within
  unfold productFallsShort TestDefined
  simp only [positive_iff, negative_iff]
  split
  next upward =>
    have inside : Fits (a.lower.toInt.tdiv b.value.toInt) :=
      (Word.fits_tdiv_iff (Word.fits_toInt a.lower)).mpr (by omega)
    refine (Calc.Decides.of_limit .div a.lower b.value (a.value.toInt < ·)
      fun _ => below_iff).congr ?_ ?_
    · exact iff_of_true ⟨factor, inside⟩ (by omega)
    · exact fun _ => lt_low_tdiv_iff least most upward
  next notUpward =>
    have downward : b.value.toInt < 0 := by omega
    rw [if_pos downward]
    refine (Calc.Decides.of_limit .div a.upper b.value (a.value.toInt < ·)
      fun _ => below_iff).congr ?_ ?_
    · exact (and_iff_right factor).trans (Word.fits_tdiv_iff (Word.fits_toInt a.upper))
    · exact fun _ => lt_high_tdiv_iff least most downward

/-- The test for a product is exact wherever no word overflows. -/
theorem canMul_decides : (canMul a b).Decides (TestDefined .mul a b.value.toInt)
    (TestPasses .mul a b.value.toInt) := by
  unfold canMul
  simp only [zero_iff]
  split
  next zero =>
    -- no limit is computed, and a product of zero is let pass whatever the bounds
    have passes : TestPasses .mul a b.value.toInt := by
      rcases zero with value | factor
      · right
        rw [value, Int.zero_mul, ← value]
        exact within
      · exact .inl factor
    have defined : TestDefined .mul a b.value.toInt := by
      rintro ⟨lowest, factor⟩
      have := within.2
      omega
    exact (Calc.Decides.pure (iff_of_true rfl passes)).congr (iff_of_true trivial defined)
      fun _ => Iff.rfl
  next nonzero =>
    obtain ⟨value, factor⟩ := not_or.mp nonzero
    have before := productPasses_decides within factor
    have after := productFallsShort_decides within factor
    refine (before.neither after).congr ⟨fun inside => ?_, fun inside => ⟨trivial, fun _ => inside⟩⟩ ?_
    · rintro ⟨lowest, downward⟩
      refine inside.2 ?_ ⟨lowest, downward⟩
      have := within.2
      omega
    · rintro -
      unfold TestPasses
      have := Int.lt_or_gt_of_ne value
      grind

/-- The test for an operation computes only where it must, and lets pass what it should. -/
theorem can_decides (op : Operation) :
    (can op a b).Decides (TestDefined op a b.value.toInt) (TestPasses op a b.value.toInt) := by
  cases op with
  | add => exact canAdd_decides within
  | sub => exact canSub_decides within
  | mul => exact canMul_decides within
  | div =>
      have minusOne : b.value = -1 ↔ b.value.toInt = -1 := Int32.toInt_inj.symm
      have lowest : a.value = a.lower ↔ a.value.toInt = a.lower.toInt := Int32.toInt_inj.symm
      refine .pure ?_
      simp only [TestPasses, zero_iff, minusOne, lowest]
      grind
  | mod => exact .pure (by simp [TestPasses, zero_iff])

end Tests

/-! ## Operations -/

theorem dividesByZero_iff : dividesByZero op b = true ↔ op.divides ∧ b.value.toInt = 0 := by
  simp [dividesByZero, Operation.divides, zero_iff]

/-- A division by zero is refused before the test. -/
theorem applyCalc_of_zero (zero : dividesByZero op b = true) :
    applyCalc op a b = ⟨.error (.zeroDivisor a.name), true⟩ := by
  rw [applyCalc, if_pos zero]
  rfl

/-- With a divisor that is not zero, the test decides alone. -/
theorem applyCalc_of_nonzero (nonzero : ¬dividesByZero op b = true) :
    applyCalc op a b =
      if (can op a b).value then
        ⟨.ok { a with value := (compute op a.value b.value).value },
          (can op a b).exact && (compute op a.value b.value).exact⟩
      else ⟨.error (.overflow a.name), (can op a b).exact⟩ := by
  rw [applyCalc, if_neg nonzero]
  show Calc.mk _ _ = _
  cases (can op a b).value <;> simp [Pure.pure, Bind.bind]

/-- An operation changes nothing of a variable but its value. -/
theorem withValue_of_apply {c : BoundedInt} (applied : apply op a b = .ok c) :
    ∃ value, c = { a with value } := by
  by_cases zero : dividesByZero op b = true
  · rw [apply, applyCalc_of_zero zero] at applied
    cases applied
  · rw [apply, applyCalc_of_nonzero zero] at applied
    split at applied
    · cases applied
      exact ⟨_, rfl⟩
    · cases applied

/-- An operation keeps a variable within its bounds, or refuses, exactly if its test is defined
and lets nothing else pass. -/
theorem stays_iff (within : a.Allows a.value.toInt) :
    ((applyCalc op a b).exact = true ∧ ∀ c, apply op a b = .ok c → c.inBounds = true) ↔
      TestDefined op a b.value.toInt ∧
        (TestPasses op a b.value.toInt → op.Defined a.value.toInt b.value.toInt ∧
          a.Allows (op.eval a.value.toInt b.value.toInt)) := by
  have test := can_decides (b := b) within op
  by_cases zero : dividesByZero op b = true
  · obtain ⟨rfl | rfl, divisor⟩ := dividesByZero_iff.mp zero
    all_goals simp [apply, applyCalc_of_zero zero, TestDefined, TestPasses, divisor]
  rw [apply, applyCalc_of_nonzero zero]
  by_cases defined : TestDefined op a b.value.toInt
  · have exactly := test.exact.mpr defined
    by_cases passes : (can op a b).value = true
    · have inside : ∀ held : op.Defined a.value.toInt b.value.toInt,
          (compute op a.value b.value).value.toInt = op.eval a.value.toInt b.value.toInt := fun held =>
        toInt_compute op a.value b.value held.fits_eval
      simp only [passes, exactly, ↓reduceIte, Bool.true_and, compute_exact_iff, Except.ok.injEq,
        forall_eq', inBounds_iff, defined, (test.value defined).mp passes, true_and, forall_const]
      refine and_congr_right fun held => ?_
      rw [inside held]
      rfl
    · have refused := mt (test.value defined).mpr passes
      simp [passes, exactly, defined, refused]
  · have inexact : (can op a b).exact = false := by simpa using mt test.exact.mp defined
    cases (can op a b).value <;> simp [inexact, defined]

/-! ## The condition -/

instance (a : BoundedInt) (n : Int) : Decidable (a.Allows n) :=
  inferInstanceAs (Decidable (_ ∧ _))

/-- The operation keeps the variable within its bounds, or refuses.  The room for a sum or a
difference is one that a word can hold; zero is allowed as a product; a quotient or remainder is
allowed where it is not refused, and a word can hold the quotient. -/
def KeepsWithin (op : Operation) (a : BoundedInt) (y : Int) : Prop :=
  match op with
  | .add | .sub => TestDefined op a y
  | .mul => (y = 0 → a.Allows 0) ∧ ¬(a.upper.toInt = -2147483648 ∧ y = -1)
  | .div => y ≠ 0 → ¬(a.value.toInt = a.lower.toInt ∧ y = -1) → a.Allows (a.value.toInt.tdiv y)
  | .mod => y ≠ 0 → a.Allows (a.value.toInt.tmod y) ∧ ¬(a.value.toInt = -2147483648 ∧ y = -1)

/-- An operation keeps within the bounds exactly if a passed test means that it does. -/
theorem keepsWithin_iff {y : Int} :
    KeepsWithin op a y ↔
      TestDefined op a y ∧
        (TestPasses op a y → op.Defined a.value.toInt y ∧ a.Allows (op.eval a.value.toInt y)) := by
  have held := Word.fits_tdiv_iff (y := y) (Word.fits_toInt a.value)
  cases op with
  | add | sub => exact (and_iff_left fun allows => ⟨allows.fits, allows⟩).symm
  | mul =>
      simp only [KeepsWithin, TestDefined, TestPasses, Operation.Defined, Operation.eval]
      constructor
      · rintro ⟨zero, defined⟩
        refine ⟨defined, ?_⟩
        rintro (rfl | allows)
        · rw [Int.mul_zero]
          exact ⟨(zero rfl).fits, zero rfl⟩
        · exact ⟨allows.fits, allows⟩
      · rintro ⟨defined, passes⟩
        refine ⟨?_, defined⟩
        rintro rfl
        simpa using (passes (.inl rfl)).2
  | div =>
      simp only [KeepsWithin, TestDefined, TestPasses, Operation.Defined, Operation.eval, true_and]
      constructor
      · rintro keeps ⟨divisor, other⟩
        have allows := keeps divisor other
        exact ⟨⟨divisor, allows.fits⟩, allows⟩
      · exact fun keeps divisor other => (keeps ⟨divisor, other⟩).2
  | mod =>
      simp only [KeepsWithin, TestDefined, TestPasses, Operation.Defined, Operation.eval, true_and, held]
      grind

end BoundedInt

/-! ## Stored variables -/

namespace Workspace

variable {w : Workspace} {left right : String} {a b : BoundedInt}

theorem lookup_store {α : Type} (name other : String) (entry : α) (entries : List (String × α)) :
    lookup other (store name entry entries) =
      if other = name then some entry else lookup other entries := by
  unfold lookup store
  rw [List.find?_cons]
  by_cases same : other = name
  · simp [same]
  · have passes : (name == other) = false := by simpa using Ne.symm same
    rw [passes, if_neg same, List.find?_filter]
    dsimp only
    congr 2
    funext entry
    by_cases here : entry.1 = other <;> simp [here, same]

@[simp] theorem find?_setVariable (w : Workspace) (name other : String) (a : BoundedInt) :
    (w.setVariable name a).find? other = if other = name then some a else w.find? other :=
  lookup_store name other a w.bindings

/-- An operation on two stored variables stores what it gives, or answers why it is refused. -/
theorem arithmetic_eq (leftFound : w.find? left = some a) (rightFound : w.find? right = some b)
    (target : String) (op : Operation) :
    w.arithmetic target left op right =
      match BoundedInt.apply op a b with
      | .ok c => (.stored c.name c.value, w.setVariable target c)
      | .error cause => (.refused cause, w) := by
  cases applied : BoundedInt.apply op a b <;> simp [arithmetic, leftFound, rightFound, applied]

/-- An operation that changes a variable within its bounds refuses or keeps it there, with every
word operation on the way defined, exactly under the condition for that operation. -/
theorem update_keeps_bounds_iff (leftFound : w.find? left = some a)
    (rightFound : w.find? right = some b) (within : a.inBounds = true) (op : Operation) :
    ((BoundedInt.applyCalc op a b).exact = true ∧
        ((∃ cause, w.step (.update left op right) = (.refused cause, w)) ∨
          ∃ value, ({ a with value } : BoundedInt).inBounds = true ∧
            w.step (.update left op right) =
              (.stored a.name value, w.setVariable left { a with value }))) ↔
      BoundedInt.KeepsWithin op a b.value.toInt := by
  have allows := BoundedInt.inBounds_iff.mp within
  rw [BoundedInt.keepsWithin_iff, ← BoundedInt.stays_iff allows]
  refine and_congr_right fun _ => ?_
  rw [step, arithmetic_eq leftFound rightFound]
  cases applied : BoundedInt.apply op a b with
  | error cause => exact iff_of_true (.inl ⟨cause, rfl⟩) (by simp)
  | ok c =>
      obtain ⟨value, rfl⟩ := BoundedInt.withValue_of_apply applied
      constructor
      · rintro (⟨cause, told⟩ | ⟨_, inside, ⟨⟩⟩)
        · cases told
        · rintro _ ⟨⟩
          exact inside
      · intro inside
        exact .inr ⟨value, inside _ rfl, rfl⟩

/-! ### A variable between 5 and 10 -/

def fiveToTen : BoundedInt :=
  { name := "a", value := 7, lower := 5, upper := 10 }

def seven : BoundedInt :=
  { name := "b", value := 7 }

def narrow : Workspace :=
  { bindings := [("a", fiveToTen), ("b", seven)] }

/-- The product is refused, so the bounds are kept. -/
theorem update_keeps_bounds_iff_product :
    BoundedInt.KeepsWithin .mul fiveToTen 7 ∧
      (BoundedInt.applyCalc .mul fiveToTen seven).exact = true ∧
        ((∃ cause, narrow.step (.update "a" .mul "b") = (.refused cause, narrow)) ∨
          ∃ value, ({ fiveToTen with value } : BoundedInt).inBounds = true ∧
            narrow.step (.update "a" .mul "b") =
              (.stored "a" value, narrow.setVariable "a" { fiveToTen with value })) := by
  have keeps : BoundedInt.KeepsWithin .mul fiveToTen 7 := ⟨by decide, by decide⟩
  exact ⟨keeps, (update_keeps_bounds_iff rfl rfl rfl .mul).mpr keeps⟩

/-- The variable is declared, bounded, updated, and asked whether it is within its bounds. -/
def updatesWithin (op : Operation) (operand : Word) : List Step :=
  [.declare "a" 7, .setBounds "a" 5 10, .declare "b" operand, .update "a" op "b", .validate "a"]

/-- The remainder, the quotient and the product with zero leave the bounds, and a sum may be tested
against a room that no word can hold. -/
theorem bounds_are_left :
    run (updatesWithin .mod 7) =
        [.stored "a" 7, .flag true, .stored "b" 7, .stored "a" 0, .flag false] ∧
      run (updatesWithin .div 7) =
        [.stored "a" 7, .flag true, .stored "b" 7, .stored "a" 1, .flag false] ∧
      run (updatesWithin .mul 0) =
        [.stored "a" 7, .flag true, .stored "b" 0, .stored "a" 0, .flag false] ∧
      fiveToTen.inBounds = true ∧
      (BoundedInt.applyCalc .add fiveToTen { seven with value := Word.least }).exact = false := by
  decide

end Workspace

end GridCommons.Script
