import Mathlib.Data.List.Forall2
import Mathlib.Data.List.TakeWhile
import GridCommons.Text.Pattern

/-!
Contract: what the pattern of the texts that hold a part accepts.

Owns:
- characters that are the same up to the case of plain letters, and texts that hold others, or
  end in them, up to it;
- which texts fit a part between runs of any characters;
- that a part is read back as its own characters, whatever marks stand in it;
- that its pattern accepts a text exactly if the text holds the part, and where a null character
  cuts the part short, exactly if the text ends in what is left of it;
- which parts are found in the same texts.
-/

namespace GridCommons.Text

/-! ## Plain letters -/

/-- The characters are the same, or they are one plain letter in both cases. -/
def SameLetter (c d : Char) : Prop :=
  c = d ∨ (c.isUpper = true ∧ d.toNat = c.toNat + 32) ∨ (d.isUpper = true ∧ c.toNat = d.toNat + 32)

theorem isUpper_iff {c : Char} : c.isUpper = true ↔ 65 ≤ c.toNat ∧ c.toNat ≤ 90 := by
  have unfolded : c.isUpper = decide (65 ≤ c.val ∧ c.val ≤ 90) := rfl
  rw [unfolded, decide_eq_true_eq]
  exact and_congr UInt32.le_iff_toNat_le UInt32.le_iff_toNat_le

theorem toNat_toLower (c : Char) :
    c.toLower.toNat = if c.isUpper = true then c.toNat + 32 else c.toNat := by
  unfold Char.toLower
  split
  · rename_i upper
    have small : c.toNat ≤ 90 := UInt32.le_iff_toNat_le.mp upper.2
    have raised : (c.val + ('a'.val - 'A'.val)).toNat = c.toNat + 32 := by
      rw [UInt32.toNat_add]
      exact Nat.mod_eq_of_lt (Nat.lt_of_le_of_lt (Nat.add_le_add_right small 32) (by decide))
    exact raised.trans (if_pos (decide_eq_true upper)).symm
  · rename_i other
    exact (if_neg fun upper => other (of_decide_eq_true upper)).symm

/-- Plain letters, and no others, are compared in lower case. -/
theorem sameLetter_iff {c d : Char} : SameLetter c d ↔ c.toLower = d.toLower := by
  rw [SameLetter, ← Char.toNat_inj, ← Char.toNat_inj, toNat_toLower, toNat_toLower]
  simp only [isUpper_iff]
  split <;> split <;> omega

variable {text part : List Char}

/-- The texts are the same up to the case of plain letters. -/
abbrev SameLetters : List Char → List Char → Prop :=
  List.Forall₂ SameLetter

theorem sameLetters_iff {s t : List Char} :
    SameLetters s t ↔ s.map Char.toLower = t.map Char.toLower := by
  have folds : SameLetter = fun c d => c.toLower = d.toLower :=
    funext fun c => funext fun d => propext sameLetter_iff
  rw [SameLetters, folds, ← List.forall₂_eq_eq_eq, List.forall₂_map_left_iff,
    List.forall₂_map_right_iff]

theorem sameLetters_refl (s : List Char) : SameLetters s s :=
  sameLetters_iff.mpr rfl

theorem SameLetters.symm {s t : List Char} (same : SameLetters s t) : SameLetters t s :=
  sameLetters_iff.mpr (sameLetters_iff.mp same).symm

theorem SameLetters.trans {s t u : List Char} (same : SameLetters s t) (next : SameLetters t u) :
    SameLetters s u :=
  sameLetters_iff.mpr ((sameLetters_iff.mp same).trans (sameLetters_iff.mp next))

/-- A part stands in a text in one piece, up to the case of plain letters. -/
def Holds (text part : List Char) : Prop :=
  ∃ before middle after, text = before ++ (middle ++ after) ∧ SameLetters part middle

/-- A text ends in a part, up to the case of plain letters. -/
def EndsIn (text part : List Char) : Prop :=
  ∃ before middle, text = before ++ middle ∧ SameLetters part middle

/-- What stands at the end stands somewhere. -/
theorem EndsIn.holds (ends : EndsIn text part) : Holds text part := by
  obtain ⟨before, middle, rfl, same⟩ := ends
  exact ⟨before, middle, [], by rw [List.append_nil], same⟩

theorem endsIn_self (text : List Char) : EndsIn text text :=
  ⟨[], text, rfl, sameLetters_refl text⟩

/-- Texts that hold each other are the same, up to the case of plain letters. -/
theorem Holds.antisymm (holds : Holds text part) (back : Holds part text) : SameLetters part text := by
  obtain ⟨before, middle, after, rfl, same⟩ := holds
  obtain ⟨before', middle', after', rfl, same'⟩ := back
  have sizes := same.length_eq
  have sizes' := same'.length_eq
  simp only [List.length_append] at sizes sizes'
  have noBefore : before = [] := List.length_eq_zero_iff.mp (by omega)
  have noAfter : after = [] := List.length_eq_zero_iff.mp (by omega)
  rw [noBefore, noAfter, List.nil_append, List.append_nil]
  exact same

theorem Holds.of_same {part' : List Char} (same : SameLetters part part') (holds : Holds text part) :
    Holds text part' := by
  obtain ⟨before, middle, after, rfl, there⟩ := holds
  exact ⟨before, middle, after, rfl, same.symm.trans there⟩

theorem EndsIn.of_same {part' : List Char} (same : SameLetters part part') (ends : EndsIn text part) :
    EndsIn text part' := by
  obtain ⟨before, middle, rfl, there⟩ := ends
  exact ⟨before, middle, rfl, same.symm.trans there⟩

theorem EndsIn.last {c d : Char} (ends : EndsIn (text ++ [d]) (part ++ [c])) : SameLetter c d := by
  obtain ⟨before, middle, split, same⟩ := ends
  have folded := congrArg (fun s => (s.map Char.toLower).getLast?) split
  simp only [List.map_append, ← sameLetters_iff.mp same] at folded
  simp only [List.map_cons, List.map_nil, ← List.append_assoc, List.getLast?_concat] at folded
  exact sameLetter_iff.mpr (Option.some.inj folded).symm

namespace Pattern

/-! ## Fitting pieces -/

/-- A later test passes exactly if one of the ends of the text passes it. -/
theorem passesLater_iff {test : List Char → Bool} :
    passesLater test text = true ↔ ∃ before rest, text = before ++ rest ∧ test rest = true := by
  induction text with
  | nil => simp [passesLater]
  | cons c text inductionHypothesis =>
      rw [passesLater, Bool.or_eq_true, inductionHypothesis]
      constructor
      · rintro (here | ⟨before, rest, rfl, passes⟩)
        · exact ⟨[], _, rfl, here⟩
        · exact ⟨c :: before, rest, rfl, passes⟩
      · rintro ⟨before, rest, split, passes⟩
        rcases List.cons_eq_append_iff.mp split with ⟨rfl, rfl⟩ | ⟨later, rfl, rfl⟩
        · exact .inl passes
        · exact .inr ⟨later, rest, rfl, passes⟩

theorem fits_anyRun {pieces : List Piece} :
    fits (.anyRun :: pieces) text = true ↔ ∃ before rest, text = before ++ rest ∧ fits pieces rest = true := by
  rw [fits]
  exact passesLater_iff

/-- Characters that stand for themselves fit themselves, up to the case of plain letters. -/
theorem fits_exactly {pieces : List Piece} :
    fits (part.map .exactly ++ pieces) text = true ↔
      ∃ middle rest, text = middle ++ rest ∧ SameLetters part middle ∧ fits pieces rest = true := by
  induction part generalizing text with
  | nil => simp [SameLetters]
  | cons c part inductionHypothesis =>
      cases text with
      | nil => simp [fits, SameLetters]
      | cons d text =>
          rw [List.map_cons, List.cons_append, fits, Bool.and_eq_true, beq_iff_eq, ← sameLetter_iff,
            inductionHypothesis]
          constructor
          · rintro ⟨same, middle, rest, rfl, sameRest, fitting⟩
            exact ⟨d :: middle, rest, rfl, .cons same sameRest, fitting⟩
          · rintro ⟨middle, rest, split, alike, fitting⟩
            obtain ⟨e, middle, same, sameRest, rfl⟩ := List.forall₂_cons_left_iff.mp alike
            obtain ⟨rfl, rfl⟩ := List.cons.inj split
            exact ⟨same, middle, rest, rfl, sameRest, fitting⟩

/-- A part between two runs of any characters fits the texts that hold it. -/
theorem fits_between_iff :
    fits (.anyRun :: (part.map .exactly ++ [.anyRun])) text = true ↔ Holds text part := by
  simp only [fits_anyRun, fits_exactly]
  constructor
  · rintro ⟨before, _, rfl, middle, after, rfl, same, -⟩
    exact ⟨before, middle, after, rfl, same⟩
  · rintro ⟨before, middle, after, rfl, same⟩
    exact ⟨before, _, rfl, middle, after, rfl, same, after, [], by simp, rfl⟩

instance (text part : List Char) : Decidable (Holds text part) :=
  decidable_of_iff _ fits_between_iff

/-- A part after a run of any characters fits the texts that end in it. -/
theorem fits_after_iff : fits (.anyRun :: part.map .exactly) text = true ↔ EndsIn text part := by
  have whole : ∀ rest, fits (part.map .exactly) rest = true ↔ SameLetters part rest := by
    intro rest
    rw [← List.append_nil (part.map Piece.exactly), fits_exactly]
    constructor
    · rintro ⟨middle, last, rfl, same, empty⟩
      rw [List.isEmpty_iff.mp empty, List.append_nil]
      exact same
    · exact fun same => ⟨rest, [], (List.append_nil rest).symm, same, rfl⟩
  simp only [fits_anyRun, whole, EndsIn]

/-! ## Reading a part back -/

/-- Whatever marks stand in a part, each of its characters is read as itself. -/
theorem read_literally (part rest : List Char) :
    read (part.flatMap literally ++ rest) = (read rest).map (part.map .exactly ++ ·) := by
  induction part with
  | nil => simp
  | cons c part inductionHypothesis =>
      have next : read (literally c ++ (part.flatMap literally ++ rest)) =
          (read (part.flatMap literally ++ rest)).map (.exactly c :: ·) := by
        generalize part.flatMap literally ++ rest = rest
        unfold literally
        split
        · exact read_take c rest
        · rename_i plain
          simp only [Bool.or_eq_true, decide_eq_true_eq, not_or] at plain
          obtain ⟨⟨noTake, noRun⟩, noOne⟩ := plain
          rw [List.singleton_append, read_cons noTake, pieceOf, if_neg noRun, if_neg noOne]
      rw [List.flatMap_cons, List.append_assoc, next, inductionHypothesis, Option.map_map]
      rfl

/-! ## Null characters -/

/-- The text has a null character. -/
def HasNull (s : String) : Prop :=
  '\x00' ∈ s.toList

instance (s : String) : Decidable (HasNull s) :=
  inferInstanceAs (Decidable ('\x00' ∈ s.toList))

theorem isShown_literally {c d : Char} (member : d ∈ literally c) (shown : isShown c = true) :
    isShown d = true := by
  unfold literally at member
  split at member
  · rcases List.mem_pair.mp member with rfl | rfl
    · decide
    · exact shown
  · rwa [List.mem_singleton.mp member]

/-- Writing a part and cutting it at a null character may change places. -/
theorem takeWhile_flatMap_literally (part rest : List Char) :
    (part.flatMap literally ++ rest).takeWhile isShown =
      (part.takeWhile isShown).flatMap literally ++
        if '\x00' ∈ part then [] else rest.takeWhile isShown := by
  induction part with
  | nil => simp
  | cons c part inductionHypothesis =>
      by_cases shown : isShown c = true
      · have differs : '\x00' ≠ c := fun same => by simp [isShown, ← same] at shown
        rw [List.flatMap_cons, List.append_assoc,
          List.takeWhile_append_of_pos fun d member => isShown_literally member shown,
          inductionHypothesis, List.takeWhile_cons_of_pos shown, List.flatMap_cons, List.append_assoc]
        simp [differs]
      · have null : c = '\x00' := by simpa [isShown] using shown
        subst null
        simp [literally, takeMark, runMark, oneMark, isShown]

/-- With a null character in the text, the pattern ends there and lacks the mark at its end. -/
theorem beforeNull_containing (part : String) :
    beforeNull (containing part) =
      runMark :: ((beforeNull part).flatMap literally ++ if HasNull part then [] else [runMark]) := by
  have cut := takeWhile_flatMap_literally part.toList [runMark]
  rw [beforeNull, containing, String.toList_ofList, List.takeWhile_cons_of_pos (by decide)]
  exact congrArg (runMark :: ·) cut

/-- A text without null characters is shown whole. -/
theorem beforeNull_eq {s : String} (plain : ¬HasNull s) : beforeNull s = s.toList := by
  refine List.takeWhile_eq_self_iff.mpr fun c member => ?_
  rw [isShown, decide_eq_true_eq]
  rintro rfl
  exact plain member

/-! ## The pattern of a part -/

/-- A part without null characters is found where it stands, letter by letter. -/
theorem accepts_containing_iff {text part : String} (plain : ¬HasNull part) :
    accepts (containing part) text = true ↔ Holds (beforeNull text) part.toList := by
  have pieces : read (beforeNull (containing part)) =
      some (.anyRun :: (part.toList.map .exactly ++ [.anyRun])) := by
    rw [beforeNull_containing, if_neg plain, beforeNull_eq plain, read_cons (by decide),
      read_literally]
    rfl
  rw [accepts, pieces, ← fits_between_iff]
  rfl

/-- A part that a null character cuts short is found only at the end. -/
theorem accepts_containing_cut_iff {text part : String} (cut : HasNull part) :
    accepts (containing part) text = true ↔ EndsIn (beforeNull text) (beforeNull part) := by
  have pieces : read (beforeNull (containing part)) =
      some (.anyRun :: (beforeNull part).map .exactly) := by
    rw [beforeNull_containing, if_pos cut, read_cons (by decide), read_literally]
    simp [read, pieceOf]
  rw [accepts, pieces, ← fits_after_iff]
  rfl

/-! ## Parts that are found in the same texts -/

theorem beforeNull_ofList {text : List Char} (shown : '\x00' ∉ text) :
    beforeNull (String.ofList text) = text := by
  have plain : ¬HasNull (String.ofList text) := by rwa [HasNull, String.toList_ofList]
  rw [beforeNull_eq plain, String.toList_ofList]

theorem null_not_mem_beforeNull (s : String) : '\x00' ∉ beforeNull s := by
  intro member
  have shown : isShown '\x00' = true := List.mem_takeWhile_imp member
  exact absurd shown (by decide)

/-- A part that is cut short is told from one that is not. -/
theorem exists_accepts_ne {part part' : String} (cut : HasNull part) (plain : ¬HasNull part')
    (nonempty' : part' ≠ "") :
    ∃ text, accepts (containing part) text ≠ accepts (containing part') text := by
  by_contra alike
  push Not at alike
  have agree : ∀ text, '\x00' ∉ text →
      (EndsIn text (beforeNull part) ↔ Holds text part'.toList) := by
    intro text shown
    have same := alike (String.ofList text)
    rwa [Bool.eq_iff_iff, accepts_containing_cut_iff cut, accepts_containing_iff plain,
      beforeNull_ofList shown] at same
  rcases List.eq_nil_or_concat (beforeNull part) with nothing | ⟨first, last, written⟩
  · -- Nothing is left of the part, so that every text ends in it, also the empty one.
    rw [nothing] at agree
    obtain ⟨before, middle, after, split, same⟩ := (agree [] (by simp)).mp (endsIn_self [])
    obtain ⟨-, rest⟩ := List.append_eq_nil_iff.mp split.symm
    rw [(List.append_eq_nil_iff.mp rest).1] at same
    exact nonempty' (String.toList_eq_nil_iff.mp (List.forall₂_nil_right_iff.mp same))
  · -- The other part may be followed by any character, but only one ends the first.
    rw [List.concat_eq_append] at written
    have follows : ∀ d, d ≠ '\x00' → SameLetter last d := by
      intro d shown
      have plain' : '\x00' ∉ part'.toList ++ [d] := by
        simpa [shown.symm, HasNull] using plain
      have ends := (agree (part'.toList ++ [d]) plain').mpr
        ⟨[], part'.toList, [d], rfl, sameLetters_refl _⟩
      rw [written] at ends
      exact ends.last
    have zero := sameLetter_iff.mp (follows '0' (by decide))
    have one := sameLetter_iff.mp (follows '1' (by decide))
    exact absurd (zero.symm.trans one) (by decide)

/-- Parts are found in the same texts exactly if they are the same up to the case of plain
letters, as far as null characters let them be seen. -/
theorem accepts_containing_eq_iff {part part' : String} (nonempty : part ≠ "") (nonempty' : part' ≠ "") :
    (∀ text, accepts (containing part) text = accepts (containing part') text) ↔
      (HasNull part ↔ HasNull part') ∧ SameLetters (beforeNull part) (beforeNull part') := by
  by_cases cut : HasNull part <;> by_cases cut' : HasNull part'
  · have alike_iff : ∀ text, accepts (containing part) text = accepts (containing part') text ↔
        (EndsIn (beforeNull text) (beforeNull part) ↔ EndsIn (beforeNull text) (beforeNull part')) := by
      intro text
      rw [Bool.eq_iff_iff, accepts_containing_cut_iff cut, accepts_containing_cut_iff cut']
    simp only [cut, cut', true_and, alike_iff]
    constructor
    · intro alike
      have first := (alike (String.ofList (beforeNull part))).mp
      have second := (alike (String.ofList (beforeNull part'))).mpr
      rw [beforeNull_ofList (null_not_mem_beforeNull _)] at first second
      exact (second (endsIn_self _)).holds.antisymm (first (endsIn_self _)).holds
    · exact fun same text => ⟨.of_same same, .of_same same.symm⟩
  · obtain ⟨text, differs⟩ := exists_accepts_ne cut cut' nonempty'
    simp only [cut, cut', iff_false, not_true_eq_false, false_and]
    exact fun alike => differs (alike text)
  · obtain ⟨text, differs⟩ := exists_accepts_ne cut' cut nonempty
    simp only [cut, cut', iff_true, false_and, iff_false]
    exact fun alike => differs (alike text).symm
  · have alike_iff : ∀ text, accepts (containing part) text = accepts (containing part') text ↔
        (Holds (beforeNull text) part.toList ↔ Holds (beforeNull text) part'.toList) := by
      intro text
      rw [Bool.eq_iff_iff, accepts_containing_iff cut, accepts_containing_iff cut']
    simp only [cut, cut', true_and, alike_iff]
    rw [beforeNull_eq cut, beforeNull_eq cut']
    constructor
    · intro alike
      have first := (alike part).mp
      have second := (alike part').mpr
      rw [beforeNull_eq cut] at first
      rw [beforeNull_eq cut'] at second
      exact (second (endsIn_self _).holds).antisymm (first (endsIn_self _).holds)
    · exact fun same text => ⟨.of_same same, .of_same same.symm⟩

end Pattern

end GridCommons.Text
