import Mathlib.Data.List.DropRight
import GridCommons.Text.Class

/-!
Contract: texts without the blanks around them.

Owns:
- `Strips`, which says what is left of a list without the blanks at both ends;
- that just one list is left, and that trimming computes it.

Does not own: which characters are blanks.
-/

namespace GridCommons.Text

variable {α β : Type} {blank : α → Bool} {whole inner : List α}

/-- The list `inner` is what is left of `whole` without the blanks at both ends. -/
structure Strips (blank : α → Bool) (whole inner : List α) : Prop where
  parts : ∃ front back, whole = front ++ (inner ++ back) ∧ (∀ a ∈ front, blank a = true) ∧
    ∀ a ∈ back, blank a = true
  first : ∀ a ∈ inner.head?, blank a = false
  last : ∀ a ∈ inner.getLast?, blank a = false

/-- A list without the blanks at both ends. -/
def stripped (blank : α → Bool) (whole : List α) : List α :=
  (whole.dropWhile blank).rdropWhile blank

theorem strips_stripped (blank : α → Bool) (whole : List α) :
    Strips blank whole (stripped blank whole) where
  parts := by
    refine ⟨whole.takeWhile blank, (whole.dropWhile blank).rtakeWhile blank, ?_,
      fun a member => List.mem_takeWhile_imp member,
      fun a member => List.mem_rtakeWhile_imp member⟩
    rw [stripped, List.rdropWhile_append_rtakeWhile, List.takeWhile_append_dropWhile]
  first := by
    intro a head
    have split : stripped blank whole ++ (whole.dropWhile blank).rtakeWhile blank =
        whole.dropWhile blank := List.rdropWhile_append_rtakeWhile
    have stops := List.head?_dropWhile_not blank whole
    rw [← split, List.head?_append, Option.mem_def.mp head] at stops
    simpa using stops
  last := by
    intro a final
    have stops := List.head?_dropWhile_not blank (whole.dropWhile blank).reverse
    rw [stripped, List.rdropWhile, List.getLast?_reverse, Option.mem_def] at final
    simpa [final] using stops

/-- Of a list that starts with blanks, the rest is left from its first element that is none. -/
theorem dropWhile_append_eq {front rest : List α} (blanks : ∀ a ∈ front, blank a = true)
    (stops : ∀ a ∈ rest.head?, blank a = false) : (front ++ rest).dropWhile blank = rest := by
  rw [List.dropWhile_append_of_pos blanks]
  cases rest with
  | nil => rfl
  | cons a rest => simp [stops a rfl]

/-- There is one way to strip a text. -/
theorem Strips.stripped_eq (strips : Strips blank whole inner) : stripped blank whole = inner := by
  obtain ⟨⟨front, back, rfl, blankFront, blankBack⟩, first, last⟩ := strips
  rw [stripped, List.dropWhile_append_of_pos blankFront]
  cases inner with
  | nil =>
      rw [List.nil_append, List.dropWhile_eq_nil_iff.mpr blankBack]
      rfl
  | cons a rest =>
      have stays : ((a :: rest) ++ back).dropWhile blank = (a :: rest) ++ back := by
        simp [first a rfl]
      have behind : ∀ b ∈ back.reverse, blank b = true := fun b member =>
        blankBack b (List.mem_reverse.mp member)
      rw [stays, List.rdropWhile, List.reverse_append, dropWhile_append_eq behind,
        List.reverse_reverse]
      rw [List.head?_reverse]
      exact last

/-- Just one list is left without the blanks at both ends. -/
theorem strips_iff : Strips blank whole inner ↔ stripped blank whole = inner :=
  ⟨Strips.stripped_eq, fun same => same ▸ strips_stripped blank whole⟩

/-- Nothing more is left out a second time. -/
theorem stripped_stripped (blank : α → Bool) (whole : List α) :
    stripped blank (stripped blank whole) = stripped blank whole := by
  obtain ⟨-, first, last⟩ := strips_stripped blank whole
  exact Strips.stripped_eq ⟨⟨[], [], by simp, by simp, by simp⟩, first, last⟩

theorem stripped_map {test : β → Bool} {f : α → β} (same : ∀ a, test (f a) = blank a)
    (whole : List α) : stripped test (whole.map f) = (stripped blank whole).map f := by
  have composed : test ∘ f = blank := funext same
  simp only [stripped, List.rdropWhile, List.dropWhile_map, composed, ← List.map_reverse]

/-- Trimming a text leaves out the blanks at both ends. -/
theorem toList_trim (s : String) : (trim s).toList = stripped isBlank s.toList :=
  String.toList_ofList

end GridCommons.Text
