/-!
Contract: tables of numbered rows.

Owns:
- rows kept in the order of their numbers, of which no two have the same;
- the next number, which never falls, so that no number is given twice;
- look-up, insertion, replacement and removal by number.

Does not own: what a row holds, or how rows of different tables refer to each
other.
-/

namespace GridCommons.Site

class Numbered (α : Type) where
  id : α → Nat

theorem ascending_nil {α : Type} [Numbered α] :
    ([] : List α).Pairwise fun earlier later => Numbered.id earlier < Numbered.id later :=
  .nil

theorem given_nil {α : Type} [Numbered α] : ∀ row ∈ ([] : List α), Numbered.id row < 1 := by
  simp

/-- A table: its rows by ascending number, and the next number to give. -/
structure Table (α : Type) [Numbered α] where
  rows : List α := []
  next : Nat := 1
  ascending : rows.Pairwise fun earlier later => Numbered.id earlier < Numbered.id later := by
    exact ascending_nil
  given : ∀ row ∈ rows, Numbered.id row < next := by exact given_nil
deriving Repr

namespace Table

variable {α : Type} [Numbered α]

instance : Inhabited (Table α) := ⟨{}⟩

def find? (t : Table α) (id : Nat) : Option α :=
  t.rows.find? fun row => Numbered.id row == id

def has (t : Table α) (id : Nat) : Bool :=
  (t.find? id).isSome

/-- Put a row in its place among rows sorted by number; a row with the same
number gives way. -/
def place (row : α) : List α → List α
  | [] => [row]
  | other :: rest =>
    if Numbered.id row < Numbered.id other then row :: other :: rest
    else if Numbered.id row = Numbered.id other then row :: rest
    else other :: place row rest

theorem mem_place {row other : α} {rows : List α} (placed : other ∈ place row rows) :
    other = row ∨ other ∈ rows := by
  induction rows with
  | nil => simpa [place] using placed
  | cons first rest inductionHypothesis =>
      unfold place at placed
      split at placed
      · simpa using placed
      · split at placed
        · rcases List.mem_cons.mp placed with rfl | later
          · exact .inl rfl
          · exact .inr (List.mem_cons_of_mem _ later)
        · rcases List.mem_cons.mp placed with rfl | later
          · exact .inr List.mem_cons_self
          · exact (inductionHypothesis later).imp id (List.mem_cons_of_mem _)

theorem place_ascending (row : α) {rows : List α}
    (ascending : rows.Pairwise fun earlier later => Numbered.id earlier < Numbered.id later) :
    (place row rows).Pairwise fun earlier later => Numbered.id earlier < Numbered.id later := by
  induction rows with
  | nil => simp [place]
  | cons first rest inductionHypothesis =>
      obtain ⟨beforeRest, restAscending⟩ := List.pairwise_cons.mp ascending
      unfold place
      split
      next below =>
        refine List.pairwise_cons.mpr ⟨?_, ascending⟩
        intro later member
        rcases List.mem_cons.mp member with rfl | inRest
        · exact below
        · exact Nat.lt_trans below (beforeRest later inRest)
      next notBelow =>
        split
        next same =>
          refine List.pairwise_cons.mpr ⟨?_, restAscending⟩
          intro later member
          rw [same]
          exact beforeRest later member
        next differs =>
          refine List.pairwise_cons.mpr ⟨?_, inductionHypothesis restAscending⟩
          intro later member
          rcases mem_place member with rfl | inRest
          · omega
          · exact beforeRest later inRest

/-- Store a row under its number. -/
def put (t : Table α) (row : α) : Table α where
  rows := place row t.rows
  next := max t.next (Numbered.id row + 1)
  ascending := place_ascending row t.ascending
  given := by
    intro other member
    rcases mem_place member with rfl | old
    · omega
    · have := t.given other old
      omega

/-- Change or leave out every row; a row that stays keeps its number. -/
def filterMap (t : Table α) (f : α → Option α)
    (keeps : ∀ row kept, f row = some kept → Numbered.id kept = Numbered.id row) : Table α where
  rows := t.rows.filterMap f
  next := t.next
  ascending := by
    refine List.pairwise_filterMap.mpr (t.ascending.imp ?_)
    intro earlier later below keptEarlier left keptLater right
    rw [keeps _ _ left, keeps _ _ right]
    exact below
  given := by
    intro kept member
    obtain ⟨row, present, image⟩ := List.mem_filterMap.mp member
    rw [keeps _ _ image]
    exact t.given row present

/-- Change every row; each keeps its number. -/
def map (t : Table α) (f : α → α) (keeps : ∀ row, Numbered.id (f row) = Numbered.id row) :
    Table α where
  rows := t.rows.map f
  next := t.next
  ascending := by
    refine List.pairwise_map.mpr (t.ascending.imp ?_)
    intro earlier later below
    rw [keeps, keeps]
    exact below
  given := by
    intro changed member
    obtain ⟨row, present, rfl⟩ := List.mem_map.mp member
    rw [keeps]
    exact t.given row present

/-- Keep the rows that pass a test. -/
def filter (t : Table α) (keep : α → Bool) : Table α where
  rows := t.rows.filter keep
  next := t.next
  ascending := t.ascending.filter _
  given := fun row member => t.given row (List.mem_filter.mp member).1

def erase (t : Table α) (id : Nat) : Table α :=
  t.filter fun row => Numbered.id row != id

/-! ## Look-up after a change -/

theorem eq_of_id_eq {rows : List α} {left right : α}
    (ascending : rows.Pairwise fun earlier later => Numbered.id earlier < Numbered.id later)
    (leftMember : left ∈ rows) (rightMember : right ∈ rows)
    (same : Numbered.id left = Numbered.id right) : left = right := by
  induction rows with
  | nil => cases leftMember
  | cons first rest inductionHypothesis =>
      obtain ⟨beforeRest, restAscending⟩ := List.pairwise_cons.mp ascending
      rcases List.mem_cons.mp leftMember with rfl | leftLater
      · rcases List.mem_cons.mp rightMember with rfl | rightLater
        · rfl
        · have := beforeRest right rightLater
          omega
      · rcases List.mem_cons.mp rightMember with rfl | rightLater
        · have := beforeRest left leftLater
          omega
        · exact inductionHypothesis restAscending leftLater rightLater

theorem find?_eq_some_iff {t : Table α} {id : Nat} {row : α} :
    t.find? id = some row ↔ row ∈ t.rows ∧ Numbered.id row = id := by
  constructor
  · intro found
    exact ⟨List.mem_of_find?_eq_some found, by simpa using List.find?_some found⟩
  · rintro ⟨member, rfl⟩
    unfold find?
    cases found : t.rows.find? fun other => Numbered.id other == Numbered.id row with
    | none => exact absurd (List.find?_eq_none.mp found row member) (by simp)
    | some other =>
        have same : Numbered.id other = Numbered.id row := by simpa using List.find?_some found
        rw [eq_of_id_eq t.ascending (List.mem_of_find?_eq_some found) member same]

theorem lt_next_of_find? {t : Table α} {id : Nat} {row : α} (found : t.find? id = some row) :
    id < t.next := by
  obtain ⟨member, rfl⟩ := find?_eq_some_iff.mp found
  exact t.given row member

theorem has_iff {t : Table α} {id : Nat} : t.has id = true ↔ ∃ row, t.find? id = some row :=
  Option.isSome_iff_exists

theorem find?_place (row : α) (rows : List α) (id : Nat)
    (ascending : rows.Pairwise fun earlier later => Numbered.id earlier < Numbered.id later) :
    ((place row rows).find? fun other => Numbered.id other == id) =
      if Numbered.id row = id then some row else rows.find? fun other => Numbered.id other == id := by
  induction rows with
  | nil => by_cases same : Numbered.id row = id <;> simp [place, same]
  | cons first rest inductionHypothesis =>
      obtain ⟨-, restAscending⟩ := List.pairwise_cons.mp ascending
      unfold place
      split
      next below => by_cases same : Numbered.id row = id <;> simp [same]
      next notBelow =>
        split
        next equal => by_cases same : Numbered.id row = id <;> simp [same, ← equal]
        next differs =>
          rw [List.find?_cons, List.find?_cons, inductionHypothesis restAscending]
          by_cases same : Numbered.id first = id
          · simp [same, show Numbered.id row ≠ id by omega]
          · have passes : (Numbered.id first == id) = false := by simpa using same
            rw [passes]

@[simp] theorem find?_put (t : Table α) (row : α) (id : Nat) :
    (t.put row).find? id = if Numbered.id row = id then some row else t.find? id :=
  find?_place row t.rows id t.ascending

@[simp] theorem next_put (t : Table α) (row : α) :
    (t.put row).next = max t.next (Numbered.id row + 1) :=
  rfl

@[simp] theorem find?_filterMap (t : Table α) (f : α → Option α)
    (keeps : ∀ row kept, f row = some kept → Numbered.id kept = Numbered.id row) (id : Nat) :
    (t.filterMap f keeps).find? id = (t.find? id).bind f := by
  apply Option.ext
  intro kept
  rw [find?_eq_some_iff, Option.bind_eq_some_iff]
  constructor
  · rintro ⟨member, rfl⟩
    obtain ⟨row, present, image⟩ := List.mem_filterMap.mp member
    exact ⟨row, find?_eq_some_iff.mpr ⟨present, (keeps _ _ image).symm⟩, image⟩
  · rintro ⟨row, found, image⟩
    obtain ⟨present, rfl⟩ := find?_eq_some_iff.mp found
    exact ⟨List.mem_filterMap.mpr ⟨row, present, image⟩, keeps _ _ image⟩

@[simp] theorem find?_map (t : Table α) (f : α → α)
    (keeps : ∀ row, Numbered.id (f row) = Numbered.id row) (id : Nat) :
    (t.map f keeps).find? id = (t.find? id).map f := by
  unfold find? map
  rw [List.find?_map]
  congr 2
  funext row
  simp [keeps]

@[simp] theorem find?_filter (t : Table α) (keep : α → Bool) (id : Nat) :
    (t.filter keep).find? id = (t.find? id).filter keep := by
  apply Option.ext
  intro row
  rw [find?_eq_some_iff, Option.filter_eq_some_iff, find?_eq_some_iff]
  simp only [filter, List.mem_filter]
  exact and_right_comm

@[simp] theorem find?_erase (t : Table α) (gone id : Nat) :
    (t.erase gone).find? id = if id = gone then none else t.find? id := by
  rw [erase, find?_filter]
  cases found : t.find? id with
  | none => simp
  | some row =>
      obtain ⟨-, rfl⟩ := find?_eq_some_iff.mp found
      by_cases same : Numbered.id row = gone <;> simp [same, Option.filter]

end Table

end GridCommons.Site
