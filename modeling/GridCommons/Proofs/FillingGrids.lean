import GridCommons.Proofs.Tiling

/-!
Contract: filling the grid of a card, whole or not at all.

Owns:
- how many numbers are left for squares;
- what forbids a single square: no number is left, or its place is taken;
- where a list of squares ends, told from the state in which it begins;
- that filling a card adds its whole grid under consecutive numbers, or changes nothing.

Squares are stored one by one, and each one takes a number and a place from those that follow.
The places of a grid are all different, so whether one is taken can be told at the beginning.
Whether a number is left for it depends on how many come before it.
-/

namespace GridCommons

/-- A constraint forbids the row.  That no number is left for it is no such fault. -/
def Fault.BreaksConstraint : Fault → Prop
  | .violation cause => cause ≠ .full
  | _ => False

end GridCommons

namespace GridCommons.Site

/-- The columns of a grid come one after the other, each from its first place to its last. -/
def ColumnFirst (place later : Int × Int) : Prop :=
  place.1 < later.1 ∨ place.1 = later.1 ∧ place.2 < later.2

/-- Squares are filled in column by column. -/
theorem Cells.grid_columnFirst (card : Card) : (Cells.grid card).Pairwise ColumnFirst := by
  have ascending : ∀ n, (List.range n).Pairwise (· < ·) := fun n => List.pairwise_lt_range
  rw [grid, places, List.pairwise_map, List.pairwise_flatMap]
  constructor
  · intro x _
    apply List.pairwise_map.mpr
    apply (ascending _).imp
    intro y later below
    exact .inr ⟨rfl, Int.ofNat_lt.mpr below⟩
  · apply (ascending _).imp
    intro x later below place inColumn other inLater
    obtain ⟨y, -, rfl⟩ := List.mem_map.mp inColumn
    obtain ⟨z, -, rfl⟩ := List.mem_map.mp inLater
    exact .inl (Int.ofNat_lt.mpr below)

namespace Database

variable {d : Database} {cardId : Nat} {place : Nat × Nat}

/-- How many numbers are left for squares. -/
def squaresLeft (d : Database) : Nat :=
  (largestNumber + 1 - d.cells.next).toNat

/-- The square under the next number, at a place of a card. -/
def nextSquare (cardId : Nat) (place : Nat × Nat) (d : Database) : Cell :=
  { id := d.cells.next, cardId, x := place.1, y := place.2 }

/-- The database with a square added. -/
def addSquare (cardId : Nat) (d : Database) (place : Nat × Nat) : Database :=
  d.put (.cell (d.nextSquare cardId place))

/-- Two squares of a card at one place. -/
def placeTaken : Violation :=
  .sharedKey Kind.cell.table ["field_id", "x", "y"]

theorem breaksConstraint_placeTaken : (Fault.violation placeTaken).BreaksConstraint := by
  intro same
  cases same

/-- There is a number for a square exactly if some are left. -/
theorem inRange_next_cells : inRange d.cells.next = true ↔ d.squaresLeft ≠ 0 := by
  unfold inRange squaresLeft largestNumber
  simp only [Bool.and_eq_true, decide_eq_true_eq]
  omega

theorem mem_squares {place : Int × Int} :
    place ∈ d.squares cardId ↔ ∃ cell ∈ d.cells.rows, cell.cardId = cardId ∧ (cell.x, cell.y) = place := by
  simp [squares, and_assoc]

/-! ## One square -/

/-- The key that no two squares share. -/
def squareKey (cardId : Nat) (place : Int × Int) : UniqueKey :=
  ⟨["field_id", "x", "y"], [.number cardId, .number place.1, .number place.2]⟩

theorem uniqueKeys_cell (cell : Cell) :
    (Row.cell cell).uniqueKeys = [squareKey cell.cardId (cell.x, cell.y)] :=
  rfl

theorem squareKey_inj {other : Nat} {left right : Int × Int} :
    squareKey cardId left = squareKey other right ↔ cardId = other ∧ left = right := by
  rw [Prod.ext_iff]
  simp only [squareKey, UniqueKey.mk.injEq, List.cons.injEq, KeyPart.number.injEq, Int.natCast_inj,
    true_and, and_true]

/-- The next square is refused exactly if its card has one at that place. -/
theorem sharedKey?_nextSquare :
    d.sharedKey? (.cell (d.nextSquare cardId place)) =
      if Cells.stored place ∈ d.squares cardId then some (squareKey cardId (Cells.stored place))
      else none := by
  have taken : ((d.rowsOf .cell).any fun other =>
      other.id != d.cells.next && other.uniqueKeys.contains (squareKey cardId (Cells.stored place))) =
        true ↔ Cells.stored place ∈ d.squares cardId := by
    rw [List.any_eq_true, mem_squares]
    constructor
    · rintro ⟨other, member, shares⟩
      obtain ⟨cell, present, rfl⟩ := List.mem_map.mp member
      have same := (Bool.and_eq_true_iff.mp shares).2
      rw [uniqueKeys_cell, List.contains_iff_mem, List.mem_singleton, squareKey_inj] at same
      exact ⟨cell, present, same.1.symm, same.2.symm⟩
    · rintro ⟨cell, present, rfl, here⟩
      have differs : cell.id ≠ d.cells.next := Nat.ne_of_lt (d.cells.given cell present)
      refine ⟨.cell cell, List.mem_map_of_mem present, ?_⟩
      rw [uniqueKeys_cell, here]
      simpa [Row.id] using differs
  rw [sharedKey?, uniqueKeys_cell, List.find?_singleton]
  exact if_congr taken rfl rfl

/-- A square of a card that is there takes a number and a free place. -/
theorem store_nextSquare (known : d.has ⟨.card, cardId⟩ = true) :
    d.store (.cell (d.nextSquare cardId place)) =
      if d.squaresLeft = 0 then .error .full
      else if Cells.stored place ∈ d.squares cardId then .error placeTaken
      else .ok (d.addSquare cardId place) := by
  have vacant : d.has (Row.cell (d.nextSquare cardId place)).ref = false := has_next d .cell
  have holds : d.linksHold (.cell (d.nextSquare cardId place)) = true := by
    simp [linksHold, Row.links, Row.members, nextSquare, known]
  have full : d.isFull (.cell (d.nextSquare cardId place)) = !inRange d.cells.next :=
    isFull_of_new vacant
  unfold store violation?
  by_cases left : d.squaresLeft = 0
  · have exhausted : inRange d.cells.next = false := by
      simpa [left] using inRange_next_cells (d := d)
    simp [full, exhausted, left]
  · have room : inRange d.cells.next = true := inRange_next_cells.mpr left
    by_cases taken : Cells.stored place ∈ d.squares cardId
    · simp [full, room, left, outOfRange?, sharedKey?_nextSquare, taken, placeTaken, squareKey, Row.kind]
    · simp [full, room, left, outOfRange?, sharedKey?_nextSquare, taken, holds, addSquare]

/-- A new square comes last. -/
theorem squares_addSquare (d : Database) (cardId : Nat) (place : Nat × Nat) :
    (d.addSquare cardId place).squares cardId = d.squares cardId ++ [Cells.stored place] := by
  have own : (d.nextSquare cardId place).cardId = cardId := rfl
  rw [addSquare, squares_put_cell rfl, if_pos own]
  rfl

theorem next_addSquare (d : Database) (cardId : Nat) (place : Nat × Nat) :
    (d.addSquare cardId place).cells.next = d.cells.next + 1 := by
  change max d.cells.next (d.cells.next + 1) = d.cells.next + 1
  omega

theorem squaresLeft_addSquare (d : Database) (cardId : Nat) (place : Nat × Nat) :
    (d.addSquare cardId place).squaresLeft = d.squaresLeft - 1 := by
  rw [squaresLeft, next_addSquare, squaresLeft]
  omega

/-! ## Many squares -/

/-- A square takes its own place and no other. -/
theorem exists_taken_addSquare {rest : List (Nat × Nat)} (notLater : place ∉ rest)
    (free : Cells.stored place ∉ d.squares cardId) :
    (∃ other ∈ rest, Cells.stored other ∈ (d.addSquare cardId place).squares cardId) ↔
      ∃ other ∈ place :: rest, Cells.stored other ∈ d.squares cardId := by
  rw [squares_addSquare, List.exists_mem_cons_iff, or_iff_right free]
  constructor
  · rintro ⟨other, member, here⟩
    refine ⟨other, member, ?_⟩
    rcases List.mem_append.mp here with before | same
    · exact before
    · have equal := Cells.stored_injective (List.mem_singleton.mp same)
      exact absurd (equal ▸ member) notLater
  · rintro ⟨other, member, here⟩
    exact ⟨other, member, List.mem_append_left _ here⟩

/-- Squares are added until a number is missing or a place is taken.  With neither, all are. -/
theorem addAll_eq (known : d.has ⟨.card, cardId⟩ = true) {places : List (Nat × Nat)}
    (different : places.Nodup) :
    Cells.addAll cardId places d =
      if ∃ place ∈ places.take d.squaresLeft, Cells.stored place ∈ d.squares cardId then
        .error placeTaken
      else if d.squaresLeft < places.length then .error .full
      else .ok (places.foldl (addSquare cardId) d) := by
  induction places generalizing d with
  | nil => simp [Cells.addAll]
  | cons place rest inductionHypothesis =>
      obtain ⟨notLater, restDifferent⟩ := List.nodup_cons.mp different
      have stores : d.store (.cell { id := d.next .cell, cardId, x := place.1, y := place.2 }) = _ :=
        store_nextSquare known
      rw [addAll_cons, stores]
      -- the first square is refused, or it leaves one number less and takes no place of the others
      cases left : d.squaresLeft with
      | zero => simp [Except.bind]
      | succ remaining =>
          by_cases taken : Cells.stored place ∈ d.squares cardId
          · simp [Except.bind, taken]
          · have kept : (d.addSquare cardId place).has ⟨.card, cardId⟩ = true := has_put_of_has known
            have apart : place ∉ rest.take remaining := mt List.mem_of_mem_take notLater
            simp only [Except.bind, taken, ↓reduceIte, Nat.add_one_ne_zero]
            rw [inductionHypothesis kept restDifferent, squaresLeft_addSquare, left, Nat.add_sub_cancel]
            simp only [exists_taken_addSquare apart taken, List.take_succ_cons, List.length_cons,
              Nat.add_lt_add_iff_right, List.foldl_cons]

/-- The squares that are added to a card at the given places. -/
def newSquares (cardId : Nat) (places : List (Int × Int)) (d : Database) : List Cell :=
  places.mapIdx fun i place =>
    { id := d.cells.next + i, cardId, x := place.1, y := place.2, isBlocked := false }

theorem next_foldl_addSquare (places : List (Nat × Nat)) (d : Database) :
    (places.foldl (addSquare cardId) d).cells.next = d.cells.next + places.length := by
  induction places generalizing d with
  | nil => rfl
  | cons place rest inductionHypothesis =>
      rw [List.foldl_cons, inductionHypothesis, next_addSquare, List.length_cons]
      omega

theorem foldl_addSquare_eq (places : List (Nat × Nat)) (d : Database) :
    places.foldl (addSquare cardId) d =
      { d with cells := (places.foldl (addSquare cardId) d).cells } := by
  induction places generalizing d with
  | nil => rfl
  | cons place rest inductionHypothesis => exact inductionHypothesis (d.addSquare cardId place)

/-- The new squares come last, under the numbers that follow. -/
theorem rows_foldl_addSquare (places : List (Nat × Nat)) (d : Database) :
    (places.foldl (addSquare cardId) d).cells.rows =
      d.cells.rows ++ d.newSquares cardId (places.map Cells.stored) := by
  induction places generalizing d with
  | nil => simp [newSquares]
  | cons place rest inductionHypothesis =>
      have appended : (d.addSquare cardId place).cells.rows =
          d.cells.rows ++ [d.nextSquare cardId place] := Table.rows_put_new rfl
      rw [List.foldl_cons, inductionHypothesis, appended, List.append_assoc, newSquares, newSquares,
        next_addSquare, List.map_cons, List.mapIdx_cons, List.singleton_append]
      congr 2
      apply congrArg (List.mapIdx · (rest.map Cells.stored))
      funext i other
      congr 1
      omega

end Database

namespace Cells

variable {w : World} {card : Card}

/-- A square of the card lies on one of the first places of its grid. -/
def Begun (d : Database) (card : Card) (n : Nat) : Prop :=
  ∃ cell ∈ d.cells.rows, cell.cardId = card.id ∧ (cell.x, cell.y) ∈ (grid card).take n

/-- One of the first places is taken exactly if the grid is begun there. -/
theorem exists_taken_iff {d : Database} {n : Nat} :
    (∃ place ∈ (places card.cols card.rows).take n, stored place ∈ d.squares card.id) ↔
      Begun d card n := by
  simp only [Begun, grid, ← List.map_take, List.mem_map, Database.mem_squares]
  constructor
  · rintro ⟨place, member, cell, present, own, here⟩
    exact ⟨cell, present, own, place, member, here.symm⟩
  · rintro ⟨cell, present, own, place, member, here⟩
    exact ⟨place, member, cell, present, own, here.symm⟩

/-- The whole grid is begun exactly if a square of the card lies on it. -/
theorem begun_iff_covers {d : Database} {n : Nat} (all : (grid card).length ≤ n) :
    Begun d card n ↔ ∃ cell ∈ d.cells.rows, cell.cardId = card.id ∧ card.Covers (cell.x, cell.y) := by
  simp only [Begun, List.take_of_length_le all, mem_grid_iff]

theorem run_fill (writes : w.mode = .ok) :
    (fill card).run w = (Action.commit (addAll card.id (places card.cols card.rows))).run w := by
  unfold fill
  by_cases empty : places card.cols card.rows = []
  · obtain ⟨database, mode, _⟩ := w
    cases writes
    rw [empty]
    rfl
  · rw [if_pos (by simpa using empty)]

/-- Filling ends in one of three ways. -/
theorem fill_cases (writes : w.mode = .ok) (known : w.database.has ⟨.card, card.id⟩ = true) :
    let left := w.database.squaresLeft
    (Begun w.database card left ∧
      (fill card).run w = (.error (.violation Database.placeTaken), w)) ∨
    (¬Begun w.database card left ∧ left < (grid card).length ∧
      (fill card).run w = (.error (.violation .full), w)) ∨
    (¬Begun w.database card left ∧ (grid card).length ≤ left ∧
      (fill card).run w = (.ok (), { w with
        database := (places card.cols card.rows).foldl (Database.addSquare card.id) w.database })) := by
  intro left
  have added := Database.addAll_eq known (nodup_places card.cols card.rows)
  have size : (grid card).length = (places card.cols card.rows).length := List.length_map _
  rw [run_fill writes, Action.run_commit, writes, added, size]
  by_cases begun : Begun w.database card left
  · left
    rw [if_pos (exists_taken_iff.mpr begun)]
    exact ⟨begun, rfl⟩
  · right
    rw [if_neg (mt exists_taken_iff.mp begun)]
    by_cases short : left < (places card.cols card.rows).length
    · left
      rw [if_pos short]
      exact ⟨begun, short, rfl⟩
    · right
      rw [if_neg short]
      exact ⟨begun, Nat.le_of_not_lt short, rfl⟩

end Cells

end GridCommons.Site

namespace GridCommons

open Site

/-- Filling a card's grid is whole or nothing.  Any fault leaves the whole state as it was, the
numbers of squares among it.  While numbers are left for the whole grid, the fault that a constraint
is broken comes exactly if a square of the card lies on its grid already.  With none there, one
square that is not blocked is added for each place, column by column under the numbers that follow,
and nothing else changes.  Where the numbers run out before the grid ends, there is a fault in any
case: a broken constraint if a square lies on one of the places that the numbers reach, else that no
number is left. -/
theorem fill_whole_or_nothing {w : World} {card : Card} (writes : w.mode = .ok)
    (known : w.database.has ⟨.card, card.id⟩ = true) :
    let d := w.database
    let ends := (Cells.fill card).run w
    ∃ places : List (Int × Int),
      places.Pairwise ColumnFirst ∧ (∀ place, place ∈ places ↔ card.Covers place) ∧
      places.length = card.cols.toNat * card.rows.toNat ∧
      (∀ fault, ends.1 = .error fault → ends.2 = w) ∧
      (places.length ≤ d.squaresLeft →
        let begun := ∃ cell ∈ d.cells.rows, cell.cardId = card.id ∧ card.Covers (cell.x, cell.y)
        ((∃ fault, ends.1 = .error fault ∧ fault.BreaksConstraint) ↔ begun) ∧
        (¬begun → ends.1 = .ok () ∧
          ends.2 = { w with database := { d with cells := ends.2.database.cells } } ∧
          ends.2.database.cells.rows = d.cells.rows ++ d.newSquares card.id places ∧
          ends.2.database.cells.next = d.cells.next + places.length)) ∧
      (d.squaresLeft < places.length →
        let begun := ∃ cell ∈ d.cells.rows, cell.cardId = card.id ∧
          (cell.x, cell.y) ∈ places.take d.squaresLeft
        ∃ fault, ends.1 = .error fault ∧ (fault.BreaksConstraint ↔ begun) ∧
          (¬begun → fault = .violation .full)) := by
  intro d ends
  refine ⟨Cells.grid card, Cells.grid_columnFirst card, fun _ => Cells.mem_grid_iff,
    Cells.length_grid card, ?_⟩
  rcases Cells.fill_cases writes known with ⟨begun, run⟩ | ⟨free, short, run⟩ | ⟨free, room, run⟩
  · have fails : ends = (.error (.violation Database.placeTaken), w) := run
    rw [fails]
    refine ⟨fun _ _ => rfl, fun room => ?_, fun short => ?_⟩
    · have covers := (Cells.begun_iff_covers room).mp begun
      exact ⟨iff_of_true ⟨_, rfl, Database.breaksConstraint_placeTaken⟩ covers,
        fun uncovered => absurd covers uncovered⟩
    · exact ⟨_, rfl, iff_of_true Database.breaksConstraint_placeTaken begun,
        fun free => absurd begun free⟩
  · have fails : ends = (.error (.violation .full), w) := run
    rw [fails]
    refine ⟨fun _ _ => rfl, fun room => absurd short (Nat.not_lt.mpr room), fun _ => ?_⟩
    exact ⟨_, rfl, iff_of_false (by simp [Fault.BreaksConstraint]) free, fun _ => rfl⟩
  · have works : ends = (.ok (), _) := run
    rw [works]
    refine ⟨by simp, fun _ => ?_, fun short => absurd short (Nat.not_lt.mpr room)⟩
    have uncovered := mt (Cells.begun_iff_covers room).mpr free
    refine ⟨iff_of_false (by simp) uncovered, fun _ => ⟨rfl, ?_, ?_, ?_⟩⟩
    · exact congrArg (fun database => { w with database }) (Database.foldl_addSquare_eq _ d)
    · exact Database.rows_foldl_addSquare _ d
    · rw [Cells.grid, List.length_map]
      exact Database.next_foldl_addSquare _ d

/-! ### A square on the last place, and the last number -/

/-- The card of three columns and two rows has a square on its last place. -/
def begunSite : World :=
  { bareSite with
    database := bareSite.database.put (.cell { id := 1, cardId := 1, x := 2, y := 1 }) }

/-- Nothing stays of the five squares that come before the last. -/
theorem fill_whole_or_nothing_last_place :
    (∃ fault, ((Cells.fill bareCard).run begunSite).1 = .error fault ∧ fault.BreaksConstraint) ∧
      ((Cells.fill bareCard).run begunSite).2 = begunSite := by
  have known : begunSite.database.has ⟨.card, bareCard.id⟩ = true := rfl
  obtain ⟨places, -, -, size, spares, whole, -⟩ := fill_whole_or_nothing rfl known
  have room : places.length ≤ begunSite.database.squaresLeft := by
    rw [size]
    decide
  obtain ⟨fault, fails, breaks⟩ :=
    (whole room).1.mpr ⟨_, List.mem_singleton.mpr rfl, rfl, by decide⟩
  exact ⟨⟨fault, fails, breaks⟩, spares fault fails⟩

def lastNumberSite : World :=
  { bareSite with
    database := bareSite.database.put (.cell { id := 9223372036854775807, cardId := 1, x := 3, y := 0 }) }

/-- A grid without squares may stay without them. -/
theorem free_grid_stays_empty :
    (∀ cell ∈ lastNumberSite.database.cells.rows, ¬bareCard.Covers (cell.x, cell.y)) ∧
      (Cells.fill bareCard).run lastNumberSite = (.error (.violation .full), lastNumberSite) :=
  ⟨by decide, rfl⟩

end GridCommons
