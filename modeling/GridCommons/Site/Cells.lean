import GridCommons.Site.Store

/-!
Contract: the squares of a card's grid.

Owns: filling a card with one square for each place of its grid, all at once or
not at all.
-/

namespace GridCommons.Site.Cells

/-- The places of a grid, column by column. -/
def places (cols rows : Int) : List (Nat × Nat) :=
  (List.range cols.toNat).flatMap fun x => (List.range rows.toNat).map fun y => (x, y)

/-- Add squares of a card at the given places; the first one that cannot be
added forbids them all. -/
def addAll (cardId : Nat) : List (Nat × Nat) → Database → Except Database.Violation Database
  | [], d => .ok d
  | (x, y) :: rest, d =>
    match d.store (.cell { id := d.next .cell, cardId, x, y }) with
    | .ok d => addAll cardId rest d
    | .error violation => .error violation

/-- Fill a card's grid with squares.  A grid without places writes nothing. -/
def fill (card : Card) : Action Unit := do
  let wanted := places card.cols card.rows
  if !wanted.isEmpty then Action.commit (addAll card.id wanted)

def present (cardId : Nat) : Action Bool := do
  return (← Action.rows Database.cells).any fun cell => cell.cardId == cardId

end GridCommons.Site.Cells
