import GridCommons.Web.Number
import GridCommons.Web.Social

/-!
Contract: walls on the grids of cards.

Owns: reading a wall from a request, the check that it fits the grid, and adding
and removing walls.
-/

namespace GridCommons.Web

open Site
open GridCommons.Json (Value)

structure WallRequest where
  card : Value
  x : Int
  y : Int
  width : Int
  height : Int

def readWall (room : Option Nat) (body : Bytes) : Except Fault WallRequest := do
  let v ← readDocument room body
  match v with
  | .obj _ =>
    let member (name : String) (other : Value) : Value := (v.get? name).getD other
    let x ← wholeOf (member "x" .null)
    let y ← wholeOf (member "y" .null)
    let width ← wholeOf (member "width" (.int 1))
    let height ← wholeOf (member "height" (.int 1))
    return { card := member "field_id" .null, x, y, width, height }
  | other => .error (.noMember other.typeName "get")

/-- The card that a wall is for; none if no card has its number. -/
def wallCard (v : Value) : Action (Option Card) := do
  match ← Action.ofExcept (rowNumber v) with
  | some (.ofNat id) => Action.lookup Database.cards id
  | _ => return none

/-- A wall does not reach over the right or the lower edge of a grid. -/
def fits (w : WallRequest) (card : Card) : Bool :=
  w.x + w.width ≤ card.cols && w.y + w.height ≤ card.rows

def addWall (r : Request) (user : User) : Action Reply :=
  recovering
    (do
      let w ← Action.ofExcept (readWall (some (← Action.platform).nesting) r.bytes)
      match ← wallCard w.card with
      | none => return .ofError 404 "Field not found"
      | some card =>
        if !fits w card then return .ofError 400 "Wall exceeds field boundaries"
        else
          if [w.x, w.y, w.width, w.height].any fun n => !inRange n then
            Action.writable
            Action.fail .tooLarge
          let id ← Action.insert .wall fun id =>
            .wall { id, cardId := card.id, x := w.x, y := w.y, width := w.width,
                    height := w.height, createdById := user.id }
          let wall : Wall := { id, cardId := card.id, x := w.x, y := w.y, width := w.width,
                               height := w.height, createdById := user.id }
          return .ofJson (.object [("success", .bool true), ("wall", wallJson wall)]))
    fun fault => .ofError 400 fault.message

/-- Remove a wall.  Only who made it and staff may. -/
def removeWall (user : User) (id : Nat) : Action Reply := do
  match ← Action.lookup Database.walls id with
  | none => return .ofError 404 "Wall not found"
  | some wall =>
    if wall.createdById ≠ user.id ∧ !user.isStaff then return .ofError 403 "Permission denied"
    else
      Action.remove ⟨.wall, id⟩
      return .ofJson (.object [("success", .bool true)])

end GridCommons.Web
