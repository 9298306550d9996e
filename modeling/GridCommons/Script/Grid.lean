import GridCommons.Script.Word

/-!
Contract: the squares of a script's grid and the commands that address them.

Owns:
- coordinates with equality and column-major order;
- the marks on a square;
- grid commands and their default target and step count.
-/

namespace GridCommons.Script

structure Coord where
  x : Word := 0
  y : Word := 0
deriving DecidableEq, Repr

namespace Coord

/-- Coordinates are ordered by column, then by row. -/
def before (a b : Coord) : Bool :=
  a.x < b.x || (a.x = b.x && a.y < b.y)

end Coord

structure Square where
  isWall : Bool := false
  isStart : Bool := false
  isEnd : Bool := false
deriving DecidableEq, Repr

/-- A command to the grid: its number in the command list, the target square
and how many steps to take. -/
structure Command where
  kind : Word := 0
  x : Word := 0
  y : Word := 0
  steps : Word := 1
deriving DecidableEq, Repr

end GridCommons.Script
