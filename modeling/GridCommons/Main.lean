import GridCommons.Command.Basic
import GridCommons.Json.Printer

/-!
Contract: the command line with which a site is managed.

Owns: running one command on a new site, printing what came of it, and the code with
which the program exits.
-/

namespace GridCommons.Command

/-- A new site: no rows, and the clock at the start of its first day. -/
def newSite : Site.World :=
  { now := Instant.ofDate ⟨2025, 3, 1⟩ 0 }

def Outcome.written (o : Outcome) : List String :=
  o.lines ++ (o.data.map fun rows => (Json.Value.arr rows).render).toList

end GridCommons.Command

/-- Run the command that the arguments ask for. -/
def main (args : List String) : IO UInt32 := do
  let command := GridCommons.Command.ofArgs args
  match (GridCommons.Site.Action.run command.run GridCommons.Command.newSite).1 with
  | .ok outcome =>
    for line in outcome.written do
      IO.println line
    for line in outcome.complaints do
      IO.eprintln line
    return outcome.exit.toUInt32
  | .error fault =>
    IO.eprintln fault.message
    return 1
