import GridCommons.Number.Numeral
import GridCommons.Site.Record
import GridCommons.Site.Store

/-!
Contract: rows as they are dumped.

Owns: the dumped form of a row, and which rows a dump holds.  A reference goes by
the name of what it refers to, instants name their zone, and bytes are written in
base 64.
-/

namespace GridCommons.Command

open Site
open GridCommons.Json (Value)

def dumpedValue : Datum → Value
  | .bytes data => .text (Base64.toText data)
  | .instant t => .text (t.toText ++ "Z")
  | d => d.toJson

def dumpedName (kind : Kind) (name : String) : String :=
  ((kind.column? name).map Column.relation).getD name

def dumpedRow (row : Row) : Value :=
  let fields := row.record.filter fun entry => entry.1 != "id"
  .object [("model", .text ("main_app." ++ row.kind.slug)), ("pk", .nat row.ref.id),
    ("fields", .object (fields.map fun (name, value) =>
      (dumpedName row.kind name, dumpedValue value)))]

/-- The numbers of a dump's rows, where it is narrowed to some. -/
def dumpedNumbers (keys : List String) : Except Fault (List Int) :=
  keys.mapM fun key =>
    match Numeral.read key.toList with
    | .ok n => .ok n
    | .error _ => .error (.notNumber "id" (Text.quoted key))

/-- Dump the rows of a kind; without keys all of them. -/
def dumpKind (keys : List String) (kind : Kind) : Action (List Value) := do
  let ids ← Action.ofExcept (dumpedNumbers keys)
  let rows := (← Action.query).rowsOf kind
  let kept := rows.filter fun row => keys.isEmpty || ids.contains (row.ref.id : Int)
  return kept.map dumpedRow

end GridCommons.Command
