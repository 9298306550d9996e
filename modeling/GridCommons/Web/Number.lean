import GridCommons.Fault

/-!
Contract: numbers that requests bring.

Owns: the whole number that a JSON value stands for, and the number of a row that it
names.
-/

namespace GridCommons.Web

open GridCommons.Json (Value)

/-- A whole number from a JSON value: numbers lose their fraction, and texts are
read. -/
def wholeOf : Value → Except Fault Int
  | .int n => .ok n
  | .bool b => .ok (if b then 1 else 0)
  | .double .nan => .error (.notFinite "NaN")
  | .double (.infinite _) => .error (.notFinite "infinity")
  | .double d => .ok (d.wholePart?.getD 0)
  | .str (.whole s) => (Numeral.read s.toList).mapError Fault.numeral
  | .str (.broken points) => .error (.numeral (.malformed points))
  | v => .error (.notConvertible v.typeName)

/-- The number of a row from a JSON value; none where no row can have it. -/
def rowNumber (v : Value) : Except Fault (Option Int) :=
  match v with
  | .null => .ok none
  | .double (.infinite _) => .error (.notFinite "infinity")
  | v =>
    match wholeOf v with
    | .ok n => .ok (some n)
    | .error (.notConvertible _) => .error (.notNumeric "id" v.shown)
    | .error _ => .error (.notNumber "id" v.shown)

end GridCommons.Web
