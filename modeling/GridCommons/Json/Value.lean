import GridCommons.Number.Double
import GridCommons.Text.Quoted

/-!
Contract: JSON values, as request bodies bring them and answers return them.

Owns:
- texts that may hold lone surrogates;
- the values, with whole numbers kept apart from floating-point ones;
- look-up of a key and replacement of a repeated one;
- how a value and its type are spelled in error messages.
-/

namespace GridCommons.Json

/-- A text of a JSON document.  Escapes can write lone surrogates, which no
character string can hold; such a text is kept as its code points. -/
inductive Text where
  | whole (s : String)
  | broken (points : List Nat)
deriving DecidableEq, Repr, Inhabited

def isSurrogate (n : Nat) : Bool :=
  0xd800 ≤ n && n ≤ 0xdfff

namespace Text

def ofPoints (points : List Nat) : Text :=
  if points.any isSurrogate then .broken points
  else .whole (String.ofList (points.map Char.ofNat))

def points : Text → List Nat
  | .whole s => s.toList.map Char.toNat
  | .broken points => points

end Text

/-- A JSON value; the entries of an object keep their order. -/
inductive Value where
  | null
  | bool (b : Bool)
  | int (n : Int)
  | double (d : Double)
  | str (t : Text)
  | arr (items : List Value)
  | obj (entries : List (Text × Value))
deriving Repr, Inhabited

namespace Value

def text (s : String) : Value :=
  .str (.whole s)

def nat (n : Nat) : Value :=
  .int n

def object (entries : List (String × Value)) : Value :=
  .obj (entries.map fun (key, value) => (.whole key, value))

def entries : Value → List (Text × Value)
  | .obj entries => entries
  | _ => []

/-- The value under a key of an object. -/
def get? (v : Value) (key : String) : Option Value :=
  (v.entries.find? fun entry => entry.1 == .whole key).map Prod.snd

def asString? : Value → Option String
  | .str (.whole s) => some s
  | _ => none

def asInt? : Value → Option Int
  | .int n => some n
  | _ => none

def asBool? : Value → Option Bool
  | .bool b => some b
  | _ => none

def items : Value → List Value
  | .arr items => items
  | _ => []

/-- Put an entry into a list of entries: a repeated key keeps its place and
takes the new value. -/
def putEntry (key : Text) (value : Value) : List (Text × Value) → List (Text × Value)
  | [] => [(key, value)]
  | (k, v) :: rest => if k = key then (key, value) :: rest else (k, v) :: putEntry key value rest

def typeName : Value → String
  | .null => "NoneType"
  | .bool _ => "bool"
  | .int _ => "int"
  | .double _ => "float"
  | .str _ => "str"
  | .arr _ => "list"
  | .obj _ => "dict"

mutual

def shown : Value → String
  | .null => "None"
  | .bool b => if b then "True" else "False"
  | .int n => toString n
  | .double d => d.toText
  | .str t => String.ofList (GridCommons.Text.Quoted.encodePoints t.points)
  | .arr items => "[" ++ ", ".intercalate (shownItems items) ++ "]"
  | .obj entries => "\x7b" ++ ", ".intercalate (shownEntries entries) ++ "\x7d"

def shownItems : List Value → List String
  | [] => []
  | v :: rest => shown v :: shownItems rest

def shownEntries : List (Text × Value) → List String
  | [] => []
  | (key, v) :: rest =>
    (String.ofList (GridCommons.Text.Quoted.encodePoints key.points) ++ ": " ++ shown v) ::
      shownEntries rest

end

end Value

end GridCommons.Json
