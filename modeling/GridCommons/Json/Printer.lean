import GridCommons.Json.Value

/-!
Contract: writing JSON documents in ASCII.

Owns: the written form of every value; characters outside ASCII are written as
escapes of their surrogate units.
-/

namespace GridCommons.Json

namespace Printer

def escapeUnit (n : Nat) : List Char :=
  '\\' :: 'u' :: GridCommons.Text.hexDigits 4 n

def encodePoint (n : Nat) : List Char :=
  if n = 34 then ['\\', '"']
  else if n = 92 then ['\\', '\\']
  else if n = 10 then ['\\', 'n']
  else if n = 13 then ['\\', 'r']
  else if n = 9 then ['\\', 't']
  else if n = 12 then ['\\', 'f']
  else if n = 8 then ['\\', 'b']
  else if 32 ≤ n ∧ n < 127 then [Char.ofNat n]
  else if n < 0x10000 then escapeUnit n
  else
    escapeUnit (0xd800 + (n - 0x10000) / 0x400) ++ escapeUnit (0xdc00 + (n - 0x10000) % 0x400)

def text (t : Text) : String :=
  String.ofList ('"' :: t.points.flatMap encodePoint ++ ['"'])

def double : Double → String
  | .nan => "NaN"
  | .infinite negative => if negative then "-Infinity" else "Infinity"
  | d => d.toText

mutual

def value : Value → String
  | .null => "null"
  | .bool b => if b then "true" else "false"
  | .int n => toString n
  | .double d => double d
  | .str t => text t
  | .arr items => "[" ++ ",".intercalate (elements items) ++ "]"
  | .obj entries => "\x7b" ++ ",".intercalate (members entries) ++ "\x7d"

def elements : List Value → List String
  | [] => []
  | v :: rest => value v :: elements rest

def members : List (Text × Value) → List String
  | [] => []
  | (key, v) :: rest => (text key ++ ":" ++ value v) :: members rest

end

end Printer

def Value.render (v : Value) : String :=
  Printer.value v

end GridCommons.Json
