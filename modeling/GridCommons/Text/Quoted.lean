import GridCommons.Text.Class

/-!
Contract: texts in quotation marks, as error messages show them.

Owns:
- the choice of quotation mark;
- the escapes of marks, backslashes and characters that do not print.

Works on code points, so that a text with lone surrogates can be shown too.
-/

namespace GridCommons.Text

def hexDigit (n : Nat) : Char :=
  if n < 10 then Char.ofNat (48 + n) else Char.ofNat (87 + n)

def hexDigits : Nat → Nat → List Char
  | 0, _ => []
  | width + 1, n => hexDigits width (n / 16) ++ [hexDigit (n % 16)]

namespace Quoted

/-- The escape of a code point that does not print, by its size. -/
def escape (n : Nat) : List Char :=
  if n < 0x100 then '\\' :: 'x' :: hexDigits 2 n
  else if n < 0x10000 then '\\' :: 'u' :: hexDigits 4 n
  else '\\' :: 'U' :: hexDigits 8 n

/-- One code point inside quotation marks `mark`. -/
def encodePoint (mark : Char) (n : Nat) : List Char :=
  if n = mark.toNat ∨ n = 92 then ['\\', Char.ofNat n]
  else if n = 9 then ['\\', 't']
  else if n = 10 then ['\\', 'n']
  else if n = 13 then ['\\', 'r']
  else if isPrintablePoint n then [Char.ofNat n]
  else escape n

/-- Single marks, unless the text holds a single mark and no double one. -/
def markFor (points : List Nat) : Char :=
  if points.contains 39 && !points.contains 34 then '"' else '\''

def encodePoints (points : List Nat) : List Char :=
  let mark := markFor points
  mark :: points.flatMap (encodePoint mark) ++ [mark]

end Quoted

def quoted (s : String) : String :=
  String.ofList (Quoted.encodePoints (s.toList.map Char.toNat))

end GridCommons.Text
