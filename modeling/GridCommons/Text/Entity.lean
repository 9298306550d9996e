import GridCommons.Number.Numeral
import GridCommons.Text.Class
import GridCommons.Text.EntityTable

/-!
Contract: characters that markup writes by name or by number.

Owns:
- reading a text in which such references stand for characters.  A reference starts
  with an ampersand; what is none stays as it is written;
- writing a text so that markup reads no character of it as its own.
-/

namespace GridCommons.Text.Entity

def hexValue? (c : Char) : Option Nat :=
  if '0' ≤ c ∧ c ≤ '9' then some (c.toNat - '0'.toNat)
  else if 'a' ≤ c ∧ c ≤ 'f' then some (c.toNat - 'a'.toNat + 10)
  else if 'A' ≤ c ∧ c ≤ 'F' then some (c.toNat - 'A'.toNat + 10)
  else none

/-- A number that is no character's, or that of a character which texts do not have. -/
def isNoCharacter (n : Nat) : Bool :=
  (1 ≤ n && n ≤ 8) || n = 0xb || (0xe ≤ n && n ≤ 0x1f) || (0x7f ≤ n && n ≤ 0x9f) ||
    (0xfdd0 ≤ n && n ≤ 0xfdef) || 0xfffe ≤ n % 0x10000

/-- What a number stands for.  Numbers beyond all characters give the sign for one that
is unknown. -/
def ofNumber (n : Nat) : List Char :=
  match formOf? EntityTable.renumbered n with
  | some points => points.map Char.ofNat
  | none =>
    if n > 0x10ffff ∨ (0xd800 ≤ n ∧ n ≤ 0xdfff) then ['�']
    else if isNoCharacter n then []
    else [Char.ofNat n]

/-- The digits in front of a text in a base, as their value and their count. -/
def digits (base : Nat) (s : List Char) : Nat × Nat :=
  let values := (s.map hexValue?).takeWhile fun v => decide (v.getD base < base)
  (values.foldl (fun n v => n * base + v.getD 0) 0, values.length)

/-- A semicolon in front of a text counts as one character. -/
def semicolon (s : List Char) : Nat :=
  if s.head? = some ';' then 1 else 0

def isNameChar (c : Char) : Bool :=
  !(['\t', '\n', Char.ofNat 12, ' ', '<', '&', '#', ';'].contains c)

/-- What a name in front of a text stands for, and how many characters it takes: a whole
name with a semicolon, else the longest name that needs none. -/
def readName? (s : List Char) : Option (List Char × Nat) :=
  let run := s.takeWhile isNameChar
  let whole := (EntityTable.closed ++ EntityTable.bare).lookup run
  if semicolon (s.drop run.length) = 1 ∧ whole.isSome then whole.map fun found => (found, run.length + 1)
  else
    (List.range (run.length + 1)).reverse.findSome? fun length =>
      (EntityTable.bare.lookup (run.take length)).map fun found => (found, length)

/-- What a reference after an ampersand stands for, and how many characters it
takes. -/
def read? (s : List Char) : Option (List Char × Nat) :=
  match s with
  | '#' :: rest =>
    let (base, lead) := match rest with
      | 'x' :: _ | 'X' :: _ => (16, 1)
      | _ => (10, 0)
    let (n, count) := digits base (rest.drop lead)
    if count = 0 then none
    else some (ofNumber n, 1 + lead + count + semicolon (rest.drop (lead + count)))
  | s => readName? s

/-- Read a text, after some characters that are used up. -/
def decodeFrom : Nat → List Char → List Char
  | _, [] => []
  | skip + 1, _ :: rest => decodeFrom skip rest
  | 0, c :: rest =>
    if c = '&' then
      match read? rest with
      | some (found, used) => found ++ decodeFrom used rest
      | none => c :: decodeFrom 0 rest
    else c :: decodeFrom 0 rest

/-- Read a text in which references stand for characters. -/
def decode (s : List Char) : List Char :=
  decodeFrom 0 s

/-- The reference for a character that markup would read as its own. -/
def reference : Char → List Char
  | '&' => "&amp;".toList
  | '<' => "&lt;".toList
  | '>' => "&gt;".toList
  | '"' => "&quot;".toList
  | '\'' => "&#x27;".toList
  | c => [c]

/-- Write a text so that markup reads it as it is. -/
def encode (s : String) : String :=
  String.ofList (s.toList.flatMap reference)

end GridCommons.Text.Entity
