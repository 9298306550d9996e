import GridCommons.Text.Class
import GridCommons.Text.Utf8

/-!
Contract: texts with bytes written as a percent sign and two digits.

Owns: encoding with a set of characters that stay, and decoding.
-/

namespace GridCommons.Text

namespace Percent

def upperDigit (n : Nat) : Char :=
  if n < 10 then Char.ofNat (48 + n) else Char.ofNat (55 + n)

/-- A byte as a percent sign and two digits. -/
def escape (b : UInt8) : List Char :=
  ['%', upperDigit (b.toNat / 16), upperDigit (b.toNat % 16)]

/-- Characters that never need to be written as bytes. -/
def isUnreserved (c : Char) : Bool :=
  isPlainLetter c || isPlainDigit c || c = '_' || c = '.' || c = '-' || c = '~'

/-- Write every character as bytes that is neither unreserved nor in `safe`. -/
def encode (safe : String) (s : String) : String :=
  String.ofList (s.toList.flatMap fun c =>
    if isUnreserved c || (c.toNat < 128 && safe.toList.contains c) then [c]
    else (bytesOf (String.singleton c)).flatMap escape)

def digitValue? (c : Char) : Option Nat :=
  if '0' ≤ c ∧ c ≤ '9' then some (c.toNat - 48)
  else if 'a' ≤ c ∧ c ≤ 'f' then some (c.toNat - 87)
  else if 'A' ≤ c ∧ c ≤ 'F' then some (c.toNat - 55)
  else none

/-- The byte that a percent sign and two digits write. -/
def escaped? (c : Char) : List Char → Option UInt8
  | a :: b :: _ =>
    match c == '%', digitValue? a, digitValue? b with
    | true, some high, some low => some (high * 16 + low).toUInt8
    | _, _, _ => none
  | _ => none

/-- The bytes of a text after some characters that are already used. -/
def decodeFrom : Nat → List Char → Bytes
  | _, [] => []
  | used + 1, _ :: rest => decodeFrom used rest
  | 0, c :: rest =>
    match escaped? c rest with
    | some byte => byte :: decodeFrom 2 rest
    | none => bytesOf (String.singleton c) ++ decodeFrom 0 rest

/-- The bytes of a text in which percent signs with two digits stand for bytes. -/
def decodeBytes (s : List Char) : Bytes :=
  decodeFrom 0 s

/-- The text of a path: bytes that form no character stay written as bytes. -/
def decodePath (s : String) : String :=
  let bytes := decodeBytes s.toList
  String.ofList (charactersFrom (fun broken => broken.flatMap escape) 0 bytes)

/-- The text of a value in a query, where a plus sign is a blank. -/
def decodeQuery (s : List Char) : String :=
  ofBytes (decodeBytes (s.map fun c => if c = '+' then ' ' else c))

def encodeQuery (safe : String) (s : String) : String :=
  String.ofList ((encode (safe ++ " ") s).toList.map fun c => if c = ' ' then '+' else c)

end Percent

end GridCommons.Text
