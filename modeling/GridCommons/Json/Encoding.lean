import GridCommons.Json.Reader
import GridCommons.Text.Quoted
import GridCommons.Text.Utf8

/-!
Contract: JSON documents as bytes.

Owns:
- the encoding that the first bytes of a document tell: units of one, two or four
  bytes, in either order, with or without a mark in front;
- the code points of the bytes, where halves of surrogate pairs pass;
- the flaws of bytes that form no code points, with their messages.
-/

namespace GridCommons.Json

inductive Encoding where
  | units8
  | units16 (bigEnd : Bool)
  | units32 (bigEnd : Bool)
deriving DecidableEq, Repr

def Encoding.name : Encoding → String
  | .units8 => "utf-8"
  | .units16 bigEnd => if bigEnd then "utf-16-be" else "utf-16-le"
  | .units32 bigEnd => if bigEnd then "utf-32-be" else "utf-32-le"

/-- Bytes that form no code points: where they start, the bytes themselves, and
what is wrong with them. -/
structure Undecodable where
  encoding : Encoding
  start : Nat
  bytes : Bytes
  reason : String
deriving Repr

def Undecodable.message (u : Undecodable) : String :=
  let front := "'" ++ u.encoding.name ++ "' codec can't decode "
  match u.bytes with
  | [b] =>
    front ++ "byte 0x" ++ String.ofList (GridCommons.Text.hexDigits 2 b.toNat) ++
      s!" in position {u.start}: " ++ u.reason
  | bytes => front ++ s!"bytes in position {u.start}-{u.start + bytes.length - 1}: " ++ u.reason

namespace Encoding

/-- The encoding that the first bytes of a document tell, and how many bytes of a
mark to skip. -/
def detect : Bytes → Encoding × Nat
  | 0x00 :: 0x00 :: 0xfe :: 0xff :: _ => (.units32 true, 4)
  | 0xff :: 0xfe :: 0x00 :: 0x00 :: _ => (.units32 false, 4)
  | 0xfe :: 0xff :: _ => (.units16 true, 2)
  | 0xff :: 0xfe :: _ => (.units16 false, 2)
  | 0xef :: 0xbb :: 0xbf :: _ => (.units8, 3)
  | a :: b :: c :: d :: _ =>
    if a = 0 then if b = 0 then (.units32 true, 0) else (.units16 true, 0)
    else if b = 0 then if c = 0 && d = 0 then (.units32 false, 0) else (.units16 false, 0)
    else (.units8, 0)
  | [a, b] =>
    if a = 0 then (.units16 true, 0) else if b = 0 then (.units16 false, 0) else (.units8, 0)
  | _ => (.units8, 0)

/-- The half of a surrogate pair that three bytes write. -/
def surrogateAt? (first : UInt8) : Bytes → Option Nat
  | b :: c :: _ =>
    if first = 0xed && 0xa0 ≤ b && b ≤ 0xbf && GridCommons.Text.Utf8.isContinuation c then
      some (0xd000 + GridCommons.Text.Utf8.payload b * 64 + GridCommons.Text.Utf8.payload c)
    else none
  | _ => none

def flawReason : GridCommons.Text.Utf8.Flaw → String
  | .badStart => "invalid start byte"
  | .badContinuation => "invalid continuation byte"
  | .cutShort => "unexpected end of data"

/-- The code points of single bytes, after some that are already used. -/
def points8 (position : Nat) : Nat → Bytes → Except Undecodable (List Nat)
  | _, [] => .ok []
  | used + 1, _ :: rest => points8 (position + 1) used rest
  | 0, first :: rest =>
    match GridCommons.Text.Utf8.head first rest, surrogateAt? first rest with
    | .character point size, _ =>
      (points8 (position + 1) (size - 1) rest).map fun more => point :: more
    | .broken _ _, some half => (points8 (position + 1) 2 rest).map fun more => half :: more
    | .broken size flaw, none =>
      .error ⟨.units8, position, (first :: rest).take size, flawReason flaw⟩

def unit16 (bigEnd : Bool) (a b : UInt8) : Nat :=
  if bigEnd then a.toNat * 256 + b.toNat else b.toNat * 256 + a.toNat

def units16Of (bigEnd : Bool) (position : Nat) : Bytes → Except Undecodable (List Nat)
  | [] => .ok []
  | [a] => .error ⟨.units16 bigEnd, position, [a], "truncated data"⟩
  | a :: b :: rest =>
    (units16Of bigEnd (position + 2) rest).map fun more => unit16 bigEnd a b :: more

def joinPairs : List Nat → List Nat
  | [] => []
  | [n] => [n]
  | high :: low :: rest =>
    if Reader.isHighSurrogate high && Reader.isLowSurrogate low then
      Reader.joinSurrogates high low :: joinPairs rest
    else high :: joinPairs (low :: rest)

def points32 (bigEnd : Bool) (position : Nat) : Bytes → Except Undecodable (List Nat)
  | [] => .ok []
  | a :: b :: c :: d :: rest =>
    let n :=
      if bigEnd then unit16 true a b * 65536 + unit16 true c d
      else unit16 false c d * 65536 + unit16 false a b
    if n > 0x10ffff then
      .error ⟨.units32 bigEnd, position, [a, b, c, d], "code point not in range(0x110000)"⟩
    else (points32 bigEnd (position + 4) rest).map fun more => n :: more
  | bytes => .error ⟨.units32 bigEnd, position, bytes, "truncated data"⟩

end Encoding

/-- The code points of a document.  Places in a document of single bytes are
counted after its mark, in others from its first byte. -/
def decode (bytes : Bytes) : Except Undecodable (List Nat) :=
  let (encoding, mark) := Encoding.detect bytes
  let body := bytes.drop mark
  match encoding with
  | .units8 => Encoding.points8 0 0 body
  | .units16 bigEnd => (Encoding.units16Of bigEnd mark body).map Encoding.joinPairs
  | .units32 bigEnd => Encoding.points32 bigEnd mark body

/-- Read a document of bytes; a failure comes with its wording. -/
def readBytes (room : Option Nat) (bytes : Bytes) : Except String Value :=
  match decode bytes with
  | .error flaw => .error flaw.message
  | .ok document =>
    match read room document with
    | .ok v => .ok v
    | .error failure => .error (failure.message document)

end GridCommons.Json
