import GridCommons.Text.Base64

/-!
Contract: characters as bytes.

Owns:
- the bytes of a text;
- the first character of bytes, or the flaw at their front and how many bytes
  belong to it;
- the text of bytes, where bytes that form no character are replaced by a mark.
-/

namespace GridCommons.Text

def bytesOf (s : String) : Bytes :=
  s.toUTF8.toList

namespace Utf8

/-- What is wrong with bytes that form no character: no character starts so, a
byte does not continue it, or the bytes end before it does. -/
inductive Flaw where
  | badStart
  | badContinuation
  | cutShort
deriving DecidableEq, Repr

/-- How bytes start: a character and how many bytes it takes, or a flaw and how
many bytes belong to it. -/
inductive Head where
  | character (point size : Nat)
  | broken (size : Nat) (flaw : Flaw)
deriving Repr

/-- A byte that continues a character. -/
def isContinuation (b : UInt8) : Bool :=
  0x80 ≤ b && b ≤ 0xbf

/-- A byte that may stand second after a first byte. -/
def isSecond (first b : UInt8) : Bool :=
  let (low, high) : UInt8 × UInt8 :=
    if first = 0xe0 then (0xa0, 0xbf)
    else if first = 0xed then (0x80, 0x9f)
    else if first = 0xf0 then (0x90, 0xbf)
    else if first = 0xf4 then (0x80, 0x8f)
    else (0x80, 0xbf)
  low ≤ b && b ≤ high

/-- The value that a byte adds to a character that it continues. -/
def payload (b : UInt8) : Nat :=
  b.toNat - 0x80

/-- How many bytes a character takes that starts with a byte; none if no
character does. -/
def sizeOf? (first : UInt8) : Option Nat :=
  if first < 0x80 then some 1
  else if 0xc2 ≤ first && first ≤ 0xdf then some 2
  else if 0xe0 ≤ first && first ≤ 0xef then some 3
  else if 0xf0 ≤ first && first ≤ 0xf4 then some 4
  else none

def head (first : UInt8) (rest : Bytes) : Head :=
  let n := first.toNat
  match sizeOf? first, rest with
  | none, _ => .broken 1 .badStart
  | some 1, _ => .character n 1
  | some _, [] => .broken 1 .cutShort
  | some 2, b :: _ =>
    if isSecond first b then .character ((n - 0xc0) * 64 + payload b) 2
    else .broken 1 .badContinuation
  | some size, b :: more =>
    if !isSecond first b then .broken 1 .badContinuation
    else
      match more with
      | [] => .broken 2 .cutShort
      | c :: most =>
        if !isContinuation c then .broken 2 .badContinuation
        else if size = 3 then .character ((n - 0xe0) * 4096 + payload b * 64 + payload c) 3
        else
          match most with
          | [] => .broken 3 .cutShort
          | d :: _ =>
            if !isContinuation d then .broken 3 .badContinuation
            else
              .character ((n - 0xf0) * 262144 + payload b * 4096 + payload c * 64 + payload d) 4

end Utf8

/-- The characters of bytes after some that are already used; `fallback` says
what becomes of bytes that form none. -/
def charactersFrom (fallback : Bytes → List Char) : Nat → Bytes → List Char
  | _, [] => []
  | used + 1, _ :: rest => charactersFrom fallback used rest
  | 0, first :: rest =>
    match Utf8.head first rest with
    | .character point size => Char.ofNat point :: charactersFrom fallback (size - 1) rest
    | .broken size _ =>
      fallback ((first :: rest).take size) ++ charactersFrom fallback (size - 1) rest

/-- The text of bytes, with a mark for bytes that form no character. -/
def ofBytes (bytes : Bytes) : String :=
  String.ofList (charactersFrom (fun _ => [Char.ofNat 0xfffd]) 0 bytes)

end GridCommons.Text
