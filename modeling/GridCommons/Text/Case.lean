import GridCommons.Text.CaseTable
import GridCommons.Text.Class

/-!
Contract: case mapping of whole texts.

Owns:
- lower case, with the two forms of sigma;
- upper case, where one character may become several.
-/

namespace GridCommons.Text

/-- The lower case of a Cyrillic letter from U+0400 to U+045F, where the capitals
stand before the small letters. -/
def lowerCyrillic (n : Nat) : Nat :=
  if n < 0x410 then n + 80 else if n < 0x430 then n + 32 else n

def lowerForm (c : Char) : List Char :=
  if c.toNat < 128 then [c.toLower]
  else if 0x400 ≤ c.toNat && c.toNat < 0x460 then [Char.ofNat (lowerCyrillic c.toNat)]
  else
    match formOf? CaseTable.lower c.toNat with
    | some points => points.map Char.ofNat
    | none => [c]

def upperForm (c : Char) : List Char :=
  if c.toNat < 128 then [c.toUpper]
  else
    match formOf? CaseTable.upper c.toNat with
    | some points => points.map Char.ofNat
    | none => [c]

/-- A character with case that is not transparent to it. -/
def isCased (c : Char) : Bool :=
  if c.toNat < 128 then isPlainLetter c else ClassTable.cased.has c.toNat

/-- A character transparent to the search for a cased neighbour. -/
def isCaseTransparent (c : Char) : Bool :=
  ClassTable.caseTransparent.has c.toNat

/-- The nearest character that is not transparent has case. -/
def meetsCased (s : List Char) : Bool :=
  match s.dropWhile isCaseTransparent with
  | c :: _ => isCased c
  | [] => false

/-- Lower case of a text, given the characters before it, nearest first.  A
capital sigma at the end of a word takes its final form. -/
def lowerAfter (before : List Char) : List Char → List Char
  | [] => []
  | c :: rest =>
    let form :=
      if c = 'Σ' then
        [if meetsCased before && !meetsCased rest then 'ς' else 'σ']
      else
        lowerForm c
    form ++ lowerAfter (c :: before) rest

def lower (s : List Char) : List Char :=
  lowerAfter [] s

def upper (s : List Char) : List Char :=
  s.flatMap upperForm

end GridCommons.Text
