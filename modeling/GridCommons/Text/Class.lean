import GridCommons.Text.ClassTable

/-!
Contract: the classes of characters that names, numerals and quotations are
judged by.

Owns: the predicates on characters.  ASCII and the wide forms of its letters
and digits are answered directly; every other character by the tables of Unicode 14.0.
-/

namespace GridCommons.Text

/-- Characters that trimming removes and that a blank in a date pattern
matches. -/
def isBlank (c : Char) : Bool :=
  let n := c.toNat
  (9 ≤ n && n ≤ 13) || (28 ≤ n && n ≤ 32) || n = 0x85 || n = 0xa0 || n = 0x1680 ||
    (0x2000 ≤ n && n ≤ 0x200a) || n = 0x2028 || n = 0x2029 || n = 0x202f || n = 0x205f ||
    n = 0x3000

def isPlainDigit (c : Char) : Bool :=
  '0' ≤ c && c ≤ '9'

def isPlainLetter (c : Char) : Bool :=
  ('a' ≤ c && c ≤ 'z') || ('A' ≤ c && c ≤ 'Z')

def isWide (c : Char) : Bool :=
  let n := c.toNat
  (0xff10 ≤ n && n ≤ 0xff19) || (0xff21 ≤ n && n ≤ 0xff3a) || (0xff41 ≤ n && n ≤ 0xff5a)

/-- Letters, numbers and the low line of any script. -/
def isWord (c : Char) : Bool :=
  if c.toNat < 128 then isPlainLetter c || isPlainDigit c || c = '_'
  else isWide c || ClassTable.word.has c.toNat

def decimalValue? (c : Char) : Option Nat :=
  let n := c.toNat
  if n < 128 then
    if isPlainDigit c then some (n - 48) else none
  else
    match Ranges.lastAtMost (fun i => ClassTable.zeros.getD i 0) n 0 ClassTable.zeros.size with
    | some i =>
      let start := ClassTable.zeros.getD i 0
      if n < start + 10 then some (n - start) else none
    | none => none

/-- Decimal digits and other digits, such as superscripts. -/
def isDigit (c : Char) : Bool :=
  (decimalValue? c).isSome || (128 ≤ c.toNat && ClassTable.otherDigits.has c.toNat)

/-- Code points that stand for themselves in a quotation. -/
def isPrintablePoint (n : Nat) : Bool :=
  if n < 128 then 32 ≤ n && n < 127
  else ClassTable.printable.has n

/-- Separators: blanks of any width and line and paragraph marks. -/
def isSeparator (c : Char) : Bool :=
  isBlank c && !(c.toNat < 32) && c.toNat ≠ 0x85

/-- Control and format characters, private and unassigned ones. -/
def isControl (c : Char) : Bool :=
  !isPrintablePoint c.toNat && !isSeparator c

/-- Remove blanks from both ends. -/
def strip (s : List Char) : List Char :=
  ((s.dropWhile isBlank).reverse.dropWhile isBlank).reverse

/-- Remove blanks from both ends of a text. -/
def trim (s : String) : String :=
  String.ofList (strip s.toList)

end GridCommons.Text
