/-!
Contract: tables of code points written as text.

Owns:
- sorted ranges of code points and membership by halving;
- forms, that is, code points with the list of code points that replaces each;
- classes, that is, ranges with a number;
- readers for their written shape: hexadecimal, entries divided by blanks.
-/

namespace GridCommons.Text

/-- The value of a hexadecimal digit; zero for any other character. -/
def hexValue (c : Char) : Nat :=
  let n := c.toNat
  if 48 ≤ n ∧ n ≤ 57 then n - 48
  else if 97 ≤ n ∧ n ≤ 102 then n - 87
  else if 65 ≤ n ∧ n ≤ 70 then n - 55
  else 0

def hexNumber (digits : List Char) : Nat :=
  digits.foldl (fun total c => total * 16 + hexValue c) 0

def plainNumber (digits : List Char) : Nat :=
  digits.foldl (fun total c => total * 10 + (c.toNat - 48)) 0

def pieces (separator : Char) (text : List Char) : List (List Char) :=
  let (last, earlier) := text.foldr
    (fun c (current, done) =>
      if c = separator then ([], current :: done) else (c :: current, done))
    ([], [])
  last :: earlier

def entriesOf (line : String) : List (List Char) :=
  pieces ' ' line.toList

/-- Sorted, disjoint ranges of code points, ends included. -/
abbrev Ranges := Array (Nat × Nat)

namespace Ranges

/-- One written range: a single point, or two points and a dash. -/
def readRange (entry : List Char) : Nat × Nat :=
  match pieces '-' entry with
  | [low, high] => (hexNumber low, hexNumber high)
  | low :: _ => (hexNumber low, hexNumber low)
  | [] => (0, 0)

/-- Ranges from their written shape. -/
def read (lines : List String) : Ranges :=
  ((lines.flatMap entriesOf).map readRange).toArray

def readPoints (lines : List String) : Array Nat :=
  ((lines.flatMap entriesOf).map hexNumber).toArray

/-- The index of the last entry of a sorted table whose key is at most `n`,
searched below `high` and from `low` on. -/
def lastAtMost (key : Nat → Nat) (n low high : Nat) : Option Nat :=
  if low < high then
    let middle := (low + high) / 2
    if key middle ≤ n then
      (lastAtMost key n (middle + 1) high).orElse fun _ => some middle
    else
      lastAtMost key n low middle
  else
    none
termination_by high - low

def has (table : Ranges) (n : Nat) : Bool :=
  match lastAtMost (fun i => (table.getD i (0, 0)).1) n 0 table.size with
  | some i => n ≤ (table.getD i (0, 0)).2
  | none => false

end Ranges

/-- One written form: a code point, a colon and the code points that replace
it. -/
def readForm (entry : List Char) : Nat × List Nat :=
  match pieces ':' entry with
  | [point, replacement] => (hexNumber point, (pieces ',' replacement).map hexNumber)
  | _ => (0, [])

/-- Forms from their written shape, sorted by code point. -/
def readForms (lines : List String) : Array (Nat × List Nat) :=
  ((lines.flatMap entriesOf).map readForm).toArray

/-- The replacement of a code point, if the table has one. -/
def formOf? (table : Array (Nat × List Nat)) (n : Nat) : Option (List Nat) :=
  match Ranges.lastAtMost (fun i => (table.getD i (0, [])).1) n 0 table.size with
  | some i =>
    let entry := table.getD i (0, [])
    if entry.1 = n then some entry.2 else none
  | none => none

/-- One written class: a range, a colon and a decimal number. -/
def readClass (entry : List Char) : Nat × Nat × Nat :=
  match pieces ':' entry with
  | [range, number] =>
    let (low, high) := Ranges.readRange range
    (low, high, plainNumber number)
  | _ => (0, 0, 0)

/-- Classes from their written shape, sorted by range. -/
def readClasses (lines : List String) : Array (Nat × Nat × Nat) :=
  ((lines.flatMap entriesOf).map readClass).toArray

/-- The class of a code point; zero outside every range. -/
def classOf (table : Array (Nat × Nat × Nat)) (n : Nat) : Nat :=
  match Ranges.lastAtMost (fun i => (table.getD i (0, 0, 0)).1) n 0 table.size with
  | some i =>
    let entry := table.getD i (0, 0, 0)
    if n ≤ entry.2.1 then entry.2.2 else 0
  | none => 0

end GridCommons.Text
