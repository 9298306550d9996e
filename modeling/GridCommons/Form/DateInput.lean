import GridCommons.Form.Basic
import GridCommons.Time

/-!
Contract: days as visitors write them.

Owns: the shapes in which a day may be written, tried one after another, and the
rule for a day that may be left out.

Where a shape can be read in several ways the first way counts, and a shape fits
only if it uses the whole text.
-/

namespace GridCommons.Form.DateInput

inductive Part where
  | year
  | shortYear
  | month
  | monthName (names : List String)
  | day
  | blanks
  | mark (c : Char)

def monthNames : List String :=
  ["january", "february", "march", "april", "may", "june", "july", "august", "september", "october",
    "november", "december"]

def shortMonthNames : List String :=
  monthNames.map fun name => String.ofList (name.toList.take 3)

/-- The shapes, in the order in which they are tried. -/
def shapes : List (List Part) :=
  let named (names : List String) : List (List Part) :=
    [[.monthName names, .blanks, .day, .blanks, .year],
      [.monthName names, .blanks, .day, .mark ',', .blanks, .year],
      [.day, .blanks, .monthName names, .blanks, .year],
      [.day, .blanks, .monthName names, .mark ',', .blanks, .year]]
  [[.year, .mark '-', .month, .mark '-', .day], [.month, .mark '/', .day, .mark '/', .year],
    [.month, .mark '/', .day, .mark '/', .shortYear]] ++
    named shortMonthNames ++ named monthNames

structure Reading where
  year : Nat := 0
  month : Nat := 0
  day : Nat := 0

/-- The value of digits of any script; none where one is no digit. -/
def digitsValue (s : List Char) : Option Nat :=
  s.foldlM (fun total c => (Text.decimalValue? c).map fun d => total * 10 + d) 0

def plainDigit (low high : Nat) (c : Char) : Option Nat :=
  if 48 + low ≤ c.toNat ∧ c.toNat ≤ 48 + high then some (c.toNat - 48) else none

/-- The ways to read a month number, the preferred one first. -/
def monthWays (s : List Char) : List (Nat × List Char) :=
  let two := match s with
    | '1' :: c :: rest => ((plainDigit 0 2 c).map fun d => (10 + d, rest)).toList
    | '0' :: c :: rest => ((plainDigit 1 9 c).map fun d => (d, rest)).toList
    | _ => []
  let one := match s with
    | c :: rest => ((plainDigit 1 9 c).map fun d => (d, rest)).toList
    | [] => []
  two ++ one

/-- The ways to read a day number, the preferred one first. -/
def dayWays (s : List Char) : List (Nat × List Char) :=
  let two := match s with
    | '3' :: c :: rest => ((plainDigit 0 1 c).map fun d => (30 + d, rest)).toList
    | '1' :: c :: rest => ((Text.decimalValue? c).map fun d => (10 + d, rest)).toList
    | '2' :: c :: rest => ((Text.decimalValue? c).map fun d => (20 + d, rest)).toList
    | '0' :: c :: rest => ((plainDigit 1 9 c).map fun d => (d, rest)).toList
    | _ => []
  let one := match s with
    | ' ' :: c :: rest => ((plainDigit 1 9 c).map fun d => (d, rest)).toList
    | c :: rest => ((plainDigit 1 9 c).map fun d => (d, rest)).toList
    | [] => []
  two ++ one

def nameWays (names : List String) (s : List Char) : List (Nat × List Char) :=
  (names.zipIdx.filter fun (name, _) =>
    (s.take name.length).map Char.toLower = name.toList).map fun (name, i) =>
      (i + 1, s.drop name.length)

/-- The ways to read a run of blanks, the longest first. -/
def blankWays (s : List Char) : List (List Char) :=
  let count := (s.takeWhile Text.isBlank).length
  ((List.range count).map fun i => s.drop (i + 1)).reverse

def ways (part : Part) (s : List Char) (r : Reading) : List (Reading × List Char) :=
  match part with
  | .year =>
    if s.length < 4 then []
    else ((digitsValue (s.take 4)).map fun n => ({ r with year := n }, s.drop 4)).toList
  | .shortYear =>
    if s.length < 2 then []
    else
      ((digitsValue (s.take 2)).map fun n =>
        ({ r with year := if n ≤ 68 then 2000 + n else 1900 + n }, s.drop 2)).toList
  | .month => (monthWays s).map fun (n, rest) => ({ r with month := n }, rest)
  | .monthName names => (nameWays names s).map fun (n, rest) => ({ r with month := n }, rest)
  | .day => (dayWays s).map fun (n, rest) => ({ r with day := n }, rest)
  | .blanks => (blankWays s).map fun rest => (r, rest)
  | .mark c => match s with
    | first :: rest => if first = c then [(r, rest)] else []
    | [] => []

/-- The first way to read all parts, with what is left of the text. -/
def readParts : List Part → List Char → Reading → Option (Reading × List Char)
  | [], s, r => some (r, s)
  | part :: parts, s, r =>
    (ways part s r).findSome? fun (r, rest) => readParts parts rest r

/-- The day that a text in one of the shapes names. -/
def read (s : String) : Option Date :=
  shapes.findSome? fun shape =>
    match readParts shape s.toList {} with
    | some (r, []) =>
      let date : Date := ⟨r.year, r.month, r.day⟩
      if date.Exists then some date else none
    | _ => none

/-- Complaint about a text that names no day. -/
def invalid : Complaint := ⟨"invalid", "Enter a valid date."⟩

/-- Clean a submitted day that may be left out. -/
def clean (submitted : Option String) : Cleaned (Option Date) :=
  match submitted.getD "" with
  | "" => .ok none
  | s =>
    match read (Text.trim s) with
    | some date => .ok (some date)
    | none => .error [invalid]

end GridCommons.Form.DateInput
