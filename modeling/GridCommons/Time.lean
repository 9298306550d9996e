/-!
Contract: days of the calendar and instants of the site's clock.

Owns:
- days, with the rule that a day exists;
- instants as whole seconds, and the day and time of day of one;
- the written shapes of both.

The calendar is the Gregorian one, extended to all years, and the clock runs in
universal time.
-/

namespace GridCommons

structure Date where
  year : Nat
  month : Nat
  day : Nat
deriving DecidableEq, Repr

/-- An instant: whole seconds since the start of 1970. -/
structure Instant where
  seconds : Int
deriving DecidableEq, Repr

/-- A decimal number with zeros in front up to a width. -/
def padded (width n : Nat) : String :=
  let digits := toString n
  String.ofList (List.replicate (width - digits.length) '0') ++ digits

namespace Date

def isLeap (year : Nat) : Bool :=
  year % 4 = 0 && (year % 100 ≠ 0 || year % 400 = 0)

def monthLength (year month : Nat) : Nat :=
  if month = 2 then if isLeap year then 29 else 28
  else if month = 4 ∨ month = 6 ∨ month = 9 ∨ month = 11 then 30
  else 31

def Exists (d : Date) : Prop :=
  1 ≤ d.year ∧ d.year ≤ 9999 ∧ 1 ≤ d.month ∧ d.month ≤ 12 ∧ 1 ≤ d.day ∧
    d.day ≤ monthLength d.year d.month

instance (d : Date) : Decidable d.Exists := by
  unfold Exists
  infer_instance

/-- Days from the start of 1970 to a day.  Years are counted from March, so that
the leap day ends a year. -/
def toDays (d : Date) : Int :=
  let year : Int := if d.month ≤ 2 then (d.year : Int) - 1 else d.year
  let era := year.fdiv 400
  let yearOfEra := year - era * 400
  let monthFromMarch : Int := (d.month + 9) % 12
  let dayOfYear := (153 * monthFromMarch + 2).fdiv 5 + d.day - 1
  let dayOfEra := yearOfEra * 365 + yearOfEra.fdiv 4 - yearOfEra.fdiv 100 + dayOfYear
  era * 146097 + dayOfEra - 719468

/-- The day that lies a number of days after the start of 1970. -/
def ofDays (days : Int) : Date :=
  let shifted := days + 719468
  let era := shifted.fdiv 146097
  let dayOfEra := shifted - era * 146097
  let yearOfEra :=
    (dayOfEra - dayOfEra.fdiv 1460 + dayOfEra.fdiv 36524 - dayOfEra.fdiv 146096).fdiv 365
  let dayOfYear :=
    dayOfEra - (365 * yearOfEra + yearOfEra.fdiv 4 - yearOfEra.fdiv 100)
  let monthFromMarch := (5 * dayOfYear + 2).fdiv 153
  let day := dayOfYear - (153 * monthFromMarch + 2).fdiv 5 + 1
  let month := if monthFromMarch < 10 then monthFromMarch + 3 else monthFromMarch - 9
  let year := yearOfEra + era * 400 + (if month ≤ 2 then 1 else 0)
  ⟨year.toNat, month.toNat, day.toNat⟩

/-- Year, month and day with dashes. -/
def toText (d : Date) : String :=
  padded 4 d.year ++ "-" ++ padded 2 d.month ++ "-" ++ padded 2 d.day

/-- Day, month and year with points. -/
def dotted (d : Date) : String :=
  padded 2 d.day ++ "." ++ padded 2 d.month ++ "." ++ padded 4 d.year

def monthNames : List String :=
  ["Jan.", "Feb.", "March", "April", "May", "June", "July", "Aug.", "Sept.", "Oct.", "Nov.", "Dec."]

def inWords (d : Date) : String :=
  let month := monthNames.getD (d.month - 1) ""
  month ++ " " ++ toString d.day ++ ", " ++ padded 4 d.year

end Date

namespace Instant

def dayLength : Int := 86400

def later (t : Instant) (seconds : Int) : Instant :=
  ⟨t.seconds + seconds⟩

def date (t : Instant) : Date :=
  Date.ofDays (t.seconds.fdiv dayLength)

def secondOfDay (t : Instant) : Nat :=
  (t.seconds.fmod dayLength).toNat

/-- The instant of a day and a time of day. -/
def ofDate (d : Date) (secondOfDay : Nat) : Instant :=
  ⟨d.toDays * dayLength + secondOfDay⟩

def hourMinute (t : Instant) : String :=
  padded 2 (t.secondOfDay / 3600) ++ ":" ++ padded 2 (t.secondOfDay / 60 % 60)

/-- Day and time with a letter between them. -/
def toText (t : Instant) : String :=
  t.date.toText ++ "T" ++ t.hourMinute ++ ":" ++ padded 2 (t.secondOfDay % 60)

/-- The instant that the written shape of `toText` names. -/
def ofText? (s : String) : Option Instant :=
  let number (cs : List Char) : Option Nat :=
    if !cs.isEmpty && cs.all Char.isDigit then
      some (cs.foldl (fun total c => total * 10 + (c.toNat - 48)) 0)
    else none
  match s.toList with
  | y1 :: y2 :: y3 :: y4 :: '-' :: m1 :: m2 :: '-' :: d1 :: d2 :: 'T' ::
      h1 :: h2 :: ':' :: n1 :: n2 :: ':' :: s1 :: s2 :: [] => do
    let date : Date := ⟨← number [y1, y2, y3, y4], ← number [m1, m2], ← number [d1, d2]⟩
    let hour ← number [h1, h2]
    let minute ← number [n1, n2]
    let second ← number [s1, s2]
    return ofDate date (hour * 3600 + minute * 60 + second)
  | _ => none

end Instant

end GridCommons
