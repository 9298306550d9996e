import GridCommons.Text.Ranges
import GridCommons.Time

/-!
Contract: reading days and instants that are handed in as texts.

Owns:
- a day as year, month and day with dashes;
- an instant as a day, or as a day and a time of day with or without a zone;
- the difference between a text of another shape and one that names no day or no
  time.
-/

namespace GridCommons

/-- Why a text names no day or instant. -/
inductive Misread where
  | shape
  | day
  | time
deriving DecidableEq, Repr

/-- A number of at least and at most so many digits. -/
def digits? (least most : Nat) (cs : List Char) : Option Nat :=
  if least ≤ cs.length ∧ cs.length ≤ most ∧ cs.all Char.isDigit then
    some (Text.plainNumber cs)
  else none

/-- The day that a text names.  Month and day may have one digit. -/
def Date.read (s : List Char) : Except Misread Date :=
  match (Text.pieces '-' s) with
  | [year, month, day] =>
    match digits? 4 4 year, digits? 1 2 month, digits? 1 2 day with
    | some y, some m, some d =>
      let date : Date := ⟨y, m, d⟩
      if date.Exists then .ok date else .error .day
    | _, _, _ => .error .shape
  | _ => .error .shape

namespace Instant

/-- The seconds that a zone is ahead of universal time. -/
def zone? : List Char → Option Int
  | [] | ['Z'] => some 0
  | sign :: rest =>
    match digits? 4 4 (rest.filter fun c => c ≠ ':') with
    | some n =>
      let ahead : Int := (n / 100) * 3600 + (n % 100) * 60
      if sign = '+' then some ahead else if sign = '-' then some (-ahead) else none
    | none => none

/-- The seconds since midnight that hours, minutes and seconds make; the seconds may
be left out. -/
def clock (s : List Char) : Except Misread Nat :=
  match (Text.pieces ':' s).map (digits? 1 2) with
  | [some hour, some minute] => check hour minute 0
  | [some hour, some minute, some second] => check hour minute second
  | _ => .error .shape
where
  /-- A time of day that exists. -/
  check (hour minute second : Nat) : Except Misread Nat :=
    if hour < 24 ∧ minute < 60 ∧ second < 60 then .ok (hour * 3600 + minute * 60 + second)
    else .error .time

/-- The instant that a text names.  A day alone means its midnight. -/
def read (s : List Char) : Except Misread Instant :=
  let day := s.takeWhile fun c => !(c = 'T' || c = ' ')
  match s.drop day.length with
  | [] => (Date.read day).map fun date => ofDate date 0
  | _ :: rest =>
    let time := rest.takeWhile fun c => c.isDigit || c = ':'
    match Date.read day, clock time, zone? (rest.drop time.length) with
    | .ok date, .ok second, some ahead => .ok ((ofDate date second).later (-ahead))
    | .error .shape, _, _ | _, .error .shape, _ | _, _, none => .error .shape
    | _, _, _ => .error .time

end Instant

end GridCommons
