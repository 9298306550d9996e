import GridCommons.Fault
import GridCommons.Text.Percent

/-!
Contract: patterns of addresses.

Owns:
- patterns of fixed pieces, numbers, words and paths;
- matching: which parameters a path gives to a pattern;
- filling: the path that a pattern and parameters make up.
-/

namespace GridCommons.Web

open GridCommons.Json (Value)

inductive Segment where
  | fixed (text : String)
  | number (name : String)
  | word (name : String)
  | path (name : String)
  | oneOf (name : String) (words : List String)
  | remainder (name : String)
deriving DecidableEq, Repr

inductive Param where
  | number (n : Nat)
  | word (s : String)
deriving DecidableEq, Repr

def Param.toJson : Param → Value
  | .number n => .nat n
  | .word s => .text s

namespace Segment

def name? : Segment → Option String
  | .fixed _ => none
  | .number name | .word name | .path name | .oneOf name _ | .remainder name => some name

def numberOf (digits : List Char) : Nat :=
  digits.foldl (fun total c => total * 10 + (c.toNat - 48)) 0

def dropFixed : List Char → List Char → Option (List Char)
  | [], s => some s
  | _ :: _, [] => none
  | c :: wanted, d :: rest => if c = d then dropFixed wanted rest else none

/-- The ways to take a piece off the front of a path, the preferred one first. -/
def ways (segment : Segment) (s : List Char) : List (Option Param × List Char) :=
  match segment with
  | .fixed text => ((dropFixed text.toList s).map fun rest => (none, rest)).toList
  | .number _ =>
    let digits := s.takeWhile Text.isPlainDigit
    if digits.isEmpty || digits.length > Numeral.digitLimit then []
    else [(some (.number (numberOf digits)), s.drop digits.length)]
  | .word _ =>
    let word := s.takeWhile fun c => c ≠ '/'
    if word.isEmpty then [] else [(some (.word (String.ofList word)), s.drop word.length)]
  | .path _ =>
    let line := s.takeWhile fun c => c ≠ '\n'
    ((List.range line.length).map fun i =>
      (some (.word (String.ofList (s.take (i + 1)))), s.drop (i + 1))).reverse
  | .oneOf _ words =>
    words.filterMap fun word =>
      (dropFixed word.toList s).map fun rest => (some (.word word), rest)
  | .remainder _ =>
    if s.contains '\n' then [] else [(some (.word (String.ofList s)), [])]

end Segment

/-- Match pieces against a whole path, and return the parameters. -/
def matchSegments : List Segment → List Char → Option (List Param)
  | [], [] => some []
  | [], _ :: _ => none
  | segment :: segments, s =>
    (segment.ways s).findSome? fun (param, rest) =>
      (matchSegments segments rest).map fun params => param.toList ++ params

/-- Fill pieces with the texts of parameters; none if their number is wrong. -/
def fillSegments : List Segment → List String → Option String
  | [], [] => some ""
  | [], _ :: _ => none
  | .fixed text :: segments, args => (fillSegments segments args).map fun rest => text ++ rest
  | _ :: _, [] => none
  | _ :: segments, arg :: args => (fillSegments segments args).map fun rest => arg ++ rest

def argumentText : Value → String
  | .str (.whole s) => s
  | v => v.shown

/-- Characters of a filled address that are not written as bytes. -/
def addressSafe : String := "!$&'()*+,;=/~:@"

end GridCommons.Web
