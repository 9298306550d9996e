import GridCommons.Form.Basic
import GridCommons.Text.Case

/-!
Contract: which passwords a new user may choose.

Owns: the four rules (not close to what is known of the user, not short, not
common, not all digits) and the order of their complaints.
-/

namespace GridCommons.Account.PasswordRule

open Form (Complaint)

def leastLength : Nat := 8

/-- Something known of a user, with the name it has in complaints. -/
structure Known where
  label : String
  value : String
deriving Repr

/-- Split a text at its runs of characters that are in no word. -/
def wordParts : List Char → List Char → List (List Char)
  | current, [] => [current.reverse]
  | current, c :: rest =>
    if Text.isWord c then wordParts (c :: current) rest
    else
      match rest with
      | d :: _ => if Text.isWord d then current.reverse :: wordParts [] rest else wordParts current rest
      | [] => [current.reverse, []]

/-- The number of characters that two texts have in common, each counted as often
as it stands in both. -/
def shared : List Char → List Char → Nat
  | [], _ => 0
  | c :: rest, other => if other.contains c then shared rest (other.erase c) + 1 else shared rest other

/-- Two texts are alike: seven tenths of their characters are shared. -/
def alike (a b : List Char) : Bool :=
  a.length + b.length = 0 || 7 * (a.length + b.length) ≤ 20 * shared a b

/-- A part is too short beside a password to be compared with it. -/
def negligible (password part : List Char) : Bool :=
  password.length ≥ 10 * part.length && part.length * 100 < 35 * password.length

/-- A password is close to a known text or to a part of it. -/
def closeTo (password : String) (known : String) : Bool :=
  if known.isEmpty then false
  else
    let p := Text.lower password.toList
    let v := Text.lower known.toList
    (wordParts [] v ++ [v]).any fun part => !negligible p part && alike p part

/-- Complaint about a password close to what is known. -/
def tooSimilar (label : String) : Complaint :=
  ⟨"password_too_similar", "The password is too similar to the " ++ label ++ "."⟩

def tooShort : Complaint :=
  ⟨"password_too_short",
    s!"This password is too short. It must contain at least {leastLength} characters."⟩

def tooCommon : Complaint := ⟨"password_too_common", "This password is too common."⟩

def allDigits : Complaint := ⟨"password_entirely_numeric", "This password is entirely numeric."⟩

/-- All complaints about a password, given the common ones. -/
def complaints (common : List String) (password : String) (known : List Known) : List Complaint :=
  ((known.find? fun k => closeTo password k.value).map fun k => tooSimilar k.label).toList ++
    (if password.length < leastLength then [tooShort] else []) ++
    (if common.contains (Text.trim (String.ofList (Text.lower password.toList)))
      then [tooCommon] else []) ++
    (if !password.isEmpty && password.toList.all Text.isDigit then [allDigits] else [])

end GridCommons.Account.PasswordRule
