import GridCommons.Text.Class

/-!
Contract: the hosts under which the site answers.

Owns: how a host is read from a request, and which hosts are known.  A number after
a colon is left out, letters are taken as small ones, and one point at the end of a
name does not count.
-/

namespace GridCommons.Front.Host

/-- The hosts under which the site answers. -/
def known : List String := ["localhost", "87.228.77.37", "127.0.0.1", "testserver"]

def isNameChar (c : Char) : Bool :=
  ('a' ≤ c && c ≤ 'z') || Text.isPlainDigit c || c = '.' || c = '-'

def splitColon (s : List Char) : List Char × Option (List Char) :=
  let tail := (s.reverse.takeWhile fun c => c ≠ ':').reverse
  if s.contains ':' then (s.take (s.length - tail.length - 1), some tail) else (s, none)

def isNumber (tail : List Char) : Bool :=
  !tail.isEmpty && tail.all Text.isPlainDigit

/-- Leave out one point at the end of a name. -/
def dropPoint (s : List Char) : List Char :=
  if s.getLast? = some '.' then s.dropLast else s

def name? (host : String) : Option String :=
  let (name, tail) := splitColon (host.toList.map Char.toLower)
  if !name.isEmpty && name.all isNameChar && (tail.map isNumber).getD true then
    some (String.ofList (dropPoint name))
  else none

/-- The site answers under a host. -/
def isKnown (host : String) : Bool :=
  (name? host).any known.contains

end GridCommons.Front.Host
