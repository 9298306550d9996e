import GridCommons.Text.Ranges

/-!
Contract: written addresses of network hosts.

Owns: which texts are addresses of four octets, and which are addresses of eight
groups, where one run of zero groups may be left out and the last two groups may
be written as octets.
-/

namespace GridCommons.Account.Network

def isDecimal (c : Char) : Bool :=
  '0' ≤ c && c ≤ '9'

def isHex (c : Char) : Bool :=
  isDecimal c || ('a' ≤ c && c ≤ 'f') || ('A' ≤ c && c ≤ 'F')

/-- An octet: at most 255, without zeros in front. -/
def isOctet (s : List Char) : Bool :=
  !s.isEmpty && s.length ≤ 3 && s.all isDecimal && (s = ['0'] || s.head? ≠ some '0') &&
    s.foldl (fun total c => total * 10 + (c.toNat - 48)) 0 ≤ 255

def isFourOctets (s : List Char) : Bool :=
  let octets := Text.pieces '.' s
  octets.length = 4 && octets.all isOctet

def isGroup (s : List Char) : Bool :=
  !s.isEmpty && s.length ≤ 4 && s.all isHex

/-- Write the octets at the end of an address as two groups. -/
def spellOctets (parts : List (List Char)) : Option (List (List Char)) :=
  match parts.getLast? with
  | some last =>
    if last.contains '.' then
      if isFourOctets last then some (parts.dropLast ++ [['0'], ['0']]) else none
    else some parts
  | none => some parts

/-- The places strictly inside where a group is left out. -/
def innerGaps (parts : List (List Char)) : List Nat :=
  (List.range parts.length).filter fun i =>
    0 < i && i + 1 < parts.length && (parts.getD i []).isEmpty

def isEightGroups (s : List Char) : Bool :=
  let raw := Text.pieces ':' s
  if raw.length < 3 then false
  else
    match spellOctets raw with
    | none => false
    | some parts =>
      if parts.length > 9 then false
      else
        let opens := (parts.head?.getD []).isEmpty
        let closes := (parts.getLast?.getD []).isEmpty
        match innerGaps parts with
        | [] => parts.length = 8 && !opens && !closes && parts.all isGroup
        | [gap] =>
          let before := gap - (if opens then 1 else 0)
          let after := parts.length - gap - 1 - (if closes then 1 else 0)
          (!opens || before = 0) && (!closes || after = 0) && before + after < 8 &&
            parts.all fun part => part.isEmpty || isGroup part
        | _ => false

def isAddress (s : List Char) : Bool :=
  isFourOctets s || isEightGroups s

end GridCommons.Account.Network
