import GridCommons.Account.Network
import GridCommons.Text.Case

/-!
Contract: electronic mail addresses.

Owns: which texts are addresses, and the stored form of an address, whose domain
is in lower case.
-/

namespace GridCommons.Account.Email

/-- The most characters an address may have to be looked at. -/
def lengthLimit : Nat := 320

/-- A letter that has a plain letter as one of its case forms. -/
def isAnyCaseLetter (c : Char) : Bool :=
  Text.isPlainLetter c || c.toNat = 0x130 || c.toNat = 0x131 || c.toNat = 0x212a || c.toNat = 0x17f

def isAlphanumeric (c : Char) : Bool :=
  isAnyCaseLetter c || Text.isPlainDigit c

def isAtomCharacter (c : Char) : Bool :=
  isAlphanumeric c || "-!#$%&'*+/=?^_`\x7b\x7d|~".toList.contains c

/-- A local part of atoms with points between them. -/
def isDotAtom (s : List Char) : Bool :=
  (Text.pieces '.' s).all fun atom => !atom.isEmpty && atom.all isAtomCharacter

/-- A character that stands for itself in a quoted local part. -/
def isQuotedCharacter (c : Char) : Bool :=
  let n := c.toNat
  (1 ≤ n && n ≤ 8) || n = 11 || n = 12 || (14 ≤ n && n ≤ 31) || n = 33 || (35 ≤ n && n ≤ 91) ||
    (93 ≤ n && n ≤ 127) || isAnyCaseLetter c

/-- A character that may follow a backslash in a quoted local part. -/
def isEscapedCharacter (c : Char) : Bool :=
  let n := c.toNat
  (1 ≤ n && n ≤ 9) || n = 11 || n = 12 || (14 ≤ n && n ≤ 127) || isAnyCaseLetter c

/-- What follows the opening quotation mark of a local part. -/
def isQuotedRest : List Char → Bool
  | [] => false
  | ['"'] => true
  | '\\' :: c :: rest => isEscapedCharacter c && isQuotedRest rest
  | c :: rest => isQuotedCharacter c && isQuotedRest rest

def isQuotedString : List Char → Bool
  | '"' :: rest => isQuotedRest rest
  | _ => false

def isLabel (s : List Char) : Bool :=
  !s.isEmpty && s.length ≤ 63 && (s.all fun c => isAlphanumeric c || c = '-') &&
    s.head? ≠ some '-' && s.getLast? ≠ some '-'

/-- The last label of a domain. -/
def isTopLabel (s : List Char) : Bool :=
  2 ≤ s.length && s.length ≤ 63 && (s.all fun c => isAlphanumeric c || c = '-') &&
    s.getLast? ≠ some '-'

/-- A domain of at least two labels. -/
def isDomainName (s : List Char) : Bool :=
  let labels := Text.pieces '.' s
  2 ≤ labels.length && labels.dropLast.all isLabel && isTopLabel (labels.getLast?.getD [])

def isBracketed (s : List Char) : Bool :=
  match s with
  | '[' :: rest =>
    rest.getLast? = some ']' && Network.isAddress rest.dropLast
  | _ => false

/-- The texts before and after the last at sign. -/
def splitLast (s : List Char) : Option (List Char × List Char) :=
  let domain := (s.reverse.takeWhile fun c => c ≠ '@').reverse
  if s.contains '@' then some (s.take (s.length - domain.length - 1), domain) else none

def isDomain (s : List Char) : Bool :=
  isDomainName s || isBracketed s

/-- An address: a local part and a domain.  A domain that is none as it stands is
judged by its ASCII form. -/
def isValid (asciiDomain : List Char → Option (List Char)) (s : String) : Bool :=
  match splitLast s.toList with
  | none => false
  | some (owner, domain) =>
    s.length ≤ lengthLimit && (isDotAtom owner || isQuotedString owner) &&
      (domain = "localhost".toList || isDomain domain || (asciiDomain domain).any isDomain)

/-- The stored form: the domain is in lower case, and blanks around the whole go
with it.  A text without an at sign stays as it is. -/
def stored (s : String) : String :=
  match splitLast (Text.strip s.toList) with
  | none => s
  | some (owner, domain) => String.ofList (owner ++ '@' :: Text.lower domain)

end GridCommons.Account.Email
