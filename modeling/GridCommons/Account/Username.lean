import GridCommons.Text.Class
import GridCommons.Text.Normal

/-!
Contract: names of users.

Owns: the characters and the length a name may have, and the stored form of a
name.
-/

namespace GridCommons.Account.Username

/-- The most characters a name may have. -/
def lengthLimit : Nat := 150

def isNameCharacter (c : Char) : Bool :=
  Text.isWord c || c = '.' || c = '@' || c = '+' || c = '-'

/-- A name that has the right characters. -/
def isValid (s : String) : Bool :=
  !s.isEmpty && s.toList.all isNameCharacter

/-- The stored form: characters that differ only in appearance are made one. -/
def stored (s : String) : String :=
  Text.compatibilityForm s

/-- Complaint about a wrong character. -/
def invalidMessage : String :=
  "Enter a valid username. This value may contain only letters, numbers, and @/./+/-/_ characters."

def takenMessage : String :=
  "A user with that username already exists."

end GridCommons.Account.Username
