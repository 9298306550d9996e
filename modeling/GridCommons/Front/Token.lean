import GridCommons.Text.Class

/-!
Contract: tokens against forged submissions.

Owns:
- the shape of a token: a secret of 32 letters and digits, or a mask followed by the
  secret moved on by it;
- the secret that a token stands for, and when two tokens stand for one secret.
-/

namespace GridCommons.Front.Token

/-- The characters of tokens, in the order in which they are counted. -/
def alphabet : List Char :=
  "abcdefghijklmnopqrstuvwxyzABCDEFGHIJKLMNOPQRSTUVWXYZ0123456789".toList

def secretLength : Nat := 32

def place (c : Char) : Nat :=
  alphabet.idxOf c

/-- The character at a place, counted around the alphabet. -/
def charAt (n : Nat) : Char :=
  (alphabet[n % alphabet.length]?).getD 'a'

/-- A text has the shape of a token. -/
def wellFormed (token : List Char) : Bool :=
  (token.length == secretLength || token.length == 2 * secretLength) &&
    token.all alphabet.contains

/-- Move a character back by a mask. -/
def unmask (mask cipher : Char) : Char :=
  charAt (place cipher + alphabet.length - place mask)

def secret (token : List Char) : List Char :=
  if token.length = 2 * secretLength then
    (token.take secretLength).zipWith unmask (token.drop secretLength)
  else token

/-- Two well-formed tokens stand for one secret. -/
def agree (cookie token : String) : Bool :=
  wellFormed cookie.toList && wellFormed token.toList &&
    secret cookie.toList == secret token.toList

end GridCommons.Front.Token
