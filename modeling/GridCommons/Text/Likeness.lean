/-!
Contract: how alike two texts are.

Owns:
- the length of the blocks that two texts share: the longest common block, and what
  is shared on its left and on its right;
- the candidates that are alike enough to a text, and the best of them.

Of several longest blocks the leftmost counts, in the first text before the second.
-/

namespace GridCommons.Text.Likeness

def commonStart : List Char → List Char → Nat
  | a :: as, b :: bs => if a = b then commonStart as bs + 1 else 0
  | _, _ => 0

/-- A common block: where it starts in either text, and its length. -/
structure Block where
  left : Nat
  right : Nat
  length : Nat
deriving DecidableEq, Repr

/-- The longer of two blocks; the first one if they are equally long. -/
def Block.longer (a b : Block) : Block :=
  if a.length < b.length then b else a

/-- The longest block of the first text's start in the second text, which starts at
a place. -/
def longestAt (left : Nat) (a : List Char) : Nat → List Char → Block
  | right, [] => ⟨left, right, 0⟩
  | right, b :: bs =>
    Block.longer ⟨left, right, commonStart a (b :: bs)⟩ (longestAt left a (right + 1) bs)

/-- The longest common block of two texts, of which the first starts at a place. -/
def longestFrom (b : List Char) : Nat → List Char → Block
  | left, [] => ⟨left, 0, 0⟩
  | left, a :: as => Block.longer (longestAt left (a :: as) 0 b) (longestFrom b (left + 1) as)

def longest (a b : List Char) : Block :=
  longestFrom b 0 a

/-- The number of characters in the blocks that two texts share.  The fuel is the
length of the first text. -/
def shared : Nat → List Char → List Char → Nat
  | 0, _, _ => 0
  | fuel + 1, a, b =>
    let block := longest a b
    if block.length = 0 then 0
    else
      block.length + shared fuel (a.take block.left) (b.take block.right) +
        shared fuel (a.drop (block.left + block.length)) (b.drop (block.right + block.length))

structure Candidate where
  name : String
  shared : Nat
  total : Nat
deriving Repr

def compare (text name : String) : Candidate :=
  { name
    shared := shared name.length name.toList text.toList
    total := name.length + text.length }

/-- Alike enough: three fifths of all characters are shared. -/
def Candidate.isClose (c : Candidate) : Bool :=
  decide (3 * c.total ≤ 5 * (2 * c.shared))

/-- One candidate comes before another: it is more alike, or equally alike with the
greater name. -/
def Candidate.better (a b : Candidate) : Bool :=
  b.shared * a.total < a.shared * b.total ||
    (b.shared * a.total == a.shared * b.total && b.name < a.name)

/-- The candidate that is most like a text, if one is alike enough. -/
def closest? (text : String) (names : List String) : Option String :=
  let close := (names.map (compare text)).filter Candidate.isClose
  match close with
  | [] => none
  | first :: rest => some (rest.foldl (fun a b => if b.better a then b else a) first).name

end GridCommons.Text.Likeness
