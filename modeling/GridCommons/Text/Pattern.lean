/-!
Contract: patterns with wildcards.

Owns:
- the pieces of a pattern, and how a written pattern is read: a mark stands for any
  run of characters, another for any one character, and a third takes the next
  character as it is;
- which texts fit a pattern, up to the case of plain letters; a null character ends
  the pattern and the text;
- the pattern of the texts that hold a given part;
- the most bytes that a pattern may have.
-/

namespace GridCommons.Text.Pattern

inductive Piece where
  | anyRun
  | anyOne
  | exactly (c : Char)
deriving DecidableEq, Repr

def runMark : Char := '%'

def oneMark : Char := '_'

def takeMark : Char := '\\'

/-- The piece that a character stands for, if no mark takes it as it is. -/
def pieceOf (c : Char) : Piece :=
  if c = runMark then .anyRun else if c = oneMark then .anyOne else .exactly c

/-- The pieces of a written pattern.  A mark at the end with no character to take
leaves none. -/
def read : List Char → Option (List Piece)
  | [] => some []
  | c :: rest =>
    if c = takeMark then
      match rest with
      | [] => none
      | taken :: rest => (read rest).map (.exactly taken :: ·)
    else (read rest).map (pieceOf c :: ·)

theorem read_take (c : Char) (rest : List Char) :
    read (takeMark :: c :: rest) = (read rest).map (.exactly c :: ·) := by
  rw [read, if_pos rfl]

theorem read_cons {c : Char} (plain : c ≠ takeMark) (rest : List Char) :
    read (c :: rest) = (read rest).map (pieceOf c :: ·) := by
  rw [read.eq_def]
  exact if_neg plain

/-- A test passes on a text, or on what is left of it after some of its first
characters. -/
def passesLater (test : List Char → Bool) : List Char → Bool
  | [] => test []
  | c :: rest => test (c :: rest) || passesLater test rest

def fits : List Piece → List Char → Bool
  | [], text => text.isEmpty
  | .anyRun :: pieces, text => passesLater (fits pieces) text
  | .anyOne :: _, [] | .exactly _ :: _, [] => false
  | .anyOne :: pieces, _ :: text => fits pieces text
  | .exactly c :: pieces, d :: text => c.toLower == d.toLower && fits pieces text

/-- A character other than the null character. -/
def isShown (c : Char) : Bool :=
  c ≠ '\x00'

/-- The characters of a text up to its first null character. -/
def beforeNull (s : String) : List Char :=
  s.toList.takeWhile isShown

def accepts (pattern text : String) : Bool :=
  (read (beforeNull pattern)).any fun pieces => fits pieces (beforeNull text)

/-- A character, written so that it stands for itself. -/
def literally (c : Char) : List Char :=
  if c = takeMark || c = runMark || c = oneMark then [takeMark, c] else [c]

/-- The pattern of the texts that hold a part. -/
def containing (part : String) : String :=
  String.ofList (runMark :: (part.toList.flatMap literally ++ [runMark]))

/-- The most bytes that a pattern may have. -/
def sizeLimit : Nat := 50000

/-- A pattern has too many bytes to be compared with any text. -/
def isTooLong (pattern : String) : Bool :=
  sizeLimit < pattern.utf8ByteSize

end GridCommons.Text.Pattern
