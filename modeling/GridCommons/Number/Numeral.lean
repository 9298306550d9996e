import GridCommons.Text.Quoted

/-!
Contract: whole numbers written in digits of any script.

Owns:
- the written shape: blanks, a sign, digits with single low lines between them;
- the limit on the number of digits;
- the two ways a text can fail to be a numeral, with their messages.
-/

namespace GridCommons.Numeral

/-- Why a text is no numeral. -/
inductive Fault where
  | malformed (points : List Nat)
  | tooLong (digits : Nat)
deriving DecidableEq, Repr

def digitLimit : Nat := 4300

def tooLongMessage (digits : Nat) : String :=
  s!"Exceeds the limit ({digitLimit} digits) for integer string conversion: value has {digits} digits; " ++
    "use sys.set_int_max_str_digits() to increase the limit"

/-- The wording of a fault.  The text is quoted, and cut after 200 characters. -/
def Fault.message : Fault → String
  | .malformed points =>
    "invalid literal for int() with base 10: " ++
      String.ofList ((Text.Quoted.encodePoints points).take 200)
  | .tooLong digits => tooLongMessage digits

/-- Blanks around a numeral: the ASCII ones that move the print position, and
every blank outside ASCII. -/
def isBlank (c : Char) : Bool :=
  if c.toNat < 127 then c = ' ' || (9 ≤ c.toNat && c.toNat ≤ 13) else Text.isBlank c

/-- The longest run of digits and low lines. -/
def body (s : List Char) : List Char :=
  s.takeWhile fun c => c = '_' || (Text.decimalValue? c).isSome

/-- Low lines stand only between digits. -/
def lowLinesBetween : List Char → Bool
  | [] => true
  | ['_'] => false
  | '_' :: '_' :: _ => false
  | _ :: rest => lowLinesBetween rest

def valueOf (s : List Char) : Nat :=
  s.foldl
    (fun total c =>
      match Text.decimalValue? c with
      | some d => total * 10 + d
      | none => total)
    0

def digitsIn (s : List Char) : Nat :=
  s.countP fun c => c ≠ '_'

def splitSign : List Char → Bool × List Char
  | '-' :: rest => (true, rest)
  | '+' :: rest => (false, rest)
  | s => (false, s)

def read (s : List Char) : Except Fault Int :=
  let malformed := Fault.malformed (s.map Char.toNat)
  let (negative, rest) := splitSign (s.dropWhile isBlank)
  let digits := body rest
  if digits.isEmpty || digits.head? = some '_' || !lowLinesBetween digits then
    .error malformed
  else if digitsIn digits > digitLimit then
    .error (.tooLong (digitsIn digits))
  else if ((rest.drop digits.length).dropWhile isBlank).isEmpty then
    let size : Int := valueOf digits
    .ok (if negative then -size else size)
  else
    .error malformed

end GridCommons.Numeral
