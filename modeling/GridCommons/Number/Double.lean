/-!
Contract: binary floating-point numbers of double precision as exact values.

Owns:
- the numbers: a sign, a whole mantissa and a power of two, besides the two
  infinities and the value that is no number;
- the nearest number to a decimal, a half going to the even mantissa;
- the whole part, and the fewest decimal digits that read back.

Does not own: arithmetic on the numbers, which no part of the site needs.
-/

namespace GridCommons

/-- A floating-point number; a finite one has the value
`mantissa * 2 ^ exponent`, negated when `negative` holds. -/
inductive Double where
  | nan
  | infinite (negative : Bool)
  | finite (negative : Bool) (mantissa : Nat) (exponent : Int)
deriving DecidableEq, Repr

namespace Double

/-- The quotient of two numbers rounded to the nearest whole number, a half to
the even neighbour. -/
def roundQuotient (num den : Nat) : Nat :=
  let quotient := num / den
  let rest := num % den
  if 2 * rest < den then quotient
  else if 2 * rest > den then quotient + 1
  else if quotient % 2 = 0 then quotient
  else quotient + 1

/-- `num / den * 2 ^ power` as a pair of a numerator and a denominator. -/
def scale (num den : Nat) (power : Int) : Nat × Nat :=
  if 0 ≤ power then (num * Nat.pow 2 power.toNat, den) else (num, den * Nat.pow 2 (-power).toNat)

/-- The greatest power of two that is at most `num / den`, for positive
arguments. -/
def binaryOrder (num den : Nat) : Int :=
  let guess : Int := (num.log2 : Int) - den.log2
  let (n, d) := scale num den (-guess)
  if d ≤ n then guess else guess - 1

/-- The number nearest to `num / den`. -/
def ofRatio (negative : Bool) (num den : Nat) : Double :=
  if num = 0 ∨ den = 0 then .finite negative 0 0
  else
    let power := max (binaryOrder num den - 52) (-1074)
    let (n, d) := scale num den (-power)
    let mantissa := roundQuotient n d
    let (mantissa, power) :=
      if mantissa = Nat.pow 2 53 then (Nat.pow 2 52, power + 1) else (mantissa, power)
    if power > 971 then .infinite negative else .finite negative mantissa power

/-- The number of decimal digits; zero has none. -/
def digitCount (n : Nat) : Nat :=
  if n = 0 then 0 else (Nat.toDigits 10 n).length

/-- The number nearest to `digits * 10 ^ power`. -/
def ofDecimal (negative : Bool) (digits : Nat) (power : Int) : Double :=
  let magnitude := (digitCount digits : Int) + power
  if digits = 0 ∨ magnitude < -330 then .finite negative 0 0
  else if magnitude > 310 then .infinite negative
  else if 0 ≤ power then ofRatio negative (digits * Nat.pow 10 power.toNat) 1
  else ofRatio negative digits (Nat.pow 10 (-power).toNat)

/-- The size of a finite number as a pair of a numerator and a denominator. -/
def ratio (mantissa : Nat) (exponent : Int) : Nat × Nat :=
  scale mantissa 1 exponent

/-- The whole part, cut toward zero; none for an infinity or for no number. -/
def wholePart? : Double → Option Int
  | .finite negative mantissa exponent =>
    let (num, den) := ratio mantissa exponent
    let size : Int := num / den
    some (if negative then -size else size)
  | _ => none

/-- The position of the decimal point: the least `p` with
`num / den < 10 ^ p`, for positive arguments. -/
def decimalOrder (num den : Nat) : Int :=
  if den ≤ num then digitCount (num / den)
  else
    let zeros := digitCount (den / num)
    if num * Nat.pow 10 (zeros - 1) < den then 1 - (zeros : Int) else 2 - (zeros : Int)

/-- Whole numbers of `count` digits next to the number on the grid of that
many digits, the nearer one first. -/
def neighbours (num den : Nat) (order : Int) (count : Nat) : List Nat :=
  let power := (count : Int) - order
  let (n, d) :=
    if 0 ≤ power then (num * Nat.pow 10 power.toNat, den) else (num, den * Nat.pow 10 (-power).toNat)
  let below := n / d
  if n % d = 0 then [below]
  else if roundQuotient n d = below then [below, below + 1]
  else [below + 1, below]

/-- The fewest decimal digits that read back, tried from `count` digits on: the
digits and the power of ten of the last one. -/
def shortestFrom (num den : Nat) (order : Int) (target : Double) : Nat → Nat → Nat × Int
  | 0, count =>
    let digits := (neighbours num den order count).headD 0
    (digits, order - count)
  | more + 1, count =>
    match (neighbours num den order count).find? fun digits =>
        ofDecimal false digits (order - count) = target with
    | some digits => (digits, order - count)
    | none => shortestFrom num den order target more (count + 1)

/-- The fewest decimal digits that read back and the power of ten of the last
one. -/
def shortest (mantissa : Nat) (exponent : Int) : Nat × Int :=
  if mantissa = 0 then (0, 0)
  else
    let (num, den) := ratio mantissa exponent
    shortestFrom num den (decimalOrder num den) (.finite false mantissa exponent) 16 1

def dropTrailingZeros (digits : List Char) : List Char :=
  (digits.reverse.dropWhile (· = '0')).reverse

/-- An exponent with its sign and at least two digits. -/
def showExponent (e : Int) : String :=
  let size := toString e.natAbs
  let padded := if size.length < 2 then "0" ++ size else size
  (if e < 0 then "-" else "+") ++ padded

/-- The text of a finite number: positional from `10 ^ -4` up to `10 ^ 16`, with
an exponent beyond. -/
def showFinite (mantissa : Nat) (exponent : Int) : String :=
  if mantissa = 0 then "0.0"
  else
    let (value, power) := shortest mantissa exponent
    let digits := Nat.toDigits 10 value
    let point : Int := digits.length + power
    let kept := dropTrailingZeros digits
    if point ≤ -4 ∨ 16 < point then
      let mantissaText :=
        match kept with
        | first :: [] => String.ofList [first]
        | first :: rest => String.ofList (first :: '.' :: rest)
        | [] => "0"
      mantissaText ++ "e" ++ showExponent (point - 1)
    else if point ≤ 0 then
      "0." ++ String.ofList (List.replicate (-point).toNat '0' ++ kept)
    else
      let whole := kept.take point.toNat
      let wholeText := whole ++ List.replicate (point.toNat - whole.length) '0'
      let fraction := kept.drop point.toNat
      String.ofList wholeText ++ "." ++ String.ofList (if fraction.isEmpty then ['0'] else fraction)

def toText : Double → String
  | .nan => "nan"
  | .infinite negative => if negative then "-inf" else "inf"
  | .finite negative mantissa exponent =>
    (if negative then "-" else "") ++ showFinite mantissa exponent

end Double

end GridCommons
