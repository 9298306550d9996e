import GridCommons.Json.Value
import GridCommons.Number.Numeral

/-!
Contract: reading JSON documents.

Owns:
- the grammar: the values of JSON, with `NaN` and the infinities besides;
- escapes in texts, where a pair of surrogates makes one character;
- the causes of failure, each with its place, and their messages;
- how deep arrays and objects may stand one inside another.

A document is a list of code points, since a decoded body may hold lone
surrogates.  Every reader returns what is left of the document, and a failure
tells how much was left where it arose.
-/

namespace GridCommons.Json

/-- Why a document cannot be read. -/
inductive Cause where
  | expectingValue
  | expectingName
  | expectingColon
  | expectingComma
  | extraData
  | unterminated
  | badEscape
  | badUnicodeEscape
  | controlCharacter
deriving DecidableEq, Repr

/-- The wording of a cause, without its place. -/
def Cause.wording : Cause → String
  | .expectingValue => "Expecting value"
  | .expectingName => "Expecting property name enclosed in double quotes"
  | .expectingColon => "Expecting ':' delimiter"
  | .expectingComma => "Expecting ',' delimiter"
  | .extraData => "Extra data"
  | .unterminated => "Unterminated string starting at"
  | .badEscape => "Invalid \\escape"
  | .badUnicodeEscape => "Invalid \\uXXXX escape"
  | .controlCharacter => "Invalid control character at"

inductive Container where
  | array
  | object
deriving DecidableEq, Repr

def Container.name : Container → String
  | .array => "array"
  | .object => "object"

/-- A failure: a cause with the number of code points left at its place, a numeral
with too many digits, or a container inside too many others. -/
inductive Failure where
  | syntactic (cause : Cause) (left : Nat)
  | longNumeral (digits : Nat)
  | tooDeep (container : Container)
deriving DecidableEq, Repr

def Failure.message (document : List Nat) : Failure → String
  | .syntactic cause left =>
    let position := document.length - left
    let before := document.take position
    let line := before.count 10 + 1
    let column := (before.reverse.takeWhile (· ≠ 10)).length + 1
    s!"{cause.wording}: line {line} column {column} (char {position})"
  | .longNumeral digits => Numeral.tooLongMessage digits
  | .tooDeep container =>
    "maximum recursion depth exceeded while decoding a JSON " ++ container.name ++
      " from a unicode string"

namespace Reader

def fail {α : Type} (cause : Cause) (rest : List Nat) : Except Failure α :=
  .error (.syntactic cause rest.length)

def isBlank (n : Nat) : Bool :=
  n = 32 || n = 9 || n = 10 || n = 13

def skip (s : List Nat) : List Nat :=
  s.dropWhile isBlank

def hexDigit? (n : Nat) : Option Nat :=
  if 48 ≤ n ∧ n ≤ 57 then some (n - 48)
  else if 97 ≤ n ∧ n ≤ 102 then some (n - 87)
  else if 65 ≤ n ∧ n ≤ 70 then some (n - 55)
  else none

def unit? (a b c d : Nat) : Option Nat := do
  let a ← hexDigit? a
  let b ← hexDigit? b
  let c ← hexDigit? c
  let d ← hexDigit? d
  return ((a * 16 + b) * 16 + c) * 16 + d

def simpleEscape? (n : Nat) : Option Nat :=
  if n = 34 ∨ n = 92 ∨ n = 47 then some n
  else if n = 98 then some 8
  else if n = 102 then some 12
  else if n = 110 then some 10
  else if n = 114 then some 13
  else if n = 116 then some 9
  else none

def isHighSurrogate (n : Nat) : Bool := 0xd800 ≤ n && n ≤ 0xdbff

def isLowSurrogate (n : Nat) : Bool := 0xdc00 ≤ n && n ≤ 0xdfff

def joinSurrogates (high low : Nat) : Nat :=
  0x10000 + (high - 0xd800) * 0x400 + (low - 0xdc00)

/-- The second half of a pair after the unit `high`, if it stands there.  A
malformed escape in its place is a failure. -/
def pairAfter (high : Nat) (rest : List Nat) : Except Failure (Option Nat × List Nat) :=
  if !isHighSurrogate high then .ok (none, rest)
  else
    match rest with
    | 92 :: 117 :: a :: b :: c :: d :: next :: more =>
      match unit? a b c d with
      | none => fail .badUnicodeEscape (117 :: a :: b :: c :: d :: next :: more)
      | some low =>
        if isLowSurrogate low then .ok (some (joinSurrogates high low), next :: more)
        else .ok (none, rest)
    | _ => .ok (none, rest)

/-- The code points of a text up to its closing mark.  `opening` is how much was
left at the opening mark, `done` the code points so far in reverse, and `bound`
limits the number of steps. -/
def textBody (opening : Nat) : Nat → List Nat → List Nat → Except Failure (List Nat × List Nat)
  | 0, _, _ => .error (.syntactic .unterminated opening)
  | _ + 1, _, [] => .error (.syntactic .unterminated opening)
  | bound + 1, done, c :: rest =>
    if c = 34 then .ok (done.reverse, rest)
    else if c = 92 then
      match rest with
      | [] => .error (.syntactic .unterminated opening)
      | 117 :: digits =>
        match digits with
        | a :: b :: c :: d :: next :: more =>
          match unit? a b c d with
          | none => fail .badUnicodeEscape rest
          | some unit => do
            let (pair, left) ← pairAfter unit (next :: more)
            textBody opening bound (pair.getD unit :: done) left
        | _ => fail .badUnicodeEscape rest
      | e :: more =>
        match simpleEscape? e with
        | some n => textBody opening bound (n :: done) more
        | none => fail .badEscape (c :: rest)
    else if c ≤ 31 then fail .controlCharacter (c :: rest)
    else textBody opening bound (c :: done) rest

/-- A text, the opening mark already read. -/
def text (s : List Nat) : Except Failure (Text × List Nat) := do
  let (points, rest) ← textBody (s.length + 1) (s.length + 1) [] s
  return (Text.ofPoints points, rest)

def isDigit (n : Nat) : Bool := 48 ≤ n && n ≤ 57

def digits (s : List Nat) : List Nat × List Nat :=
  s.span isDigit

def digitsValue (ds : List Nat) : Nat :=
  ds.foldl (fun total d => total * 10 + (d - 48)) 0

/-- The whole part of a numeral: one zero, or digits that start with none. -/
def wholeDigits : List Nat → Option (List Nat × List Nat)
  | 48 :: rest => some ([48], rest)
  | s =>
    let (ds, rest) := digits s
    if ds.isEmpty then none else some (ds, rest)

/-- The fraction of a numeral; a point without a digit after it does not belong
to it. -/
def fraction : List Nat → Option (List Nat × List Nat)
  | 46 :: rest =>
    let (ds, left) := digits rest
    if ds.isEmpty then none else some (ds, left)
  | _ => none

/-- The exponent of a numeral; a letter without a digit after it does not
belong to it. -/
def exponent : List Nat → Option (Int × List Nat)
  | c :: rest =>
    if c = 101 ∨ c = 69 then
      let (negative, unsigned) :=
        match rest with
        | 45 :: more => (true, more)
        | 43 :: more => (false, more)
        | _ => (false, rest)
      let (ds, left) := digits unsigned
      if ds.isEmpty then none
      else
        let size : Int := digitsValue ds
        some (if negative then -size else size, left)
    else none
  | [] => none

/-- A numeral.  `start` is the document from its sign on. -/
def numeral (start : List Nat) : Except Failure (Value × List Nat) :=
  let (negative, unsigned) :=
    match start with
    | 45 :: rest => (true, rest)
    | _ => (false, start)
  match wholeDigits unsigned with
  | none => fail .expectingValue start
  | some (whole, afterWhole) =>
    let (fractionDigits, afterFraction) := (fraction afterWhole).getD ([], afterWhole)
    match exponent afterFraction with
    | some (power, left) =>
      .ok (.double (Double.ofDecimal negative (digitsValue (whole ++ fractionDigits))
        (power - fractionDigits.length)), left)
    | none =>
      if fractionDigits.isEmpty then
        if whole.length > Numeral.digitLimit then .error (.longNumeral whole.length)
        else
          let size : Int := digitsValue whole
          .ok (.int (if negative then -size else size), afterWhole)
      else
        .ok (.double (Double.ofDecimal negative (digitsValue (whole ++ fractionDigits))
          (-(fractionDigits.length : Int))), afterFraction)

def words : List (List Nat × Value) :=
  [("null", .null), ("true", .bool true), ("false", .bool false), ("NaN", .double .nan),
    ("Infinity", .double (.infinite false)), ("-Infinity", .double (.infinite true))].map
    fun (word, value) => (word.toList.map Char.toNat, value)

def word? (s : List Nat) : Option (Value × List Nat) :=
  (words.find? fun entry => entry.1.isPrefixOf s).map fun entry =>
    (entry.2, s.drop entry.1.length)

/-- The room inside one more container, if there is one.  Without a limit there always
is. -/
def inner? : Option Nat → Option (Option Nat)
  | none => some none
  | some 0 => none
  | some (room + 1) => some (some room)

mutual

/-- A value.  The first argument bounds the number of steps, the second is how many
containers may still stand one inside another, if there is a limit. -/
def value : Nat → Option Nat → List Nat → Except Failure (Value × List Nat)
  | 0, _, s => fail .expectingValue s
  | bound + 1, room, s =>
    match s with
    | [] => fail .expectingValue s
    | 34 :: rest => do
      let (t, left) ← text rest
      return (.str t, left)
    | 123 :: rest =>
      match inner? room with
      | none => .error (.tooDeep .object)
      | some room =>
        match skip rest with
        | 125 :: left => .ok (.obj [], left)
        | inside => members bound room [] inside
    | 91 :: rest =>
      match inner? room with
      | none => .error (.tooDeep .array)
      | some room =>
        match skip rest with
        | 93 :: left => .ok (.arr [], left)
        | inside => elements bound room [] inside
    | _ =>
      match word? s with
      | some found => .ok found
      | none => numeral s

/-- The members of an object up to its closing brace. -/
def members : Nat → Option Nat → List (Text × Value) → List Nat → Except Failure (Value × List Nat)
  | 0, _, _, s => fail .expectingValue s
  | bound + 1, room, done, s =>
    match s with
    | 34 :: afterMark => do
      let (key, afterKey) ← text afterMark
      match skip afterKey with
      | 58 :: afterColon => do
        let (v, afterValue) ← value bound room (skip afterColon)
        let done := Value.putEntry key v done
        match skip afterValue with
        | 125 :: left => .ok (.obj done, left)
        | 44 :: afterComma => members bound room done (skip afterComma)
        | other => fail .expectingComma other
      | other => fail .expectingColon other
    | _ => fail .expectingName s

/-- The elements of an array up to its closing bracket; `done` is in reverse. -/
def elements : Nat → Option Nat → List Value → List Nat → Except Failure (Value × List Nat)
  | 0, _, _, s => fail .expectingValue s
  | bound + 1, room, done, s => do
    let (v, afterValue) ← value bound room s
    match skip afterValue with
    | 93 :: left => .ok (.arr (v :: done).reverse, left)
    | 44 :: afterComma => elements bound room (v :: done) (skip afterComma)
    | other => fail .expectingComma other

end

end Reader

/-- Read a whole document in which so many containers may stand one inside another, if
there is a limit. -/
def read (room : Option Nat) (document : List Nat) : Except Failure Value := do
  let (v, rest) ← Reader.value (2 * document.length + 2) room (Reader.skip document)
  let left := Reader.skip rest
  if left.isEmpty then return v else Reader.fail .extraData left

end GridCommons.Json
