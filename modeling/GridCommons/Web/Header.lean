import GridCommons.Fault
import GridCommons.Text.Percent

/-!
Contract: values of headers.

Owns: which values can be sent, and the words that stand for a value outside the
first 256 characters: one for each line, in the shorter of two written forms.
-/

namespace GridCommons.Web.Header

/-- A byte that stands for itself in the quoted form. -/
def isPlain (b : UInt8) : Bool :=
  let c := Char.ofNat b.toNat
  Text.isPlainLetter c || Text.isPlainDigit c || ['-', '!', '*', '+', '/'].contains c

def quotedForm (bytes : Bytes) : List Char :=
  bytes.flatMap fun b =>
    if isPlain b then [Char.ofNat b.toNat]
    else if b = 32 then ['_']
    else ['=', Text.Percent.upperDigit (b.toNat / 16), Text.Percent.upperDigit (b.toNat % 16)]

def endsLine (c : Char) : Bool :=
  [0x0a, 0x0b, 0x0c, 0x0d, 0x1c, 0x1d, 0x1e, 0x85, 0x2028, 0x2029].contains c.toNat

/-- The lines of a text; nothing after the last end of a line is no line. -/
def lines (s : List Char) : List (List Char) :=
  linesFrom [] s
where
  /-- The lines of a text after the start of one, which is in reverse. -/
  linesFrom (start : List Char) : List Char → List (List Char)
    | [] => if start.isEmpty then [] else [start.reverse]
    | c :: rest => if endsLine c then start.reverse :: linesFrom [] rest else linesFrom (c :: start) rest

/-- The word for a line: the form of base 64 if it is shorter, else the quoted
form. -/
def word (s : List Char) : String :=
  let bytes := Text.bytesOf (String.ofList s)
  let quoted := quotedForm bytes
  let based := Base64.encode bytes
  if based.length < quoted.length then "=?utf-8?b?" ++ String.ofList based ++ "?="
  else "=?utf-8?q?" ++ String.ofList quoted ++ "?="

/-- The words for a value.  Lines after the first start with one blank. -/
def words (s : String) : String :=
  match lines s.toList with
  | [] => ""
  | first :: rest =>
    let follow (line : List Char) : String := " " ++ word (' ' :: line.dropWhile Text.isBlank)
    "\n".intercalate ((if first.isEmpty then [] else [word first]) ++ rest.map follow)

/-- The value that is sent.  One with a line break cannot be. -/
def value (s : String) : Except Fault String :=
  if s.toList.any fun c => c = '\n' || c = '\r' then .error (.badHeader s)
  else if s.toList.all fun c => c.toNat < 256 then .ok s
  else .ok (words s)

end GridCommons.Web.Header
