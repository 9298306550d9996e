import GridCommons.Text.Class

/-!
Contract: the words of a search.

Owns: how a search is split at blanks into words.  A part in quotes keeps its
blanks, and a word that is quoted whole loses the quotes; a backslash in quotes
takes the next character as it is.
-/

namespace GridCommons.Web.SearchWords

def isQuote (c : Char) : Bool :=
  c = '"' || c = '\''

/-- A character outside of quotes and blanks. -/
def isPlain (c : Char) : Bool :=
  !isQuote c && !Text.isBlank c

/-- The rest of a text after its closing quote. -/
def afterQuote (quote : Char) : List Char → Option (List Char)
  | [] => none
  | '\\' :: _ :: rest => afterQuote quote rest
  | c :: rest => if c = quote then some rest else if c = '\\' then none else afterQuote quote rest

/-- The rest after plain characters and after quoted parts with plain characters
behind each; `none` if no quoted part stands there.  The fuel is the length of the
text. -/
def afterQuoted : Nat → List Char → Option (List Char)
  | 0, _ => none
  | fuel + 1, s =>
    match s.dropWhile isPlain with
    | c :: rest =>
      if isQuote c then
        match afterQuote c rest with
        | none => none
        | some rest =>
          let tail := rest.dropWhile isPlain
          some ((afterQuoted fuel tail).getD tail)
      else none
    | [] => none

/-- The first word of a text that starts with no blank, and the rest. -/
def firstWord (s : List Char) : List Char × List Char :=
  match afterQuoted s.length s with
  | some rest => (s.take (s.length - rest.length), rest)
  | none => (s.takeWhile fun c => !Text.isBlank c, s.dropWhile fun c => !Text.isBlank c)

/-- The words of a text.  The fuel is the length of the text. -/
def wordsOf : Nat → List Char → List (List Char)
  | 0, _ => []
  | fuel + 1, s =>
    match s.dropWhile Text.isBlank with
    | [] => []
    | start =>
      let (word, rest) := firstWord start
      word :: wordsOf fuel rest

/-- A text without the backslashes that take the next character as it is. -/
def unescape (quote : Char) : List Char → List Char
  | [] => []
  | '\\' :: c :: rest =>
    if c = quote || c = '\\' then c :: unescape quote rest else '\\' :: unescape quote (c :: rest)
  | c :: rest => c :: unescape quote rest
termination_by s => s.length

/-- A word without the quotes around it. -/
def unquote (word : List Char) : List Char :=
  match word with
  | [] => []
  | c :: rest =>
    if isQuote c ∧ word.getLast? = some c then unescape c rest.dropLast else word

def split (s : String) : List String :=
  (wordsOf s.length s.toList).map fun word => String.ofList (unquote word)

end GridCommons.Web.SearchWords
