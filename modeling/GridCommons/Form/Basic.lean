import GridCommons.Account.Email
import GridCommons.Number.Numeral
import GridCommons.Text.Base64

/-!
Contract: submitted forms and the rules of single inputs.

Owns:
- what is submitted: texts under names, where the last text of a name counts, and
  files;
- complaints, with the code and the wording of each rule;
- the rules for texts, addresses, whole numbers, choices and files.

A rule returns the cleaned value or all complaints about the submitted one.
-/

namespace GridCommons.Form

structure Complaint where
  code : String
  message : String
deriving DecidableEq, Repr

structure Upload where
  name : String
  contentType : String := "text/plain"
  data : Bytes
deriving DecidableEq, Repr

structure Submission where
  texts : List (String × List String) := []
  files : List (String × Upload) := []
deriving Repr

namespace Submission

/-- The text under a name: the last one submitted. -/
def text? (s : Submission) (name : String) : Option String :=
  (s.texts.lookup name).bind List.getLast?

def file? (s : Submission) (name : String) : Option Upload :=
  s.files.lookup name

end Submission

/-- A cleaned value, or the complaints about the submitted one. -/
abbrev Cleaned (α : Type) := Except (List Complaint) α

def Cleaned.complaints {α : Type} : Cleaned α → List Complaint
  | .ok _ => []
  | .error complaints => complaints

def Cleaned.value? {α : Type} : Cleaned α → Option α
  | .ok a => some a
  | .error _ => none

/-- Complaints about a form, by the name of the input; complaints about the whole
stand under `wholeName`. -/
abbrev Complaints := List (String × List Complaint)

/-- The name under which complaints about a whole form stand. -/
def wholeName : String := "__all__"

def Complaints.gather (all : Complaints) : Complaints :=
  all.filter fun entry => !entry.2.isEmpty

namespace Complaint

def required : Complaint := ⟨"required", "This field is required."⟩

def tooLong (limit length : Nat) : Complaint :=
  ⟨"max_length", s!"Ensure this value has at most {limit} characters (it has {length})."⟩

def nullCharacter : Complaint :=
  ⟨"null_characters_not_allowed", "Null characters are not allowed."⟩

def invalidEmail : Complaint := ⟨"invalid", "Enter a valid email address."⟩

def notWhole : Complaint := ⟨"invalid", "Enter a whole number."⟩

def tooSmall (least : Int) : Complaint :=
  ⟨"min_value", s!"Ensure this value is greater than or equal to {least}."⟩

def tooGreat (most : Int) : Complaint :=
  ⟨"max_value", s!"Ensure this value is less than or equal to {most}."⟩

def notAChoice (value : String) : Complaint :=
  ⟨"invalid_choice", "Select a valid choice. " ++ value ++ " is not one of the available choices."⟩

def emptyFile : Complaint := ⟨"empty", "The submitted file is empty."⟩

/-- A complaint of the site's own, which has no code. -/
def plain (message : String) : Complaint := ⟨"", message⟩

end Complaint

/-- The rule for a text; an address has a test of its own to pass. -/
structure TextRule where
  isRequired : Bool := true
  strips : Bool := true
  isAddress : Option (String → Bool) := none
  limit : Option Nat := none

namespace TextRule

def complaints (rule : TextRule) (s : String) : List Complaint :=
  (if rule.isAddress.any fun test => !test s then [.invalidEmail] else []) ++
    (match rule.limit with
      | some limit => if s.length > limit then [.tooLong limit s.length] else []
      | none => []) ++
    (if s.toList.contains (Char.ofNat 0) then [.nullCharacter] else [])

/-- Clean a submitted text; one that was not submitted is empty. -/
def clean (rule : TextRule) (submitted : Option String) : Cleaned String :=
  let given := submitted.getD ""
  let s := if rule.strips then Text.trim given else given
  if s.isEmpty then if rule.isRequired then .error [.required] else .ok ""
  else
    match rule.complaints s with
    | [] => .ok s
    | found => .error found

end TextRule

/-- Drop a fraction of zeros, with blanks after it, from the end of a numeral. -/
def dropZeroFraction (s : List Char) : List Char :=
  let zeros := (s.reverse.dropWhile Text.isBlank).dropWhile fun c => c = '0'
  match zeros with
  | '.' :: rest => rest.reverse
  | _ => s

def cleanWhole (submitted : Option String) : Cleaned Int :=
  match submitted.getD "" with
  | "" => .error [.required]
  | s => (Numeral.read (dropZeroFraction s.toList)).mapError fun _ => [.notWhole]

/-- Clean a submitted whole number between bounds. -/
def cleanInteger (least most : Int) (submitted : Option String) : Cleaned Int :=
  match cleanWhole submitted with
  | .error found => .error found
  | .ok n =>
    match (if n < least then [Complaint.tooSmall least] else []) ++
      (if n > most then [Complaint.tooGreat most] else []) with
    | [] => .ok n
    | found => .error found

def cleanChoice (choices : List (String × String)) (submitted : Option String) : Cleaned String :=
  match submitted.getD "" with
  | "" => .error [.required]
  | s => if (choices.map Prod.fst).contains s then .ok s else .error [.notAChoice s]

def cleanFile (submitted : Option Upload) : Cleaned (Option Upload) :=
  match submitted with
  | none => .ok none
  | some upload => if upload.data.isEmpty then .error [.emptyFile] else .ok (some upload)

/-! ## Names of files -/

def fileNameLimit : Nat := 255

def lastComponent (separator : Char) (s : List Char) : List Char :=
  (s.reverse.takeWhile fun c => c ≠ separator).reverse

/-- Split the ending from the name of a file.  Points in front of all else start
no ending. -/
def splitEnding (s : List Char) : List Char × List Char :=
  let ending := (s.reverse.takeWhile fun c => c ≠ '.').reverse
  let stem := s.take (s.length - ending.length - 1)
  if s.contains '.' && stem.any (fun c => c ≠ '.') then (stem, '.' :: ending) else (s, [])

/-- The name under which a file is kept: the last component of a path, shortened
before its ending. -/
def keptFileName (name : String) : String :=
  let base := lastComponent '/' name.toList
  if base.length ≤ fileNameLimit then String.ofList base
  else
    let (stem, whole) := splitEnding base
    let ending := whole.take fileNameLimit
    String.ofList (stem.take (fileNameLimit - ending.length) ++ ending)

def unusableNames : List String := ["", ".", ".."]

end GridCommons.Form
