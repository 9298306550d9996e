import GridCommons.Form.Basic
import GridCommons.Site.Draft

/-!
Contract: the forms for comments, cards and complaints about cards.

Owns: the rules of their inputs.
-/

namespace GridCommons.Form

open Site

structure CommentForm where
  text : Cleaned String

namespace CommentForm

def check (s : Submission) : CommentForm :=
  { text := TextRule.clean {} (s.text? "text") }

def complaints (f : CommentForm) : Complaints :=
  Complaints.gather [("text", f.text.complaints)]

def cleaned (f : CommentForm) : Record :=
  (f.text.value?.map fun s => ("text", Datum.text s)).toList

end CommentForm

structure CardForm where
  title : Cleaned String
  description : Cleaned String
  cols : Cleaned Int
  rows : Cleaned Int
  file : Cleaned (Option Upload)

namespace CardForm

def sideBounds : Int × Int := (1, 20)

def titleRule : TextRule := { limit := some 255 }

def cleanSide (submitted : Option String) : Cleaned Int :=
  cleanInteger sideBounds.1 sideBounds.2 submitted

def check (s : Submission) : CardForm :=
  { title := titleRule.clean (s.text? "title")
    description := TextRule.clean {} (s.text? "description")
    cols := cleanSide (s.text? "cols")
    rows := cleanSide (s.text? "rows")
    file := cleanFile (s.file? "file") }

def complaints (f : CardForm) : Complaints :=
  Complaints.gather
    [("title", f.title.complaints), ("description", f.description.complaints),
      ("cols", f.cols.complaints), ("rows", f.rows.complaints), ("file", f.file.complaints)]

structure Valid where
  title : String
  description : String
  cols : Int
  rows : Int
  file : Option Upload
deriving Repr

def valid? (f : CardForm) : Option Valid := do
  return {
    title := ← f.title.value?
    description := ← f.description.value?
    cols := ← f.cols.value?
    rows := ← f.rows.value?
    file := ← f.file.value? }

/-- The cleaned values, apart from the file. -/
def cleaned (f : CardForm) : Record :=
  (f.title.value?.map fun s => ("title", Datum.text s)).toList ++
    (f.description.value?.map fun s => ("description", Datum.text s)).toList ++
    (f.cols.value?.map fun n => ("cols", Datum.int n)).toList ++
    (f.rows.value?.map fun n => ("rows", Datum.int n)).toList

end CardForm

/-- A checked complaint about a card. -/
structure ReportForm where
  reason : Cleaned String
  description : Cleaned String

namespace ReportForm

def check (s : Submission) : ReportForm :=
  { reason := cleanChoice CardReport.reasons (s.text? "reason")
    description := TextRule.clean { isRequired := false } (s.text? "description") }

def complaints (f : ReportForm) : Complaints :=
  Complaints.gather
    [("reason", f.reason.complaints), ("description", f.description.complaints)]

structure Valid where
  reason : String
  description : String
deriving Repr

def valid? (f : ReportForm) : Option Valid := do
  return { reason := ← f.reason.value?, description := ← f.description.value? }

def cleaned (f : ReportForm) : Record :=
  [("reason", f.reason), ("description", f.description)].filterMap fun (name, value) =>
    value.value?.map fun s => (name, Datum.text s)

end ReportForm

end GridCommons.Form
