import GridCommons.Form.Content
import GridCommons.Web.Listing
import GridCommons.Web.Panel

/-!
Contract: what is submitted on a list of the administration.

Owns:
- the actions on selected rows: settling complaints, and deleting rows once that is
  confirmed;
- the changes of status that are made in the list of complaints itself;
- the notices about both.
-/

namespace GridCommons.Web

open Site Form

def rowNoun (kind : Kind) (count : Nat) : String :=
  match kind, count with
  | .card, 1 => "Карта"
  | .card, _ => "Карты"
  | _, 1 => "field report"
  | _, _ => "field reports"

/-- The row whose number a text says. -/
def namedRow? {α : Type} [Numbered α] (t : Table α) (submitted : Option String) : Option α := do
  match ← numberOf? (← submitted) with
  | .ofNat id => t.find? id
  | .negSucc _ => none

/-! ## Actions on selected rows -/

/-- What can be done with selected rows. -/
inductive ListAction where
  | delete
  | settle (verdict : Verdict)
deriving DecidableEq, Repr

namespace ListAction

def ofName? : String → Option ListAction
  | "delete_selected" => some .delete
  | "approve_selected_reports" => some (.settle .approve)
  | "reject_selected_reports" => some (.settle .reject)
  | _ => none

/-- The action is there for rows of a kind. -/
def suits (kind : Kind) : ListAction → Bool
  | .delete => true
  | .settle _ => kind = .cardReport

/-- The values submitted under a name. -/
def given (s : Submission) (name : String) : List String :=
  (s.texts.lookup name).getD []

/-- The name of the action whose button was pressed: the one at the button's place,
counted from the end if the place is negative, else the last one. -/
def chosenName? (s : Submission) : Option String :=
  let names := given s "action"
  let place := ((s.text? "index").bind numberOf?).getD 0
  match place with
  | .ofNat n => names[n]?.or names.getLast?
  | .negSucc n => names.reverse[n]?.or names.getLast?

/-- The action applies to all rows that the list shows, not only to selected ones. -/
def toAllRows (s : Submission) : Bool :=
  let flag := String.ofList (Text.lower ((s.text? "select_across").getD "").toList)
  !(["", "false", "0"].contains flag)

def selectedNumbers (s : Submission) : Except Fault (List Int) :=
  (given s "_selected_action").mapM fun text =>
    match numberOf? text with
    | some n => .ok n
    | none => .error (.notNumber "id" (Text.quoted text))

def run (kind : Kind) (ids : List Nat) (r : Request) : ListAction → Action Reply
  | .settle verdict => do
    Action.mutate (settleIn verdict ids)
    tellSettled verdict ids.length
    return .redirect r.fullPath
  | .delete => do
    if ((r.submitted.text? "post").getD "").isEmpty then
      return .ofPage { name := "admin/delete_selected_confirmation.html" }
    else
      if !ids.isEmpty then
        Action.mutate fun d => d.delete (ids.map fun id => ⟨kind, id⟩)
        Action.notify .success
          (s!"Successfully deleted {ids.length} " ++ rowNoun kind ids.length ++ ".") ""
      return .redirect r.fullPath

def submit (kind : Kind) (shown : List Nat) (r : Request) : Action Reply := do
  match (chosenName? r.submitted).bind ofName? with
  | some action =>
    if action.suits kind then
      if toAllRows r.submitted then action.run kind shown r
      else
        let selected ← Action.ofExcept (selectedNumbers r.submitted)
        action.run kind (shown.filter fun id => selected.contains (id : Int)) r
    else refuse
  | none => refuse
where
  /-- Nothing is done without an action. -/
  refuse : Action Reply := do
    Action.notify .warning "No action selected." ""
    return .redirect r.fullPath

end ListAction

/-! ## Changes in the list of complaints -/

/-- One row of the list as it is submitted: the complaint it is about, if there is
one, and its new status. -/
structure ReportEdit where
  report : Option CardReport
  permitted : Bool
  changed : Bool
  status : Cleaned String
  isResolved : Bool
  known : Bool

namespace ReportEdit

/-- A mark is set by any text but an empty one and the word for no. -/
def marked (submitted : Option String) : Bool :=
  let flag := String.ofList (Text.lower (submitted.getD "").toList)
  !(["", "false"].contains flag)

/-- Read the row at a place of the list.  Rows from `initial` on are extra ones, which
may stay untouched. -/
def read (d : Database) (s : Submission) (initial place : Nat) : ReportEdit :=
  let text? (name : String) : Option String := s.text? s!"form-{place}-{name}"
  let number := (text? "id").getD ""
  let found := namedRow? d.cardReports (text? "id")
  let report := if place < initial then found else none
  let isResolved := marked (text? "is_resolved")
  let before : String × Bool :=
    (report.map fun old => (old.status, old.isResolved)).getD ("pending", false)
  let shownNumber := (report.map fun old => toString old.id).getD ""
  { report
    permitted := initial ≤ place
    changed := (text? "status").getD "" != before.1 || isResolved != before.2 ||
      number != shownNumber
    status := cleanChoice CardReport.statuses (text? "status")
    isResolved
    known := number.isEmpty || found.isSome }

/-- The row can be stored, or is an extra one that was left alone. -/
def valid (e : ReportEdit) : Bool :=
  (e.permitted && !e.changed) || (e.known && e.status.value?.isSome)

/-- Store a changed row.  A complaint about no card cannot be stored. -/
def store (e : ReportEdit) : Action Unit :=
  match e.report with
  | some report =>
    Action.save (.cardReport
      { report with status := e.status.value?.getD report.status, isResolved := e.isResolved })
  | none => Action.commit fun _ => .error (.empty Kind.cardReport.table "field_id")

def mostRows : Nat := 2000

def readAll (d : Database) (s : Submission) : Option (List ReportEdit) := do
  let count (name : String) : Option Int :=
    (cleanWhole (s.text? ("form-" ++ name))).value?
  let total ← count "TOTAL_FORMS"
  let initial ← count "INITIAL_FORMS"
  return (List.range (min total.toNat mostRows)).map (read d s initial.toNat)

/-- Store the changed rows of a list, all or none, and tell how many there are.  If a
row is not valid, nothing is done. -/
def submit (r : Request) : Action Bool := do
  let d ← Action.query
  match readAll d r.submitted with
  | none => return false
  | some edits =>
    if edits.all valid then
      let changes := edits.filter changed
      Action.whole (changes.forM store)
      if !changes.isEmpty then
        let verb := if changes.length = 1 then " was" else " were"
        Action.notify .success
          (s!"{changes.length} " ++ rowNoun .cardReport changes.length ++ verb ++
            " changed successfully.") ""
      return true
    else return false

end ReportEdit

/-! ## Serving a list -/

/-- Serve a list: do what is submitted, or show the rows that are asked for. -/
def Listing.serve {α : Type} [Numbered α] (l : Listing α) (r : Request) : Action Reply := do
  match l.asked? r with
  | none => return Listing.withoutFilters r
  | some rows =>
    if Listing.searchRefused r then Action.notify .error "Null characters are not allowed." ""
    let s := r.submitted
    let saving := (s.text? "_save").isSome
    let selecting := !(ListAction.given s "_selected_action").isEmpty
    if selecting && !saving then ListAction.submit l.kind (rows.map Numbered.id) r
    else if (s.text? "index").isSome && !saving then
      Action.notify .warning ("Items must be selected in order to perform actions on them. " ++
        "No items have been changed.") ""
      return .redirect r.fullPath
    else if saving && l.kind = .cardReport then
      if ← ReportEdit.submit r then return .redirect r.fullPath else return Listing.page rows
    else return Listing.page rows

end GridCommons.Web
