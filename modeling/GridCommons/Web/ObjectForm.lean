import GridCommons.Site.Describe
import GridCommons.Text.Entity
import GridCommons.Web.ListForm

/-!
Contract: the forms in which single rows of the administration are entered.

Owns:
- the inputs of a card and of a complaint, and which rows they may name;
- the row that a valid form says: a new one, or one that is there anew;
- the notice about a stored row, and where the visitor is sent.

A form that is not valid stores nothing and is shown again.
-/

namespace GridCommons.Web

open Site Form

def adminPath : String := "/admin/"

/-- The kind of the rows in a section; of groups there are none. -/
def sectionKind : AdminSection → Option Kind
  | .groups => none
  | .cards => some .card
  | .reports => some .cardReport

def sectionNoun (area : AdminSection) : String :=
  ((sectionKind area).map fun kind => rowNoun kind 1).getD "group"

/-! ## Inputs -/

/-- The users that are chosen in a list, each by the number as it is written out.
Numbers that the database cannot hold are a fault, unless one of the texts is no number
at all. -/
def chosenUsers (d : Database) (texts : List String) : Except Fault (Option Members) :=
  match texts.mapM numberOf? with
  | none => .ok none
  | some numbers =>
    if numbers.all inRange then
      let isChosen (user : User) : Bool := texts.contains (toString user.id)
      let chosen := d.users.rows.filter isChosen
      if texts.all fun text => chosen.any fun user => toString user.id == text then
        .ok (some (chosen.foldl (fun members user => members.join user.id) {}))
      else .ok none
    else .error .tooLarge

/-- Clean the length of a side; any that the database can hold is right. -/
def cleanAnySide (submitted : Option String) : Option Int :=
  (cleanWhole submitted).value?.filter inRange

/-- The file that a card is to have, if it may: no other card has it. -/
def chosenFile (d : Database) (old : Option Nat) (submitted : Option String) : Option (Option Nat) :=
  match submitted.getD "" with
  | "" => some none
  | text => do
    let file ← namedRow? d.attachments (some text)
    if d.cards.rows.any fun card => card.fileId = some file.id && some card.id != old then none
    else return some file.id

/-! ## Rows -/

/-- The card that a form says, in place of the one with a number or as a new one. -/
def enteredCard (d : Database) (s : Submission) (now : Instant) (old : Option Nat) :
    Except Fault (Option Card) := do
  let before := old.bind d.cards.find?
  let likes ← chosenUsers d (ListAction.given s "likes")
  let favorites ← chosenUsers d (ListAction.given s "favorites")
  return do
    return {
      id := (before.map Card.id).getD d.cards.next
      userId := (← namedRow? d.users (s.text? "user")).id
      title := ← (CardForm.titleRule.clean (s.text? "title")).value?
      description := ← (TextRule.clean {} (s.text? "description")).value?
      createdAt := (before.map Card.createdAt).getD now
      updatedAt := now
      isBlocked := ReportEdit.marked (s.text? "is_blocked")
      cols := ← cleanAnySide (s.text? "cols")
      rows := ← cleanAnySide (s.text? "rows")
      fileId := ← chosenFile d old (s.text? "file")
      likes := ← likes
      favorites := ← favorites }

/-- The complaint that a form says, in place of the one with a number or as a new
one. -/
def enteredReport (d : Database) (s : Submission) (now : Instant) (old : Option Nat) :
    Option CardReport := do
  let before := old.bind d.cardReports.find?
  let said := ReportForm.check s
  return {
    id := (before.map CardReport.id).getD d.cardReports.next
    cardId := (← namedRow? d.cards (s.text? "field")).id
    userId := some (← namedRow? d.users (s.text? "user")).id
    reason := ← said.reason.value?
    description := some (← said.description.value?)
    createdAt := (before.map CardReport.createdAt).getD now
    status := ← (cleanChoice CardReport.statuses (s.text? "status")).value?
    isResolved := ReportEdit.marked (s.text? "is_resolved") }

/-- The row that the form of a section says. -/
def entered (area : AdminSection) (d : Database) (s : Submission) (now : Instant)
    (old : Option Nat) : Except Fault (Option Row) :=
  match area with
  | .groups => .ok none
  | .cards => do return (← enteredCard d s now old).map .card
  | .reports => .ok ((enteredReport d s now old).map .cardReport)

/-! ## Submitting -/

/-- Tell that a row was stored, with a link to it, and send the visitor on. -/
def tellStored (r : Request) (area : AdminSection) (row : Row) (path verb : String) :
    Action Reply := do
  let pressed (button : String) : Bool := (r.submitted.text? button).isSome
  if pressed "_popup" then plainPage "admin/popup_response.html"
  else
    let shown ← (Draft.ofRow row).describe
    let link := "<a href=\"" ++ Text.Percent.encode "/" path ++ "\">" ++ Text.Entity.encode shown ++ "</a>"
    let told := "The " ++ sectionNoun area ++ " “" ++ link ++ "” was " ++ verb ++ " successfully."
    let sectionPath := adminPath ++ Route.sectionPath area
    if pressed "_continue" || pressed "_saveasnew" then
      Action.notify .success (told ++ " You may edit it again below.") ""
      return .redirect (Text.Percent.encode querySafe path)
    else if pressed "_addanother" then
      Action.notify .success (told ++ " You may add another " ++ sectionNoun area ++ " below.") ""
      return .redirect (sectionPath ++ "add/")
    else
      Action.notify .success told ""
      return .redirect sectionPath

/-- Store the row that is submitted, as a new one or in place of the one with a
number. -/
def submitObject (r : Request) (area : AdminSection) (old : Option Nat) : Action Reply := do
  let d ← Action.query
  let now ← Action.now
  match ← Action.ofExcept (entered area d r.submitted now old) with
  | none => plainPage "admin/change_form.html"
  | some row =>
    Action.save row
    match old with
    | none =>
      let path := adminPath ++ Route.sectionPath area ++ toString row.id ++ "/change/"
      tellStored r area row path "added"
    | some _ => tellStored r area row r.path "changed"

def serveObject (r : Request) (area : AdminSection) (old : Option Nat) : Action Reply :=
  if r.method = "POST" then Action.whole (submitObject r area old)
  else plainPage "admin/change_form.html"

def namingColumn? (r : Request) : Option String :=
  (r.submitted.text? "_to_field").or (r.param? "_to_field")

/-- Refuse a request that names rows by another column than their number. -/
def byNumber (r : Request) (next : Action Reply) : Action Reply :=
  if ["", "id"].contains ((namingColumn? r).getD "") then next else return .badRequest

end GridCommons.Web
