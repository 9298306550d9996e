import GridCommons.Form.Content
import GridCommons.Page.Cards
import GridCommons.Web.Guard

/-!
Contract: making cards, and complaining about them.

Owns: what becomes of a submitted card with its file, and the rules that a
complaint must keep before it is stored.
-/

namespace GridCommons.Web

open Site Form

/-! ## Cards -/

def newCard : Action Reply :=
  return .ofPage (Page.createCard none [])

/-- Store a valid card of a user, with its file in front.  The card is stored once more
when the form is done. -/
def storeCard (user : User) (v : CardForm.Valid) : Action Nat := do
  let now ← Action.now
  let fileId ← v.file.mapM fun file =>
    Action.insert .attachment fun id =>
      .attachment { id, name := file.name, contentType := file.contentType, data := file.data,
                    size := file.data.length, createdAt := now }
  Action.insertTwice .card fun id =>
    .card { id, userId := user.id, title := v.title, description := v.description,
            cols := v.cols, rows := v.rows, fileId, createdAt := now, updatedAt := now }

def makeCard (r : Request) (user : User) : Action Reply := do
  let form := CardForm.check r.submitted
  match form.valid? with
  | none => return .ofPage (Page.createCard (some r.submitted) form.complaints)
  | some v =>
    let _ ← storeCard user v
    return .redirect "/"

/-! ## Complaints -/

/-- What a complaint says before it is checked; nothing may be said. -/
structure Grievance where
  reason : Option String
  description : Option String
deriving Repr

def unsaid (s : Option String) : Bool :=
  (s.getD "").isEmpty

def openReports (user : User) (cardId : Nat) : Action (List CardReport) := do
  if !inRange cardId then
    Action.reachable
    Action.fail .tooLarge
  let reports ← Action.rows Database.cardReports
  return reports.filter fun report =>
    report.cardId == cardId && report.userId == some user.id && !report.isResolved

/-- Check a complaint: it has a reason, a reason beyond the list is explained, and
the user has no open complaint about the card. -/
def checkReport (user : User) (cardId : Nat) (g : Grievance) : Action Unit := do
  if unsaid g.reason then Action.fail (.invalid ["Укажите причину жалобы."])
  if g.reason = some "other" ∧ unsaid g.description then
    Action.fail (.invalid ["Для причины \"Другое\" необходимо описание."])
  if !(← openReports user cardId).isEmpty then
    Action.fail (.invalid ["Вы уже отправляли жалобу на это поле."])

def reportPage (user : User) (cardId : Nat) (submitted : Option Submission)
    (complaints : Complaints) : Action Reply := do
  let card ← Action.load Database.cards (.noMatch .card) cardId
  let existing ← openReports user cardId
  return .ofPage (Page.reportCard card existing.head? submitted complaints)

/-- Store a complaint of a user, and once more when the form is done. -/
def storeReport (user : User) (cardId : Nat) (v : ReportForm.Valid) : Action Nat := do
  checkReport user cardId ⟨some v.reason, some v.description⟩
  let card ← Action.load Database.cards (.noMatch .card) cardId
  let now ← Action.now
  Action.insertTwice .cardReport fun id =>
    .cardReport { id, cardId := card.id, userId := some user.id, reason := v.reason,
                  description := some v.description, createdAt := now }

def makeReport (r : Request) (user : User) (cardId : Nat) : Action Reply := do
  let form := ReportForm.check r.submitted
  match form.valid? with
  | none => reportPage user cardId (some r.submitted) form.complaints
  | some v =>
    let _ ← storeReport user cardId v
    return .redirect "/"

end GridCommons.Web
