import GridCommons.Page.Cards
import GridCommons.Page.Fixed
import GridCommons.Site.Cells
import GridCommons.Text.Pattern
import GridCommons.Web.Guard
import GridCommons.Web.Header

/-!
Contract: what visitors read of cards.

Owns: the list of cards, the page of a card, the search, the state of a card's
grid, and the download of files.
-/

namespace GridCommons.Web

open Site
open GridCommons.Json (Value)

/-- Rows sorted by an instant, the newest first; rows of one instant keep their
order. -/
def newestFirst {α : Type} (time : α → Instant) (rows : List α) : List α :=
  rows.mergeSort fun a b => decide ((time b).seconds ≤ (time a).seconds)

def showIndex (r : Request) : Action Reply := do
  let user ← r.user
  let cards ← Action.rows Database.cards
  return .ofPage (Page.index cards ((user.map User.isStaff).getD false))

/-- The card with a number, unless it is blocked. -/
def openCard (id : Nat) : Action Card := do
  match ← Action.lookup Database.cards id with
  | none => Action.fail (.noPage "No Карта found matching the query")
  | some card =>
    if card.isBlocked then Action.fail (.noPage "Карта заблокирована и недоступна для просмотра")
    else return card

/-- The comments on a card with the names of their authors, the newest first. -/
def commentsOn (cardId : Nat) : Action (List (Comment × String)) := do
  let d ← Action.query
  let comments := newestFirst Comment.createdAt
    (d.comments.rows.filter fun comment => comment.cardId == cardId)
  return comments.map fun comment =>
    (comment, ((d.users.find? comment.authorId).map User.username).getD "")

/-- The page of a card.  A card without squares gets them. -/
def showCard (r : Request) (id : Nat) : Action Reply := do
  let card ← openCard id
  if !(← Cells.present id) then Cells.fill card
  let user ← r.user
  let among (members : Members) : Bool := (user.map fun u => members.contains u.id).getD false
  return .ofPage (Page.card card (← commentsOn id) (among card.likes) (among card.favorites))

/-! ## Search -/

/-- A text holds another, up to the case of plain letters. -/
def holds (text part : String) : Bool :=
  Text.Pattern.accepts (Text.Pattern.containing part) text

/-- The cards whose title or description holds a text. -/
def found (query : String) (cards : List Card) : List Card :=
  cards.filter fun card => holds card.title query || holds card.description query

def foundJson (card : Card) : Value :=
  .object [("id", .nat card.id), ("title", .text card.title),
    ("description", .text card.description), ("created_at", .text card.createdAt.date.dotted)]

/-- Find the cards that hold a text.  Where there is a card to compare, a query that
makes too long a pattern is a fault. -/
def findCards (query : String) : Action (List Card) := do
  let cards ← Action.rows Database.cards
  if !cards.isEmpty && Text.Pattern.isTooLong (Text.Pattern.containing query) then
    Action.fail .patternTooLong
  else return found query cards

/-- Search for cards.  An empty query finds none. -/
def searchCards (r : Request) : Action Reply := do
  let query := Text.trim ((r.param? "q").getD "")
  let cards ← if query.isEmpty then pure [] else findCards query
  return .ofJson (.object [("results", .arr (cards.map foundJson))])

/-! ## State and files -/

def wallJson (wall : Wall) : Value :=
  .object [("id", .nat wall.id), ("x", .int wall.x), ("y", .int wall.y), ("width", .int wall.width),
    ("height", .int wall.height)]

def cardState (id : Nat) : Action Reply := do
  match ← Action.lookup Database.cards id with
  | none => return .ofError 404 "Field not found"
  | some card =>
    let walls := (← Action.rows Database.walls).filter fun wall => wall.cardId == id
    return .ofJson (.object [("cols", .int card.cols), ("rows", .int card.rows),
      ("walls", .arr (walls.map wallJson))])

/-- The header that names a downloaded file. -/
def disposition (name : String) : String :=
  "attachment; filename=\"" ++ name ++ "\""

def downloadFile (id : Nat) : Action Reply := do
  let file ← Action.load Database.attachments (.noMatch .attachment) id
  let contentType ← Action.ofExcept (Header.value file.contentType)
  let named ← Action.ofExcept (Header.value (disposition file.name))
  return { content := .file contentType named file.data }

end GridCommons.Web
