import GridCommons.Web.Reading

/-!
Contract: what users do with cards and comments of others.

Owns: likes, favorites, comments, likes and reports of comments, and the list of a
user's cards.
-/

namespace GridCommons.Web

open Site
open GridCommons.Json (Value)

/-- Turn any fault into a reply. -/
def recovering (action : Action Reply) (recover : Fault → Reply) : Action Reply := do
  match ← Action.attempt action with
  | .ok reply => return reply
  | .error fault => return recover fault

/-- Enter a user into a relation or take the user out, and tell whether the user
is in it now. -/
def toggle (relation : Relation) (id : Nat) (user : User) : Action Bool := do
  if (← Action.members relation id).contains user.id then
    Action.leave relation id user.id
    return false
  else
    Action.join relation id [user.id]
    return true

def toggleLike (user : User) (id : Nat) : Action Reply :=
  recovering
    (do
      let _ ← Action.load Database.cards (.noRow .card) id
      let isLiked ← toggle .cardLikes id user
      let count := (← Action.members .cardLikes id).length
      return .ofJson (.object [("is_liked", .bool isLiked), ("likes_count", .nat count)]))
    fun fault => .ofError 500 fault.message

/-- Mark a card as a favorite or take the mark back. -/
def toggleFavorite (user : User) (id : Nat) : Action Reply := do
  let _ ← Action.load Database.cards (.noRow .card) id
  let isFavorite ← toggle .cardFavorites id user
  return .ofJson (.object [("is_favorited", .bool isFavorite)])

/-- The reply where a comment does not exist. -/
def noComment : Reply := .ofError 404 "Комментарий не найден"

def toggleCommentLike (user : User) (id : Nat) : Action Reply := do
  match ← Action.lookup Database.comments id with
  | none => return noComment
  | some _ =>
    let isLiked ← toggle .commentLikes id user
    let count := (← Action.members .commentLikes id).length
    return .ofJson (.object [("success", .bool true), ("is_liked", .bool isLiked),
      ("likes_count", .nat count)])

def reportComment (user : User) (id : Nat) : Action Reply := do
  match ← Action.lookup Database.comments id with
  | none => return noComment
  | some _ =>
    Action.join .commentReports id [user.id]
    let count := (← Action.members .commentReports id).length
    return .ofJson (.object [("success", .bool true), ("reports_count", .nat count)])

/-! ## Comments -/

def commentLimit : Nat := 1000

/-- Code points without blanks at either end. -/
def trimPoints (points : List Nat) : List Nat :=
  let isBlank (n : Nat) : Bool := !Json.isSurrogate n && Text.isBlank (Char.ofNat n)
  ((points.dropWhile isBlank).reverse.dropWhile isBlank).reverse

/-- The text of a comment in a body, without blanks around it.  A body that is no
object, or a text that is none, is a fault. -/
def commentText (room : Option Nat) (body : Bytes) : Except Fault Json.Text := do
  match readDocument room body with
  | .error fault => .error fault
  | .ok v@(.obj _) =>
    match (v.get? "text").getD (.text "") with
    | .str (.whole s) => .ok (.whole (Text.trim s))
    | .str (.broken points) => .ok (.broken (trimPoints points))
    | other => .error (.noMember other.typeName "strip")
  | .ok other => .error (.noMember other.typeName "get")

def addComment (r : Request) (user : User) (id : Nat) : Action Reply :=
  recovering
    (do
      let text ← Action.ofExcept (commentText (some (← Action.platform).nesting) r.bytes)
      if text.points.isEmpty then return .ofError 400 "Comment text cannot be empty"
      else if text.points.length > commentLimit then
        return .ofError 400 "Comment is too long (max 1000 chars)"
      else
        let card ← Action.load Database.cards (.noMatch .card) id
        match text with
        | .broken _ => Action.fail .wrongType
        | .whole s =>
          let now ← Action.now
          let commentId ← Action.insert .comment fun id =>
            .comment { id, cardId := card.id, authorId := user.id, text := s, createdAt := now }
          return .ofJson (.object [("success", .bool true), ("comment_id", .nat commentId),
            ("author", .text user.username), ("text", .text s),
            ("created_at", .text (now.date.toText ++ " " ++ now.hourMinute))]))
    fun _ => .ofError 500 "Internal server error"

/-! ## Lists of cards -/

def listedJson (card : Card) : Value :=
  .object [("id", .nat card.id), ("title", .text card.title),
    ("description", .text card.description), ("created_at", .text card.createdAt.date.dotted),
    ("url", .text (Page.cardPath card.id))]

/-- The signed-in user for a list; a visitor who is not signed in is a fault. -/
def listOwner (r : Request) (fault : Fault) : Action User := do
  Action.require fault (← r.user)

/-- The cards that a user made, likes or keeps as favorites. -/
def profileCards (r : Request) : Action Reply := do
  let anonymous (member : String) : Fault := .noMember "AnonymousUser" member
  let cards ←
    match (r.param? "type").getD "my" with
    | "my" => do
      let user ← listOwner r .wrongType
      pure ((← Action.rows Database.cards).filter fun card => card.userId == user.id)
    | "liked" => do
      let user ← listOwner r (anonymous "liked_cards")
      pure ((← Action.rows Database.cards).filter fun card => card.likes.contains user.id)
    | "favorites" => do
      let user ← listOwner r (anonymous "favorited_cards")
      pure ((← Action.rows Database.cards).filter fun card => card.favorites.contains user.id)
    | _ => pure []
  return .ofJson (.object [("fields", .arr (cards.map listedJson))])

end GridCommons.Web
