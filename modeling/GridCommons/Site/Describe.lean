import GridCommons.Site.Draft

/-!
Contract: the sentence by which a row is shown.

Owns: the sentence of each kind, and the reading of the rows it mentions.
-/

namespace GridCommons.Site

namespace Draft

/-- The number that a reference of a draft holds.  A reference without a value is
a fault. -/
def linkTo (d : Draft) (relation : String) : Action Nat :=
  match d.column (relation ++ "_id") with
  | .int n => pure n.toNat
  | _ => Action.fail (.noRelated d.kind relation)

def userAt (d : Draft) (relation : String) : Action User := do
  Action.load Database.users (.noRow .user) (← d.linkTo relation)

def cardAt (d : Draft) (relation : String) : Action Card := do
  Action.load Database.cards (.noRow .card) (← d.linkTo relation)

def reasonShown (d : Draft) : String :=
  shownChoice CardReport.reasons (d.column "reason").toText

def statusShown (d : Draft) : String :=
  shownChoice CardReport.statuses (d.column "status").toText

def describe (d : Draft) : Action String :=
  match d.kind with
  | .user => return (d.column "username").toText
  | .profileNote => do
    let author ← d.userAt "author"
    let profile ← d.userAt "profile"
    return "Комментарий от " ++ author.username ++ " к профилю " ++ profile.username
  | .attachment => return (d.column "name").toText
  | .card => return (d.column "title").toText
  | .cell => do
    let card ← d.cardAt "field"
    return "Cell (" ++ (d.column "x").toText ++ ", " ++ (d.column "y").toText ++ ") in " ++ card.title
  | .wall => do
    let card ← d.cardAt "field"
    return "Wall at (" ++ (d.column "x").toText ++ ", " ++ (d.column "y").toText ++ ") in " ++
      card.title
  | .comment => do
    let author ← d.userAt "author"
    let card ← d.cardAt "field"
    return "Комментарий от " ++ author.username ++ " к " ++ card.title
  | .cardLike => do
    let user ← d.userAt "user"
    let card ← d.cardAt "field"
    return "Like by " ++ user.username ++ " on " ++ card.title
  | .cardFavorite => do
    let user ← d.userAt "user"
    let card ← d.cardAt "field"
    return "Favorite by " ++ user.username ++ " on " ++ card.title
  | .commentLike => do
    let user ← d.userAt "user"
    let comment ← Action.load Database.comments (.noRow .comment) (← d.linkTo "comment")
    return "Like by " ++ user.username ++ " on comment " ++ toString comment.id
  | .commentFlag => return "ReportComment object (" ++ (d.column "id").toText ++ ")"
  | .cardReport => do
    let card ← d.cardAt "field"
    return "Жалоба на " ++ card.title ++ " (" ++ d.reasonShown ++ ")"

end Draft

end GridCommons.Site
