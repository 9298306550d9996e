import GridCommons.Page.Moderation
import GridCommons.Site.Moderation
import GridCommons.Web.Reading

/-!
Contract: the work of moderators.

Owns: the panel, settling complaints, and blocking and unblocking of content.
-/

namespace GridCommons.Web

open Site

def moderationPath : String := "/moderation/"

/-- The most blocked rows of a kind that the panel shows. -/
def panelLength : Nat := 10

/-- A complaint with its card and the name of who made it. -/
def shownReport? (d : Database) (report : CardReport) : Option Page.ShownReport := do
  let card ← d.cards.find? report.cardId
  return { report, card,
           author := report.userId.bind fun id => (d.users.find? id).map User.username }

def showPanel : Action Reply := do
  let d ← Action.query
  let reports := (d.cardReports.rows.filter fun report => !report.isResolved).filterMap (shownReport? d)
  let cards := newestFirst Card.updatedAt (d.cards.rows.filter Card.isBlocked)
  let comments := newestFirst Comment.createdAt (d.comments.rows.filter Comment.isBlocked)
  return .ofPage
    (Page.moderationPanel reports (cards.take panelLength) (comments.take panelLength))

/-! ## Complaints -/

/-- The page to settle a complaint about a card. -/
def showReport (id : Nat) : Action Reply := do
  let report ← Action.load Database.cardReports (.noMatch .cardReport) id
  let shown ← Action.require (.noRow .card) (shownReport? (← Action.query) report)
  return .ofPage (Page.resolveReport shown)

inductive Decision where
  | block
  | ignore
  | other
deriving DecidableEq, Repr

def decisionOf (r : Request) : Decision :=
  match r.submitted.text? "action" with
  | some "block" => .block
  | some "ignore" => .ignore
  | _ => .other

def tellIgnored : Action Unit :=
  Action.notify .info "Жалоба отклонена" ""

/-- Settle a complaint about a card. -/
def resolveReport (r : Request) (id : Nat) : Action Reply := do
  let report ← Action.load Database.cardReports (.noMatch .cardReport) id
  let status ←
    match decisionOf r with
    | .block => do
      Moderation.blockCard (← Action.load Database.cards (.noRow .card) report.cardId)
      Action.notify .success "Карта заблокирована" ""
      pure "approved"
    | .ignore => do
      tellIgnored
      pure "rejected"
    | .other => pure report.status
  Action.save (.cardReport { report with status, isResolved := true })
  return .redirect moderationPath

/-- The page to settle a complaint about comments, which the site does not have. -/
def showCommentFlag (id : Nat) : Action Reply := do
  let _ ← Action.load Database.commentFlags (.noMatch .commentFlag) id
  Action.fail (.noTemplate ["moderation/resolve_comment.html"])

/-- Settle a complaint about comments.  It does not know its comment, so that
nothing can be blocked. -/
def resolveCommentFlag (r : Request) (id : Nat) : Action Reply := do
  let flag ← Action.load Database.commentFlags (.noMatch .commentFlag) id
  match decisionOf r with
  | .block => Action.fail (.noMember Kind.commentFlag.label "comment")
  | .ignore => tellIgnored
  | .other => pure ()
  Action.save (.commentFlag flag)
  return .redirect moderationPath

/-! ## Blocking -/

def tellingFaults (action : Action Unit) : Action Reply := do
  match ← Action.attempt action with
  | .ok _ => pure ()
  | .error fault => Action.notify .error "Ошибка: %s" fault.message
  return .redirect moderationPath

/-- Block content.  Cards cannot be blocked here. -/
def blockContent (content : String) (id : Nat) : Action Reply :=
  tellingFaults do
    match content with
    | "field" =>
      let _ ← Action.load Database.cards (.noRow .card) id
      Action.notify .error "Не удалось заблокировать" ""
    | "comment" =>
      let _ ← Action.load Database.comments (.noRow .comment) id
      let _ ← Moderation.safeBlockComment (some id)
      Action.notify .success "Комментарий успешно заблокирована" ""
    | "user" =>
      let _ ← Action.load Database.users (.noRow .user) id
      let _ ← Moderation.safeBan (some id)
      Action.notify .success "Пользователь успешно заблокирована" ""
    | _ => Action.fail .unknownContent

/-- Unblock content.  Only cards can be unblocked. -/
def unblockContent (content : String) (id : Nat) : Action Reply :=
  tellingFaults do
    match content with
    | "field" =>
      let _ ← Action.load Database.cards (.noRow .card) id
      let _ ← Moderation.safeUnblockCard (some id)
      Action.notify .success "Карта успешно разблокирована" ""
    | "comment" =>
      let _ ← Action.load Database.comments (.noRow .comment) id
      Action.notify .error "Не удалось разблокировать" ""
    | _ => Action.fail .unknownContent

end GridCommons.Web
