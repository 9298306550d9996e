import GridCommons.Page.Fixed
import GridCommons.Web.Admin
import GridCommons.Web.Moderating

/-!
Contract: pages and operations that no address leads to.

Owns: what each of them does when it is called directly.
-/

namespace GridCommons.Web

open Site

/-- A page or operation without an address. -/
inductive Unlisted where
  | blockContent (content : String) (id : Nat)
  | pendingPanel
  | cardDetail (id : Nat)
  | cardList
  | docs
  | notFound
  | panel
deriving DecidableEq, Repr

def showNotFound (r : Request) : Action Reply :=
  (Methods.reading (return .ofPage Page.notFound)).dispatch r.method

/-- Content that can be blocked: its kind, its noun, and how it is blocked and
unblocked.  Where a kind lacks an operation that its noun promises, calling it is a
fault. -/
structure Blockable where
  kind : Kind
  noun : String
  title : String
  block : Nat → Action Bool
  unblock : Option (Nat → Action Bool)

def lacking (kind : Kind) (operation : String) (_ : Nat) : Action Bool :=
  Action.fail (.noMember kind.label operation)

def blockable? : String → Option Blockable
  | "field" => some ⟨.card, "карта", "Карта", lacking .card "safe_block",
      some fun id => Moderation.safeUnblockCard (some id)⟩
  | "comment" => some ⟨.comment, "комментарий", "Комментарий",
      fun id => Moderation.safeBlockComment (some id), some (lacking .comment "safe_unblock")⟩
  | "user" => some ⟨.user, "пользователь", "Пользователь",
      fun id => Moderation.safeBan (some id), none⟩
  | _ => none

/-- The page that follows a change of content, which the site does not have. -/
def contentPanel : Action Reply := do
  return .redirect (← Action.ofExcept (reverse "admin-panel" []))

/-- Run an operation on content, and tell whether it worked. -/
def tellingOutcome (b : Blockable) (operation : Action Bool) (done : String) : Action Unit := do
  if ← operation then Action.notify .success (b.title ++ " " ++ done) ""
  else Action.notify .error "Не удалось выполнить действие для %s" b.noun

def moderateContent (r : Request) (content : String) (id : Nat) : Action Unit := do
  let b ← Action.require (.noPage "Тип контента не поддерживается") (blockable? content)
  let found ← if inRange id then pure ((← Action.query).find? ⟨b.kind, id⟩) else pure none
  let _ ← Action.require (.noMatch b.kind) found
  match (r.submitted.text? "action").getD "block", b.unblock with
  | "block", _ => tellingOutcome b (b.block id) "успешно заблокирован"
  | "unblock", some unblock => tellingOutcome b (unblock id) "разблокирован"
  | _, _ =>
    Action.notify .error "Действие недоступно для этого типа контента" ""
    let _ ← contentPanel

def callUnlisted (r : Request) : Unlisted → Action Reply
  | .blockContent content id => Guard.staff r fun _ => do
    match ← Action.attempt (moderateContent r content id) with
    | .ok _ => pure ()
    | .error fault => Action.notify .error ("Произошла ошибка: " ++ fault.message) ""
    contentPanel
  | .pendingPanel => Guard.staff r fun _ => do
    return .ofPage (Page.adminPanel (← pendingReports) [])
  | .cardDetail id => do
    let _ ← Action.load Database.cards (.noRow .card) id
    Action.fail (.noTemplate ["your_app/field_detail.html"])
  | .cardList =>
    (Methods.reading do
      let _ ← Action.rows Database.cards
      Action.fail (.noTemplate ["fields/list.html", "main_app/field_list.html"])).dispatch r.method
  | .docs => (Methods.reading (Action.fail (.unknownName "settings"))).dispatch r.method
  | .notFound => showNotFound r
  | .panel => Guard.staffOrForbidden r fun _ => (Methods.reading showPanel).dispatch r.method

end GridCommons.Web
