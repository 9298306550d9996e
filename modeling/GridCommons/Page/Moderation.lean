import GridCommons.Page.Cards
import GridCommons.Text.Normal

/-!
Contract: the pages of moderators.

Owns: the panel with open complaints and blocked content, the page to settle one
complaint, and the panel in the administration.
-/

namespace GridCommons.Page

open Site
open GridCommons.Json (Value)

def cutLength : Nat := 50

/-- The characters of a text up to the last mark after a number of characters;
marks that combine with a character are not counted. -/
def takeCharacters : Nat → List Char → List Char
  | _, [] => []
  | n, c :: rest =>
    if Text.combiningClass c ≠ 0 then c :: takeCharacters n rest
    else
      match n with
      | 0 => []
      | n + 1 => c :: takeCharacters n rest

/-- A text cut after a number of characters, with an ellipsis as the last one. -/
def cut (s : String) : String :=
  let text := Text.canonicalForm s
  let length := text.toList.countP fun c => Text.combiningClass c = 0
  if length ≤ cutLength then text
  else String.ofList (takeCharacters (cutLength - 1) text.toList) ++ "…"

/-- A complaint with the card it is about and the name of who made it. -/
structure ShownReport where
  report : CardReport
  card : Card
  author : Option String

def panelRow (shown : ShownReport) : List Item :=
  say (toString shown.report.id) ++ say shown.card.title ++
    say (shownChoice CardReport.reasons shown.report.reason) ++ say (shown.author.getD "") ++
    say (dayAndTime shown.report.createdAt) ++
    linkTo s!"/moderation/field/{shown.report.id}/" "Рассмотреть"

def unblockRow (text kind : String) (id : Nat) : List Item :=
  say text ++ .target ("/moderation/unblock/" ++ kind ++ s!"/{id}/") :: say "Разблокировать"

def panelHeads : List Item :=
  ["ID", "Карта", "Причина", "Автор жалобы", "Дата", "Действия"].flatMap say

def moderationPanel (reports : List ShownReport) (cards : List Card) (comments : List Comment) :
    Page where
  name := "moderation/panel.html"
  data := [("field_reports", numbers (reports.map fun shown => shown.report.id)),
    ("blocked_fields", numbers (cards.map Card.id)),
    ("blocked_comments", numbers (comments.map Comment.id))]
  items := say "Панель модерации" ++ say s!"Жалобы на карты ({reports.length})" ++
    (if reports.isEmpty then say "Нет активных жалоб на карты"
      else panelHeads ++ reports.flatMap panelRow) ++
    say "Жалобы на комментарии (0)" ++ say "Нет активных жалоб на комментарии" ++
    say s!"Заблокированные карты ({cards.length})" ++
    (if cards.isEmpty then say "Нет заблокированных карт"
      else cards.flatMap fun card => unblockRow card.title "field" card.id) ++
    say s!"Заблокированные комментарии ({comments.length})" ++
    (if comments.isEmpty then say "Нет заблокированных комментариев"
      else comments.flatMap fun comment => unblockRow (cut comment.text) "comment" comment.id)

def resolveReport (shown : ShownReport) : Page where
  name := "moderation/resolve_field.html"
  data := [("report", .nat shown.report.id)]
  items := say s!"Рассмотрение жалобы #{shown.report.id}" ++ say "Информация о жалобе" ++
    say "Карта:" ++ linkTo (cardPath shown.card.id) shown.card.title ++
    say "Автор жалобы:" ++ say (shown.author.getD "") ++
    say "Причина:" ++ say (shownChoice CardReport.reasons shown.report.reason) ++
    say "Описание:" ++ say (orElse "-" shown.report.description) ++
    say "Действие модератора" ++ say "Заблокировать карту" ++ say "Отклонить жалобу"

def adminPanel (reports : List CardReport) (data : List (String × Value)) : Page where
  name := "moderation/moderation_panel.html"
  data := ("reports", numbers (reports.map CardReport.id)) :: data

end GridCommons.Page
