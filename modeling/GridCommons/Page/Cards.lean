import GridCommons.Form.Content
import GridCommons.Page.Item
import GridCommons.Site.Row

/-!
Contract: the pages of cards.

Owns: the list of cards, the page of one card, the page to make a card, and the
page to complain about one.
-/

namespace GridCommons.Page

open Site
open GridCommons.Json (Value)

def numbers (ids : List Nat) : Value :=
  .arr (ids.map Value.nat)

def dayAndTime (t : Instant) : String :=
  t.date.dotted ++ " " ++ t.hourMinute

def messagesOf (complaints : Form.Complaints) (name : String) : List String :=
  ((complaints.lookup name).getD []).map Form.Complaint.message

def cardPath (id : Nat) : String := s!"/cards/{id}/"

/-! ## The list of cards -/

def listedCard (card : Card) : List Item :=
  .link (cardPath card.id) :: say card.title ++ (if card.isBlocked then say "Заблокировано" else []) ++
    say card.description ++ say ("Создано: " ++ dayAndTime card.createdAt)

/-- The list of cards.  Blocked cards are listed for staff only. -/
def index (cards : List Card) (isStaff : Bool) : Page where
  name := "index.html"
  data := [("fields", numbers (cards.map Card.id))]
  items := say "База знаний AlgEdu" ++ say "Найти" ++
    (if cards.isEmpty then say "Карты не найдены" ++ say "Попробуйте изменить параметры поиска"
      else (cards.filter fun card => !card.isBlocked || isStaff).flatMap listedCard)

/-! ## One card -/

/-- A comment on a card's page, with the name of its author. -/
def shownComment (comment : Comment) (author : String) : List Item :=
  say author ++ say (comment.createdAt.date.toText ++ " " ++ comment.createdAt.hourMinute) ++
    say comment.text ++ say "👍 Like (" ++ say (toString comment.likes.length) ++ say ")" ++
    say "⚠️ Report (" ++ say (toString comment.reports.length) ++ say ")"

def card (card : Card) (comments : List (Comment × String)) (isLiked isFavorite : Bool) : Page where
  name := "card_detail.html"
  data := [("field", .nat card.id), ("is_liked", .bool isLiked), ("is_favorited", .bool isFavorite),
    ("cols", .int card.cols), ("rows", .int card.rows)]
  items := linkTo "/" "Домой" ++ say card.title ++ say card.description ++ say "Robot Map" ++
    say "Grid Size:" ++ [.input none "5"] ++ say "x" ++ [.input none "5"] ++ say "Update Grid" ++
    say "❤️ Like (" ++ say (toString card.likes.length) ++ say ")" ++ say "⭐ Favorite" ++
    linkTo (cardPath card.id ++ "report/") "Пожаловаться" ++ say "Comments" ++ say "Post Comment" ++
    comments.flatMap fun (comment, author) => shownComment comment author

/-! ## Making a card -/

/-- A text, or another where it is missing or empty. -/
def orElse (other : String) : Option String → String
  | some "" | none => other
  | some s => s

def createCard (submitted : Option Form.Submission) (complaints : Form.Complaints) : Page where
  name := "create_field.html"
  form := some (if submitted.isSome then .bound complaints else .unbound)
  items :=
    let value (name other : String) : String :=
      orElse other (submitted.bind fun s => s.text? name)
    let errors (name : String) : List Item := (messagesOf complaints name).flatMap say
    say "Создание новой карты" ++ say "Название карты" ++ [.input (some "title") (value "title" "")] ++
      errors "title" ++ say "Описание" ++ say (value "description" "") ++ errors "description" ++
      say "Количество колонок" ++ [.input (some "cols") (value "cols" "10")] ++ errors "cols" ++
      say "Количество строк" ++ [.input (some "rows") (value "rows" "10")] ++ errors "rows" ++
      say "Прикрепить файл" ++ say "Загрузить файл" ++ say "или перетащите" ++
      say "Поддерживаемые форматы: PDF, DOC/DOCX, JPG/PNG, XLS/XLSX, TXT. Максимальный размер: 5MB" ++
      errors "file" ++ linkTo "/" "Отмена" ++ say "Сохранить карту"

/-! ## Complaining about a card -/

/-- The options of a choice: a blank one and the given ones.  The one with the
chosen value is marked. -/
def options (choices : List (String × String)) (chosen : String) : List Item :=
  (("", "---------") :: choices).flatMap fun (value, shown) =>
    (if value = chosen then [Item.chosen] else []) ++ say shown

def reportCard (card : Card) (existing : Option CardReport) (submitted : Option Form.Submission)
    (complaints : Form.Complaints) : Page where
  name := "report_field.html"
  data := [("field", .nat card.id),
    ("existing_report", (existing.map fun report => Value.nat report.id).getD .null)]
  form := some (if submitted.isSome then .bound complaints else .unbound)
  items :=
    let value (name : String) : String := (submitted.bind fun s => s.text? name).getD ""
    let errors (name : String) : List Item := (messagesOf complaints name).flatMap say
    say ("Жалоба на карту: " ++ card.title) ++
      match existing with
      | some report =>
        let description := report.description.getD ""
        say ("Вы уже отправили жалобу на эту карту " ++ dayAndTime report.createdAt ++ ".") ++
          say ("Причина: " ++ shownChoice CardReport.reasons report.reason) ++
          (if description.isEmpty then [] else say ("Ваш комментарий: " ++ description))
      | none =>
        say "Reason" ++ options CardReport.reasons (value "reason") ++ errors "reason" ++
          say "Description" ++ say (value "description") ++ errors "description" ++
          say "Отправить жалобу" ++ linkTo "/" "Отмена"

end GridCommons.Page
