import GridCommons.Form.Basic
import GridCommons.Page.Cards
import GridCommons.Web.Address

/-!
Contract: the pages of users.

Owns: the pages to register and to sign in, the page to change the own profile,
and the page of a profile.
-/

namespace GridCommons.Page

open Site
open GridCommons.Json (Value)

def firstMessage (complaints : Form.Complaints) (name : String) : List Item :=
  ((messagesOf complaints name).head?.map say).getD []

def formState (submitted : Option Form.Submission) (complaints : Form.Complaints) : FormState :=
  if submitted.isSome then .bound complaints else .unbound

/-! ## Registering and signing in -/

/-- An input of the page to register: its name, label and hint. -/
structure RegistrationInput where
  name : String
  label : String
  hint : String

def registrationInputs : List RegistrationInput :=
  [⟨"username", "Логин", "Только буквы, цифры и @/./+/-/_"⟩, ⟨"email", "Email", ""⟩,
    ⟨"password1", "Пароль", "Пароль должен содержать минимум 8 символов."⟩,
    ⟨"password2", "Подтверждение пароля", "Введите тот же пароль, что и выше, для проверки."⟩]

/-- The page to register.  Only the address is shown again. -/
def register (submitted : Option Form.Submission) (complaints : Form.Complaints)
    (isSignedIn : Bool) : Page where
  name := "register.html"
  form := some (formState submitted complaints)
  items :=
    let email := (submitted.bind fun s => s.text? "email").getD ""
    let input (i : RegistrationInput) : List Item :=
      say i.label ++ say "*" ++
        (if i.name = "email" && !email.isEmpty then [.input (some "email") email] else []) ++
        say i.hint ++ firstMessage complaints i.name
    say "Регистрация" ++ say "Создайте новый аккаунт" ++
      if isSignedIn then say "Вы уже авторизованы!" ++ linkTo "/" "Перейти на главную →"
      else
        .target "/registration/" :: registrationInputs.flatMap input ++ say "Зарегистрироваться" ++
          say "Уже есть аккаунт?" ++ linkTo "/accounts/login/" "Войти"

def login (submitted : Option Form.Submission) (complaints : Form.Complaints) : Page where
  name := "login.html"
  form := some (formState submitted complaints)
  items :=
    let input (name label : String) : List Item :=
      let value := (submitted.bind fun s => s.text? name).getD ""
      say label ++ (if value.isEmpty then [] else [.input (some name) value]) ++
        firstMessage complaints name
    say "Вход в аккаунт" ++ .target "/accounts/login/" :: input "username" "Username" ++
      input "password" "Password" ++ say "Войти" ++ say "Нет аккаунта?" ++
      linkTo "/registration/" "Зарегистрироваться"

/-! ## Changing the own profile -/

/-- The page to change the own profile. -/
def editing (user : User) (submitted : Option Form.Submission) (complaints : Form.Complaints) :
    Page where
  name := "editing.html"
  form := some (formState submitted complaints)
  items :=
    let value (name stored : String) : String :=
      match submitted with
      | some s => (s.text? name).getD "None"
      | none => stored
    let birthDate := (user.birthDate.map Date.inWords).getD "None"
    say "Редактирование профиля" ++
      say "Email" ++ [.input (some "email") (value "email" user.email)] ++
      say "Имя" ++ [.input (some "first_name") (value "first_name" user.firstName)] ++
      say "Фамилия" ++ [.input (some "last_name") (value "last_name" user.lastName)] ++
      say "О себе" ++ say (value "bio" user.bio) ++
      say "Дата рождения" ++ [.input (some "birth_date") (value "birth_date" birthDate)] ++
      say "Локация" ++ [.input (some "location") (value "location" user.location)] ++
      say "Сохранить изменения"

/-! ## A profile -/

structure ShownNote where
  note : ProfileNote
  author : String

def noteItems (shown : ShownNote) : Except Fault (List Item) := do
  let path ← Web.reverse "profile_view" [.text shown.author]
  return .link path :: say shown.author ++ say (dayAndTime shown.note.createdAt) ++
    say shown.note.text

def deleteNote (note : ProfileNote) : List Item :=
  .target s!"/profile/comment/{note.id}/delete/" :: say "Удалить"

def userFacts (user : User) (isOwn : Bool) : List Item :=
  let initial := match user.username.toList with
    | [] => ""
    | c :: _ => String.ofList (Text.upper [c])
  let fact (label value : String) : List Item := if value.isEmpty then [] else say label ++ say value
  let birthDate := (user.birthDate.map Date.dotted).getD ""
  (if (user.avatar.getD "").isEmpty then say initial else []) ++
    say "Основная информация" ++ say "Имя пользователя:" ++ say user.username ++
    (if isOwn then say "Email:" ++ say user.email else []) ++
    (if user.firstName.isEmpty && user.lastName.isEmpty then []
      else say "Личные данные" ++ fact "Имя:" user.firstName ++ fact "Фамилия:" user.lastName) ++
    (if birthDate.isEmpty && user.location.isEmpty then []
      else say "Дополнительно" ++ fact "Дата рождения:" birthDate ++ fact "Локация:" user.location) ++
    (if user.bio.isEmpty then [] else say "О себе" ++ say user.bio)

/-- A profile with nothing in it that others could read. -/
def isBare (user : User) : Bool :=
  user.firstName.isEmpty && user.lastName.isEmpty && user.bio.isEmpty && user.location.isEmpty

def ownTabs (notes : List ShownNote) : Except Fault (List Item) := do
  let shown ← notes.mapM fun shown => do return (← noteItems shown) ++ deleteNote shown.note
  return say "Мои карты" ++ say "Лайкнутые" ++ say "Избранные" ++
    say s!"Комментарии ({notes.length})" ++ say "Активность" ++
    say "У вас пока нет созданных карточек." ++
    linkTo "/fields/create/" "Создать первую карточку" ++
    say "Вы еще не лайкнули ни одной карточки." ++ say "У вас пока нет избранных карточек." ++
    say "Комментарии к моему профилю" ++
    (if notes.isEmpty then say "Пока никто не оставил комментариев к вашему профилю."
      else shown.flatten) ++
    say "Ваша активность будет отображаться здесь."

/-- The public part of a profile, as a signed-in visitor sees it. -/
def publicPart (user visitor : User) (notes : List ShownNote) : Except Fault (List Item) := do
  let action ← Web.reverse "add_profile_comment" [.text user.username]
  let shown ← notes.mapM fun shown => do
    let mine := shown.note.authorId == visitor.id || visitor.isSuperuser
    return (← noteItems shown) ++ (if mine then deleteNote shown.note else [])
  return say "Публичная активность" ++ say "Комментарии" ++ .target action :: say "Отправить" ++
    (if notes.isEmpty then say "Пока нет комментариев. Будьте первым!" else shown.flatten) ++
    say (user.username ++ " пока не имеет публичной активности.")

def profile (user visitor : User) (notes : List ShownNote) : Except Fault Page := do
  let isOwn := user.id == visitor.id
  let ending ← if isOwn then ownTabs notes else publicPart user visitor notes
  return {
    name := "profile.html"
    data := [("profile_user", .text user.username), ("is_profile_page", .bool true),
      ("is_own_profile", .bool isOwn),
      ("profile_comments", numbers (notes.map fun shown => shown.note.id))]
    items := linkTo "/" "← На главную" ++
      (if isOwn then linkTo "/profile/" "Мой профиль" else []) ++
      say ("Профиль " ++ user.username) ++ userFacts user isOwn ++
      (if isOwn && isBare user then
        say "Ваш профиль почти пуст." ++ linkTo "/profile_update/" "Заполните информацию" ++
          say ", чтобы другие пользователи могли узнать вас лучше."
        else []) ++
      (if isOwn then
        linkTo "/profile_update/" "Редактировать" ++
          linkTo "/accounts/password_change/" "Сменить пароль" ++ .target "/logout/" :: say "Выйти"
        else []) ++
      ending }

end GridCommons.Page
