import GridCommons.Form.Profile
import GridCommons.Form.Registration
import GridCommons.Page.People
import GridCommons.Web.Guard
import GridCommons.Web.Landing
import GridCommons.Web.Reading

/-!
Contract: accounts and profiles.

Owns: registering, signing in and out, changing the own password, changing and showing
profiles, and notes on profiles.
-/

namespace GridCommons.Web

open Site Form Account

/-! ## Registering -/

def registrationPage (r : Request) (submitted : Option Submission) (complaints : Complaints) :
    Action Reply := do
  return .ofPage (Page.register submitted complaints (← r.user).isSome)

/-- Register a user and open a session.  The password is stored once more after the
session was opened. -/
def register (r : Request) : Action Reply := do
  let form ← Registration.check r.submitted
  match form.valid? with
  | none => registrationPage r (some r.submitted) form.complaints
  | some v =>
    let id ← Registration.save v
    signIn r.visitor (← Action.load Database.users (.noRow .user) id)
    let user ← Action.load Database.users (.noRow .user) id
    Action.save (.user { user with password := ← storedPassword (some v.password) })
    return .redirect loginPath

/-! ## Signing in and out -/

/-- The complaint about a name and a password that do not belong together. -/
def wrongLogin : Complaint :=
  ⟨"invalid_login", "Please enter a correct username and password. " ++
    "Note that both fields may be case-sensitive."⟩

/-- A submitted name in its stored form; a name that is too long stays as it is. -/
def cleanLoginName (submitted : Option String) : Cleaned String :=
  TextRule.clean { strips := false } (submitted.map loginName)
where
  /-- The name without blanks around it. -/
  loginName (s : String) : String :=
    let name := Text.trim s
    if name.length > Username.lengthLimit then name else Username.stored name

structure Login where
  username : Cleaned String
  password : Cleaned String

def Login.check (s : Submission) : Login :=
  { username := cleanLoginName (s.text? "username")
    password := TextRule.clean { strips := false } (s.text? "password") }

def Login.complaints (l : Login) : Complaints :=
  Complaints.gather [("username", l.username.complaints), ("password", l.password.complaints)]

/-- The active user with a name and a password. -/
def knownUser (username password : String) : Action (Option User) := do
  let users ← Action.rows Database.users
  return users.find? fun user =>
    user.username == username && user.isActive && user.password.accepts password

def refuseLogin (r : Request) (complaints : Complaints) : Action Reply := do
  Action.notify .error "Неверное имя пользователя или пароль." ""
  return .ofPage (Page.login (some r.submitted) complaints)

def login (r : Request) : Action Reply := do
  let form := Login.check r.submitted
  match form.username.value?, form.password.value? with
  | some username, some password =>
    match ← knownUser username password with
    | none => refuseLogin r [(wholeName, [wrongLogin])]
    | some user =>
      signIn r.visitor user
      Action.notify .success "Вы успешно вошли в систему!" ""
      return .redirect (Text.Percent.encode querySafe (Landing.target r))
  | _, _ => refuseLogin r form.complaints

/-- Send visitors on who are signed in already, unless that leads to the same
page. -/
def unlessSignedIn (r : Request) (next : Action Reply) : Action Reply := do
  match ← r.user with
  | none => next
  | some _ =>
    let target := Landing.target r
    if target = r.path then Action.fail .redirectLoop
    else return .redirect (Text.Percent.encode querySafe target)

def logout (r : Request) : Action Reply := do
  signOut r.visitor
  return .redirect loginPath

/-! ## The own password -/

/-- The new password that a user submits.  The old one has to come with it, and the new
one twice. -/
def newPassword? (platform : Platform) (user : User) (s : Submission) : Option String := do
  let clean (name : String) : Cleaned String := Registration.passwordRule.clean (s.text? name)
  let old ← (clean "old_password").value?
  if user.password.accepts old then
    let first := clean "new_password1"
    let known : List PasswordRule.Known :=
      [⟨"username", user.username⟩, ⟨"first name", user.firstName⟩, ⟨"last name", user.lastName⟩,
        ⟨"email address", user.email⟩]
    let second := Registration.repeated first (clean "new_password2")
    let _ ← first.value?
    (Registration.allowed platform known second).value?
  else none

/-- Change the own password.  A browser that sends it stays signed in, and all others of
the user do not. -/
def changePassword (r : Request) (user : User) (done : String) : Action Reply := do
  match newPassword? (← Action.platform) user r.submitted with
  | none => plainPage "registration/password_change_form.html"
  | some secret =>
    let owner ← Action.load Database.users (.noRow .user) user.id
    let changed := { owner with password := ← storedPassword (some secret) }
    Action.save (.user changed)
    giveSession r.visitor changed
    return .redirect done

/-- The page to change the own password, for where a change leads to. -/
def passwordPage (r : Request) (user : User) (done : String) : Action Reply :=
  (Methods.form (plainPage "registration/password_change_form.html")
    (changePassword r user done)).dispatch r.method

/-- Ask for a mail with which a forgotten password can be changed.  The mail is no part
of the site's state. -/
def askForReset (r : Request) : Action Reply := do
  let rule := Registration.emailRule (← Action.platform)
  match (rule.clean (r.submitted.text? "email")).value? with
  | none => plainPage "registration/password_reset_form.html"
  | some _ =>
    Action.reachable
    return .redirect "/accounts/password_reset/done/"

/-! ## The own profile -/

structure ProfileFacts where
  firstName : Option String
  email : Option String
  age : Option Int
deriving Repr

def ProfileFacts.problem? (p : ProfileFacts) : Option String :=
  if (p.firstName.getD "").isEmpty then some "Имя не может быть пустым."
  else if !(p.email.getD "").toList.contains '@' then some "Введите корректный email."
  else if (p.age.map fun age => decide (age < 0 ∨ 120 < age)).getD false then
    some "Возраст должен быть от 0 до 120 лет."
  else none

def ProfileFacts.check (p : ProfileFacts) : Action Unit :=
  match p.problem? with
  | some problem => Action.fail (.invalid [problem])
  | none => return ()

def updateProfile (r : Request) (user : User) : Action Reply := do
  let form ← Profile.check (some user.id) r.submitted
  let again (complaints : Complaints) : Reply :=
    .ofPage (Page.editing user (some r.submitted) complaints)
  match form.valid? with
  | none => return again form.complaints
  | some v =>
    let facts : ProfileFacts := ⟨some v.firstName, some v.email, none⟩
    match facts.problem? with
    | some problem => return again [(wholeName, [.plain problem])]
    | none =>
      Profile.save v user
      return .redirect "/profile/"

/-! ## Profiles and notes -/

/-- The user with a name, or no page. -/
def userNamed (username : String) : Action User := do
  let users ← Action.rows Database.users
  Action.require (.noMatch .user) (users.find? fun user => user.username == username)

/-- The notes on a profile, the newest first. -/
def notesOn (user : User) : Action (List Page.ShownNote) := do
  let d ← Action.query
  let notes := newestFirst ProfileNote.createdAt
    (d.profileNotes.rows.filter fun note => note.profileId == user.id)
  return notes.map fun note =>
    { note, author := ((d.users.find? note.authorId).map User.username).getD "" }

def showProfile (visitor user : User) : Action Reply := do
  return .ofPage (← Action.ofExcept (Page.profile user visitor (← notesOn user)))

/-- Put a note on a profile; only a submitted text does. -/
def addNote (r : Request) (author : User) (username : String) : Action Reply := do
  let user ← userNamed username
  if r.method = "POST" then
    let text := Text.trim ((r.submitted.text? "comment_text").getD "")
    if !text.isEmpty then
      let now ← Action.now
      let _ ← Action.insert .profileNote fun id =>
        .profileNote { id, profileId := user.id, authorId := author.id, text, createdAt := now }
      Action.notify .success "Комментарий добавлен" ""
  return .redirect (← Action.ofExcept (reverse "profile_view" [.text username]))

/-- A visitor may delete a note: the profile or the note is theirs, or they are a
superuser. -/
def mayDeleteNote (visitor : User) (note : ProfileNote) : Bool :=
  visitor.id == note.profileId || visitor.id == note.authorId || visitor.isSuperuser

def deleteNote (visitor : User) (id : Nat) : Action Reply := do
  let note ← Action.load Database.profileNotes (.noMatch .profileNote) id
  if mayDeleteNote visitor note then
    Action.remove ⟨.profileNote, id⟩
    Action.notify .success "Комментарий удален" ""
  return .redirect "/profile/"

end GridCommons.Web
