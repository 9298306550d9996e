import GridCommons.Web.Accounts
import GridCommons.Web.ObjectForm

/-!
Contract: the pages of the administration.

Owns:
- which pages staff and which only superusers reach;
- signing in and out of the administration;
- the deletion of single rows, and what is told about rows that are not there.

Does not own: the panel of complaints, the lists, and the forms of single rows.
-/

namespace GridCommons.Web

open Site

def superuserOnly (user : User) (next : Action Reply) : Action Reply :=
  if user.isSuperuser then next else Action.fail .forbidden

/-! ## Signing in and out -/

/-- Sign in to the administration, as only staff may. -/
def adminLogin (r : Request) : Action Reply := do
  let form := Login.check r.submitted
  let found ← match form.username.value?, form.password.value? with
    | some username, some password => knownUser username password
    | _, _ => pure none
  match found.filter User.isStaff with
  | some user =>
    Account.signIn r.visitor user
    return .redirect (Text.Percent.encode querySafe (Landing.target r))
  | none => plainPage "admin/login.html"

/-- The page to sign in to the administration; staff are sent on. -/
def adminLoginPage (r : Request) : Action Reply := do
  let user ← if r.method = "GET" then r.user else pure none
  if (user.map User.isStaff).getD false then return .redirect adminPath
  else (Methods.form (plainPage "admin/login.html") (adminLogin r)).dispatch r.method

def signOutPage (r : Request) : Action Reply :=
  Methods.dispatch
    { post := some do
        Account.signOut r.visitor
        plainPage "registration/logged_out.html" }
    r.method

/-- Sign out of the administration; visitors who are not staff are sent to its first
page. -/
def adminLogout (r : Request) : Action Reply := do
  let user ← r.user
  if (user.map User.isStaff).getD false then signOutPage r else return .redirect adminPath

/-! ## Single rows -/

def changePath (area : AdminSection) (object : String) : Except Fault String :=
  reverse ("admin:" ++ Route.sectionName area ++ "_change") [.text object]

/-- The characters that the text of an object writes as an underscore and two digits. -/
def quotedMarks : List Char :=
  "\":/_#?;@&=+$,[]<>%\n\\".toList

/-- The mark that a character and two digits behind it write. -/
def quotedMark? (c : Char) : List Char → Option Char
  | high :: low :: _ => quotedMarks.find? fun mark =>
    c = '_' && Text.Percent.escape mark.toNat.toUInt8 == ['%', high, low]
  | _ => none

/-- Read the text of an object after some characters that are used up. -/
def unquotedFrom : Nat → List Char → List Char
  | _, [] => []
  | used + 1, _ :: rest => unquotedFrom used rest
  | 0, c :: rest =>
    match quotedMark? c rest with
    | some mark => mark :: unquotedFrom 2 rest
    | none => c :: unquotedFrom 0 rest

def adminRow (area : AdminSection) (object : String) : Action (Option Row) := do
  match sectionKind area, numberOf? object with
  | some kind, some (.ofNat id) => return (← Action.query).find? ⟨kind, id⟩
  | _, _ => return none

def objectMissing (area : AdminSection) (object : String) : Action Reply := do
  Action.notify .warning
    (sectionNoun area ++ " with ID “" ++ object ++ "” doesn’t exist. Perhaps it was deleted?") ""
  return .redirect adminPath

/-- Go on with the row that an object's text names. -/
def withObject (area : AdminSection) (object : String) (next : Row → Action Reply) :
    Action Reply := do
  let named := String.ofList (unquotedFrom 0 object.toList)
  match ← adminRow area named with
  | some row => next row
  | none => objectMissing area named

/-- Rows are not looked up by a column without a name. -/
def refuseNameless (r : Request) (area : AdminSection) (next : Action Reply) : Action Reply :=
  if namingColumn? r = some "" then
    Action.fail (.noColumn (((sectionKind area).map Kind.label).getD "Group"))
  else next

/-- Delete a row once that is confirmed. -/
def deleteObject (r : Request) (area : AdminSection) (row : Row) : Action Reply := do
  if r.submitted.texts.isEmpty then plainPage "admin/delete_confirmation.html"
  else
    let shown ← (Draft.ofRow row).describe
    Action.remove row.ref
    Action.notify .success
      ("The " ++ sectionNoun area ++ " “" ++ shown ++ "” was deleted successfully.") ""
    return .redirect (adminPath ++ Route.sectionPath area)

/-! ## Pages -/

/-- Send staff on from a path without an address that lacks its last slash. -/
def appendSlash (r : Request) : Action Reply :=
  let whole : Request := { r with path := r.path ++ "/" }
  match r.path.toList.getLast? == some '/', addressOf whole.path with
  | false, some (.admin (.unknown _)) | true, _ | _, none => Action.fail (.noPage "")
  | false, some _ => return { status := 301, location := some whole.fullPath }

def serveList (r : Request) : AdminSection → Action Reply
  | .cards => do (cardListing (← Action.query)).serve r
  | .reports => do (reportListing (← Action.query)).serve r
  | .groups => return Listing.page ([] : List Card)

def administer (r : Request) : AdminPage → Action Reply
  | .login => adminLoginPage r
  | .logout => adminLogout r
  | page => Guard.staff r fun user =>
    match page with
    | .panel => moderateReports r
    | .changeStatus report => changeStatus r (.nat report) none
    | .list area => superuserOnly user (serveList r area)
    | .add area => byNumber r (superuserOnly user (serveObject r area none))
    | .change area object => byNumber r do
        if (r.submitted.text? "_saveasnew").isSome then superuserOnly user (serveObject r area none)
        else refuseNameless r area (superuserOnly user
          (withObject area object fun row => serveObject r area (some row.id)))
    | .delete area object => byNumber r (refuseNameless r area
        (superuserOnly user (withObject area object (deleteObject r area))))
    | .history area object => withObject area object fun _ =>
        superuserOnly user (plainPage "admin/object_history.html")
    | .object area object => do return .redirect (← Action.ofExcept (changePath area object))
    | .applications _ => plainPage "admin/app_index.html"
    | .index => plainPage "admin/index.html"
    | .passwordChange => passwordPage r user "/admin/password_change/done/"
    | .passwordChangeDone =>
      (Methods.reading (plainPage "registration/password_change_done.html")).dispatch r.method
    | .unknown _ => appendSlash r
    | .login | .logout | .autocomplete | .translations | .viewOnSite _ _ =>
      Action.fail (.noPage "")

end GridCommons.Web
