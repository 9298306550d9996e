import GridCommons.Web.Accounts
import GridCommons.Web.Admin
import GridCommons.Web.Making
import GridCommons.Web.Moderating
import GridCommons.Web.Unlisted
import GridCommons.Web.Walls

/-!
Contract: how the site serves a request.

Owns:
- the operation behind each address, with the guards in front of it;
- what becomes of a path without an address, of what is not there, and of visitors
  who are refused;
- that a request of method HEAD brings no body.
-/

namespace GridCommons.Web

open Site

def docsPath : String := "/static/index.html"

def docsMethods : List String :=
  ["GET", "POST", "PUT", "PATCH", "DELETE", "HEAD", "OPTIONS"]

def serveAccount (r : Request) : AccountPage → Action Reply
  | .login => unlessSignedIn r
      ((Methods.form (return .ofPage (Page.login none [])) (login r)).dispatch r.method)
  | .logout => signOutPage r
  | .passwordChange =>
    Guard.signedIn r fun user => passwordPage r user "/accounts/password_change/done/"
  | .passwordChangeDone => Guard.signedIn r fun _ => still "registration/password_change_done.html"
  | .passwordReset =>
    (Methods.form (plainPage "registration/password_reset_form.html") (askForReset r)).dispatch r.method
  | .passwordResetDone => still "registration/password_reset_done.html"
  -- no one is told what would have to stand in the path
  | .passwordResetConfirm _ _ => plainPage "registration/password_reset_confirm.html"
  | .passwordResetComplete => still "registration/password_reset_complete.html"
where
  /-- A page that is only read. -/
  still (name : String) : Action Reply := (Methods.reading (plainPage name)).dispatch r.method

/-- Let only submissions of signed-in users pass. -/
def submission (r : Request) (next : User → Action Reply) : Action Reply :=
  Guard.postOnly r (Guard.signedIn r next)

def serveAddress (r : Request) : Address → Action Reply
  | .admin page => administer r page
  | .index => (Methods.reading (showIndex r)).dispatch r.method
  | .profileUpdate => Guard.signedIn r fun user =>
    (Methods.form (return .ofPage (Page.editing user none [])) (updateProfile r user)).dispatch
      r.method
  | .registration => (Methods.form (registrationPage r none []) (register r)).dispatch r.method
  | .login => serveAccount r .login
  | .account page => serveAccount r page
  | .card id => (Methods.reading (showCard r id)).dispatch r.method
  | .toggleLike id => submission r fun user => toggleLike user id
  | .toggleFavorite id => submission r fun user => toggleFavorite user id
  | .search => searchCards r
  | .reportCard id => Guard.signedIn r fun user =>
    (Methods.form (reportPage user id none []) (makeReport r user id)).dispatch r.method
  | .addComment id => submission r fun user => addComment r user id
  | .toggleCommentLike id => submission r fun user => toggleCommentLike user id
  | .reportComment id => submission r fun user => reportComment user id
  | .cardState id => cardState id
  | .addWall => submission r fun user => addWall r user
  | .removeWall id => submission r fun user => removeWall user id
  | .logout => logout r
  | .about => (Methods.reading (return .ofPage Page.about)).dispatch r.method
  | .goals => (Methods.reading (return .ofPage Page.goals)).dispatch r.method
  | .ownProfile => Guard.signedIn r fun user =>
    (Methods.reading (showProfile user user)).dispatch r.method
  | .profile username => Guard.signedIn r fun user =>
    (Methods.reading do showProfile user (← userNamed username)).dispatch r.method
  | .addProfileNote username => Guard.signedIn r fun user => addNote r user username
  | .deleteProfileNote id => Guard.signedIn r fun user => deleteNote user id
  | .createCard => Guard.signedIn r fun user =>
    (Methods.form newCard (makeCard r user)).dispatch r.method
  | .download id => downloadFile id
  | .moderation => Guard.staffOrForbidden r fun _ => (Methods.reading showPanel).dispatch r.method
  | .resolveCardReport id => Guard.staffOrForbidden r fun _ =>
    Methods.dispatch { get := some (showReport id), post := some (resolveReport r id) } r.method
  | .resolveCommentReport id => Guard.staffOrForbidden r fun _ =>
    Methods.dispatch { get := some (showCommentFlag id), post := some (resolveCommentFlag r id) }
      r.method
  | .unblock content id =>
    Methods.dispatch { post := some (unblockContent content id) } r.method
  | .block content id => Guard.staff r fun _ =>
    Methods.dispatch { post := some (blockContent content id) } r.method
  | .unblockAsStaff content id => Guard.staff r fun _ =>
    Methods.dispatch { post := some (unblockContent content id) } r.method
  | .profileCards => (Methods.reading (profileCards r)).dispatch r.method
  | .docs =>
    if docsMethods.contains r.method then return .redirect docsPath
    else return .notAllowed docsMethods

def withoutBody (reply : Reply) : Reply :=
  match reply.content with
  | .json _ => { reply with content := .empty }
  | .file contentType disposition _ => { reply with content := .file contentType disposition [] }
  | .page page => { reply with content := .page { page with items := [] } }
  | .empty | .notice _ => reply

/-- Answer what is not there and refuse who may not pass; other faults stay. -/
def settled (r : Request) (action : Action Reply) : Action Reply := do
  match ← Action.attempt action with
  | .ok reply => return reply
  | .error (.noMatch _) | .error (.noPage _) => showNotFound r
  | .error .forbidden => return .forbidden
  | .error fault => Action.fail fault

def serve (r : Request) : Action Reply :=
  match addressOf r.path with
  | none => showNotFound r
  | some address => settled r (serveAddress r address)

/-- Serve a request of a browser, to which the method HEAD brings no body. -/
def serveBrowser (r : Request) : Action Reply := do
  let reply ← serve r
  return if r.method = "HEAD" then withoutBody reply else reply

end GridCommons.Web
