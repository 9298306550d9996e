import GridCommons.Web.Reply
import GridCommons.Web.Request

/-!
Contract: what stands in front of the operations of the site.

Owns:
- the choice of an operation by the method of a request, and the refusal of other
  methods;
- the guards that let only signed-in users or staff pass;
- where visitors are sent who may not pass;
- pages that are the same for everyone.
-/

namespace GridCommons.Web

open Site

/-- A page that shows nothing of the site's own. -/
def plainPage (name : String) : Action Reply :=
  return .ofPage { name }

def loginPath : String := "/accounts/login/"

def adminLoginPath : String := "/admin/login/"

/-- The page to sign in, which leads back to the request afterwards. -/
def signInFirst (path : String) (r : Request) : Reply :=
  .redirect (path ++ "?next=" ++ Text.Percent.encode "/" r.fullPath)

namespace Guard

def postOnly (r : Request) (next : Action Reply) : Action Reply :=
  if r.method = "POST" then next else return .notAllowed ["POST"]

def signedIn (r : Request) (next : User → Action Reply) : Action Reply := do
  match ← r.user with
  | some user => next user
  | none => return signInFirst loginPath r

/-- Let only staff pass; others are sent to the page of the administration. -/
def staff (r : Request) (next : User → Action Reply) : Action Reply := do
  match ← r.user with
  | some user => if user.isStaff then next user else return signInFirst adminLoginPath r
  | none => return signInFirst adminLoginPath r

/-- Let only staff pass; others are refused. -/
def staffOrForbidden (r : Request) (next : User → Action Reply) : Action Reply := do
  match ← r.user with
  | some user => if user.isStaff then next user else Action.fail .forbidden
  | none => Action.fail .forbidden

end Guard

/-- The operations of a resource by method.  A method PUT does what `put` says, and
a method HEAD does what GET does. -/
structure Methods where
  get : Option (Action Reply) := none
  post : Option (Action Reply) := none
  put : Option (Action Reply) := none

namespace Methods

def allowed (m : Methods) : List String :=
  (if m.get.isSome then ["GET"] else []) ++ (if m.post.isSome then ["POST"] else []) ++
    (if m.put.isSome then ["PUT"] else []) ++ (if m.get.isSome then ["HEAD"] else []) ++ ["OPTIONS"]

/-- Do what the method of a request asks for. -/
def dispatch (m : Methods) (method : String) : Action Reply :=
  let chosen := match method with
    | "GET" | "HEAD" => m.get
    | "POST" => m.post
    | "PUT" => m.put
    | "OPTIONS" => some (pure { allowed := m.allowed })
    | _ => none
  chosen.getD (pure (.notAllowed m.allowed))

def reading (get : Action Reply) : Methods :=
  { get := some get }

def form (get post : Action Reply) : Methods :=
  { get := some get, post := some post, put := some post }

end Methods

end GridCommons.Web
