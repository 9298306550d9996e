import GridCommons.Front.Host
import GridCommons.Front.Token
import GridCommons.Web.Site

/-!
Contract: the deployed site.

Owns:
- what arrives on the wire beside a request: origin, cookie and header against
  forged submissions;
- the gates in front of the site: the host, and the token of every submission to a
  known address;
- the response: the reply with its type and the headers that protect the visitor.

A fault of the site is a response here.
-/

namespace GridCommons.Front

open Site Web

structure Arrival where
  request : Request
  origin : Option String := none
  cookie : Option String := none
  header : Option String := none
deriving Repr

/-- Methods that change nothing and need no token. -/
def safeMethods : List String := ["GET", "HEAD", "OPTIONS", "TRACE"]

def tokenName : String := "csrfmiddlewaretoken"

/-- The token that arrives: the one of the form, or else the one of the header. -/
def Arrival.token (a : Arrival) : Option String :=
  let submitted := (a.request.submitted.text? tokenName).getD ""
  if submitted.isEmpty then a.header else some submitted

/-- An origin that is told is the site's own. -/
def Arrival.originHolds (a : Arrival) : Bool :=
  match a.origin with
  | none => true
  | some origin => origin == "http://" ++ a.request.host

/-- The submission is not forged. -/
def Arrival.genuine (a : Arrival) : Bool :=
  a.originHolds &&
    match a.cookie, a.token with
    | some cookie, some token => Token.agree cookie token
    | _, _ => false

/-- The headers that tell browsers what not to do. -/
def protection : List (String × String) :=
  [("referrer-policy", "same-origin"), ("cross-origin-opener-policy", "same-origin"),
    ("x-content-type-options", "nosniff")]

def frameless : String × String := ("x-frame-options", "DENY")

structure Response where
  status : Nat
  contentType : String
  headers : List (String × String)
  content : Content
deriving Repr

def typeOf : Content → String
  | .json _ => "application/json"
  | .file contentType _ _ => contentType
  | _ => "text/html; charset=utf-8"

def Response.ofReply (reply : Reply) : Response :=
  { status := reply.status
    contentType := typeOf reply.content
    headers := (reply.location.map fun path => ("location", path)).toList ++
      (if reply.allowed.isEmpty then [] else [("allow", ", ".intercalate reply.allowed)]) ++
      frameless :: protection
    content := reply.content }

def badHost : Response :=
  { status := 400, contentType := typeOf .empty, headers := protection
    content := .notice ["Bad Request (400)"] }

def broken : Response :=
  .ofReply { status := 500, content := .notice ["Server Error (500)"] }

/-- What a visitor without the cookie is told. -/
def cookieHints : List String :=
  ["You are seeing this message because this site requires a CSRF cookie when submitting forms. " ++
      "This cookie is required for security reasons, to ensure that your browser is not being " ++
      "hijacked by third parties.",
    "If you have configured your browser to disable cookies, please re-enable them, at least for " ++
      "this site, or for “same-origin” requests."]

def forged (a : Arrival) : Response :=
  .ofReply
    { status := 403
      content := .notice
        (["Forbidden", "(403)", "CSRF verification failed. Request aborted."] ++
          (if a.originHolds && a.cookie.isNone then cookieHints else []) ++
          ["More information is available with DEBUG=True."]) }

def Arrival.needsToken (a : Arrival) : Bool :=
  !safeMethods.contains a.request.method && (addressOf a.request.path).isSome

def answer (a : Arrival) : Action Response := do
  if !Host.isKnown a.request.host then return badHost
  else if a.needsToken && !a.genuine then return forged a
  else
    match ← Action.attempt (serve a.request) with
    | .ok reply => return .ofReply reply
    | .error _ => return broken

/-- Answer what arrives from a browser, which lends its session and keeps it. -/
def answerLent (a : Arrival) : Action Response := do
  let browsers := (← get).browsers
  let response ← answer a
  modify fun w => { w with browsers }
  return response

end GridCommons.Front
