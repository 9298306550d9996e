import GridCommons.Page.Item
import GridCommons.Text.Base64

/-!
Contract: replies of the site.

Owns: a reply with its status, where it leads, which methods it allows, and what
it brings.
-/

namespace GridCommons.Web

open GridCommons.Json (Value)

inductive Content where
  | empty
  | notice (lines : List String)
  | json (value : Value)
  | file (contentType disposition : String) (data : Bytes)
  | page (page : Page)
deriving Repr

structure Reply where
  status : Nat := 200
  location : Option String := none
  allowed : List String := []
  content : Content := .empty
deriving Repr

namespace Reply

def ofPage (page : Page) : Reply :=
  { content := .page page }

def ofJson (value : Value) : Reply :=
  { content := .json value }

/-- A JSON value with one key that tells what is wrong. -/
def ofError (status : Nat) (message : String) : Reply :=
  { status, content := .json (.object [("error", .text message)]) }

def redirect (path : String) : Reply :=
  { status := 302, location := some path }

def notAllowed (methods : List String) : Reply :=
  { status := 405, allowed := methods }

def forbidden : Reply :=
  { status := 403, content := .notice ["403 Forbidden"] }

/-- Refuse what makes no sense. -/
def badRequest : Reply :=
  { status := 400, content := .notice ["Bad Request (400)"] }

end Reply

end GridCommons.Web
