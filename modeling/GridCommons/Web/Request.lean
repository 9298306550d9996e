import GridCommons.Account.Session
import GridCommons.Form.Basic
import GridCommons.Json.Encoding
import GridCommons.Text.Percent

/-!
Contract: requests to the site.

Owns:
- a request: its method, path, query, visitor and body;
- how a target is split into path and query, and a query into parameters;
- what a body submits, the bytes it has, and the document that they hold.
-/

namespace GridCommons.Web

open Account Form

/-- The body of a request.  A submitted form keeps the bytes it was sent as. -/
inductive Body where
  | empty
  | bytes (data : Bytes)
  | form (submitted : Submission) (data : Bytes)
deriving Repr

/-- A request.  The path is decoded, the query is kept as it was sent. -/
structure Request where
  method : String := "GET"
  path : String
  query : String := ""
  visitor : Visitor
  host : String := "testserver"
  body : Body := .empty
deriving Repr

/-- Split a text at the first of some characters; the character goes with neither
part. -/
def splitAtFirst (marks : List Char) (s : List Char) : List Char × Option (List Char) :=
  let front := s.takeWhile fun c => !marks.contains c
  match s.drop front.length with
  | [] => (front, none)
  | _ :: rest => (front, some rest)

/-- Leave out a host in front of a path. -/
def dropHost : List Char → List Char
  | '/' :: '/' :: rest => rest.dropWhile fun c => !(['/', '?', '#'].contains c)
  | s => s

/-- Leave out a semicolon at the very end of a path. -/
def dropBareSemicolon (s : List Char) : List Char :=
  let last := (s.reverse.takeWhile fun c => c ≠ '/').reverse
  match splitAtFirst [';'] last with
  | (_, some []) => s.dropLast
  | _ => s

/-- The path and the query of a target, both as they were sent. -/
def splitTarget (target : String) : String × String :=
  let shown := target.toList.filter fun c => !(['\t', '\n', '\r'].contains c)
  let noHost := dropHost (shown.dropWhile fun c => c.toNat ≤ 32)
  let (front, _) := splitAtFirst ['#'] noHost
  let (path, query) := splitAtFirst ['?'] front
  (String.ofList (dropBareSemicolon path), String.ofList (query.getD []))

def queryPairs (query : String) : List (String × String) :=
  (Text.pieces '&' query.toList).filterMap fun pair =>
    if pair.isEmpty then none
    else
      let (name, value) := splitAtFirst ['='] pair
      some (Text.Percent.decodeQuery name, Text.Percent.decodeQuery (value.getD []))

def encodePairs (pairs : List (String × List String)) : String :=
  "&".intercalate (pairs.flatMap fun (name, values) =>
    values.map fun value =>
      Text.Percent.encodeQuery "" name ++ "=" ++ Text.Percent.encodeQuery "" value)

/-- Collect the values of each name, in the order of the names' first places. -/
def collectPairs (pairs : List (String × String)) : List (String × List String) :=
  pairs.foldl
    (fun found (name, value) =>
      if found.any fun entry => entry.1 == name then
        found.map fun entry => if entry.1 = name then (entry.1, entry.2 ++ [value]) else entry
      else found ++ [(name, [value])])
    []

def bodyLimit : Nat := 5242880

/-- The JSON document that a body holds.  A body that is too long is not read. -/
def readDocument (room : Option Nat) (body : Bytes) : Except Fault Json.Value :=
  if body.length > bodyLimit then .error .bodyTooLong
  else (Json.readBytes room body).mapError Fault.json

def querySafe : String := "/#%[]=:;$&()+,!?*@'~"

def pathSafe : String := "/:@&+$,-_.!~*'()"

namespace Request

/-- A request for a target.  Parameters that are handed in take the place of the
target's query. -/
def ofTarget (method target : String) (params : List (String × List String)) (visitor : Visitor)
    (body : Body) : Request :=
  let (path, query) := splitTarget target
  let given := encodePairs params
  { method
    path := Text.Percent.decodePath path
    query := if given.isEmpty then query else given
    visitor
    body }

/-- A request for a target as it stands on the wire. -/
def ofWire (method target : String) (visitor : Visitor) (body : Body) : Request :=
  let (path, query) := splitAtFirst ['?'] target.toList
  { method
    path := Text.Percent.decodePath (String.ofList path)
    query := String.ofList (query.getD [])
    visitor
    body }

def param? (r : Request) (name : String) : Option String :=
  ((queryPairs r.query).filter fun pair => pair.1 == name).getLast?.map Prod.snd

/-- What the request submits; only a request of method POST does. -/
def submitted (r : Request) : Submission :=
  match r.method, r.body with
  | "POST", .form s _ => s
  | _, _ => {}

def bytes (r : Request) : Bytes :=
  match r.body with
  | .bytes data | .form _ data => data
  | .empty => []

/-- The path and the query as they are written in links.  Of the query each byte
counts as a character. -/
def fullPath (r : Request) : String :=
  let bytes := String.ofList ((Text.bytesOf r.query).map fun b => Char.ofNat b.toNat)
  Text.Percent.encode pathSafe r.path ++
    (if r.query.isEmpty then "" else "?" ++ Text.Percent.encode querySafe bytes)

def user (r : Request) : Site.Action (Option Site.User) :=
  currentUser r.visitor

end Request

end GridCommons.Web
