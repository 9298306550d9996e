import GridCommons.Site.Datum
import GridCommons.Site.Row

/-!
Contract: the columns of each kind of row.

Owns:
- for every column its stored name, the name in sentences, its shape, its
  default, and whether it may be missing or blank;
- the order in which the tables hold their columns, which decides the order of
  complaints about missing values.
-/

namespace GridCommons.Site

inductive Stamp where
  | never
  | onInsert
  | onSave
deriving DecidableEq, Repr

inductive Shape where
  | serial
  | text (limit : Option Nat)
  | username
  | email
  | integer (least : Int)
  | flag
  | instant (stamp : Stamp)
  | date
  | bytes
  | link (target : Kind)
deriving DecidableEq, Repr

/-- A column.  Where no value is handed in it takes its default, or the clock if
`clocked` is set. -/
structure Column where
  name : String
  shape : Shape
  label : String := name
  nullable : Bool := false
  blank : Bool := false
  editable : Bool := true
  choices : List (String × String) := []
  default : Datum := .null
  clocked : Bool := false
deriving Repr

namespace Column

def serial : Column :=
  { name := "id", shape := .serial, label := "ID", blank := true }

def line (name : String) (limit : Option Nat) (blank : Bool) : Column :=
  { name, shape := .text limit, blank, default := .text "" }

def integer (name : String) (default : Datum) : Column :=
  { name, shape := .integer (-9223372036854775808), default }

def flag (name label : String) (default : Bool) : Column :=
  { name, label, shape := .flag, default := .bool default }

/-- A reference to a row of another kind. -/
def link (relation : String) (target : Kind) : Column :=
  { name := relation ++ "_id", label := relation, shape := .link target }

def created : Column :=
  { name := "created_at", label := "created at", shape := .instant .onInsert, blank := true,
    editable := false }

/-- The name of a column without the ending of a reference. -/
def relation (c : Column) : String :=
  match c.shape with
  | .link _ => String.ofList (c.name.toList.take (c.name.length - 3))
  | _ => c.name

end Column

/-- The columns of a kind, in the order in which they are checked. -/
def Kind.columns : Kind → List Column
  | .user =>
    [.serial,
      { name := "password", shape := .text (some 128), default := .text "" },
      { name := "last_login", label := "last login", shape := .instant .never, nullable := true,
        blank := true },
      .flag "is_superuser" "superuser status" false,
      { name := "username", shape := .username, default := .text "" },
      { Column.line "first_name" (some 150) true with label := "first name" },
      { Column.line "last_name" (some 150) true with label := "last name" },
      { name := "email", label := "email address", shape := .email, blank := true,
        default := .text "" },
      .flag "is_staff" "staff status" false,
      .flag "is_active" "active" true,
      { name := "date_joined", label := "date joined", shape := .instant .never, clocked := true },
      { name := "birth_date", label := "birth date", shape := .date, nullable := true,
        blank := true },
      .line "bio" none true,
      .line "location" (some 100) true,
      { Column.line "avatar" (some 100) true with nullable := true }]
  | .profileNote =>
    [.serial, .link "profile" .user, .link "author" .user, .line "text" none false, .created]
  | .attachment =>
    [.serial, .line "name" (some 255) false,
      { Column.line "content_type" (some 100) false with label := "content type" },
      { name := "data", shape := .bytes, editable := false, default := .bytes [] },
      { name := "size", shape := .integer 0 }, .created]
  | .card =>
    [.serial, .link "user" .user, .line "title" (some 255) false, .line "description" none false,
      .created,
      { name := "updated_at", label := "updated at", shape := .instant .onSave, blank := true,
        editable := false },
      .flag "is_blocked" "Заблокировано" false, .integer "cols" (.int 10),
      .integer "rows" (.int 10),
      { Column.link "file" .attachment with nullable := true, blank := true }]
  | .cell =>
    [.serial, .link "field" .card, .integer "x" .null, .integer "y" .null,
      .flag "is_blocked" "is blocked" false]
  | .wall =>
    [.serial, .link "field" .card, .integer "x" .null, .integer "y" .null,
      .integer "width" (.int 1), .integer "height" (.int 1),
      { Column.link "created_by" .user with label := "created by" }]
  | .comment =>
    [.serial, .link "field" .card, .link "author" .user, .line "text" none false, .created,
      .flag "is_blocked" "Заблокировано" false]
  | .cardLike | .cardFavorite =>
    [.serial, .link "user" .user, .link "field" .card, .created]
  | .commentLike =>
    [.serial, .link "user" .user, .link "comment" .comment, .created]
  | .commentFlag =>
    [.serial, .link "user" .user]
  | .cardReport =>
    [.serial,
      { Column.line "status" (some 10) false with
        choices := CardReport.statuses, default := .text "pending" },
      .link "field" .card, { Column.link "user" .user with nullable := true },
      { Column.line "reason" (some 20) false with choices := CardReport.reasons },
      { Column.line "description" none true with nullable := true, default := .null }, .created,
      .flag "is_resolved" "is resolved" false]

def Kind.column? (kind : Kind) (name : String) : Option Column :=
  kind.columns.find? fun column => column.name == name

/-- The columns of a kind in the order in which its table holds them. -/
def Kind.tableOrder : Kind → List String
  | .user =>
    ["id", "password", "last_login", "is_superuser", "username", "first_name", "last_name", "email",
      "is_staff", "is_active", "date_joined", "birth_date", "bio", "location", "avatar"]
  | .profileNote => ["id", "text", "created_at", "author_id", "profile_id"]
  | .attachment => ["id", "name", "content_type", "data", "size", "created_at"]
  | .card =>
    ["id", "title", "description", "created_at", "updated_at", "cols", "rows", "user_id", "file_id",
      "is_blocked"]
  | .cell => ["id", "x", "y", "is_blocked", "field_id"]
  | .wall => ["id", "x", "y", "width", "height", "created_by_id", "field_id"]
  | .comment => ["id", "text", "created_at", "is_blocked", "author_id", "field_id"]
  | .cardLike => ["id", "created_at", "field_id", "user_id"]
  | .cardFavorite => ["id", "created_at", "user_id", "field_id"]
  | .commentLike => ["id", "created_at", "comment_id", "user_id"]
  | .commentFlag => ["id", "user_id"]
  | .cardReport =>
    ["id", "reason", "description", "created_at", "is_resolved", "field_id", "user_id", "status"]

/-- The columns that must not agree together in two rows, by relation name; a
column that is unique alone is not among them. -/
def Kind.jointKeys : Kind → List (List String)
  | .cell => [["field", "x", "y"]]
  | .cardLike | .cardFavorite => [["user", "field"]]
  | .commentLike => [["user", "comment"]]
  | _ => []

end GridCommons.Site
