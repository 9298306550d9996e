import GridCommons.Site.Column
import GridCommons.Site.Database

/-!
Contract: rows as lists of named values.

Owns:
- the values of a row, column by column, and the row that such values make up;
- the record of a row in answers, which leaves the password out and adds the
  members of its relations;
- what changed between two states of the database, as records.
-/

namespace GridCommons.Site

open GridCommons.Json (Value)

abbrev Record := List (String × Datum)

namespace Record

def get (r : Record) (name : String) : Datum :=
  (r.lookup name).getD .null

def set (name : String) (value : Datum) : Record → Record
  | [] => [(name, value)]
  | (other, old) :: rest =>
    if other = name then (name, value) :: rest else (other, old) :: set name value rest

def toJson (r : Record) : Value :=
  .object (r.map fun (name, value) => (name, value.toJson))

end Record

namespace Row

/-- The values of a row's columns, apart from a password. -/
def values : Row → Record
  | .user row =>
    [("id", .int row.id), ("username", .text row.username), ("email", .text row.email),
      ("first_name", .text row.firstName), ("last_name", .text row.lastName),
      ("is_staff", .bool row.isStaff), ("is_superuser", .bool row.isSuperuser),
      ("is_active", .bool row.isActive), ("birth_date", .ofOption .date row.birthDate),
      ("bio", .text row.bio), ("location", .text row.location),
      ("avatar", .ofOption .text row.avatar), ("date_joined", .instant row.dateJoined),
      ("last_login", .ofOption .instant row.lastLogin)]
  | .profileNote row =>
    [("id", .int row.id), ("profile_id", .int row.profileId), ("author_id", .int row.authorId),
      ("text", .text row.text), ("created_at", .instant row.createdAt)]
  | .attachment row =>
    [("id", .int row.id), ("name", .text row.name), ("content_type", .text row.contentType),
      ("data", .bytes row.data), ("size", .int row.size), ("created_at", .instant row.createdAt)]
  | .card row =>
    [("id", .int row.id), ("user_id", .int row.userId), ("title", .text row.title),
      ("description", .text row.description), ("created_at", .instant row.createdAt),
      ("updated_at", .instant row.updatedAt), ("is_blocked", .bool row.isBlocked),
      ("cols", .int row.cols), ("rows", .int row.rows),
      ("file_id", .ofOption (fun (id : Nat) => .int id) row.fileId)]
  | .cell row =>
    [("id", .int row.id), ("field_id", .int row.cardId), ("x", .int row.x), ("y", .int row.y),
      ("is_blocked", .bool row.isBlocked)]
  | .wall row =>
    [("id", .int row.id), ("field_id", .int row.cardId), ("x", .int row.x), ("y", .int row.y),
      ("width", .int row.width), ("height", .int row.height),
      ("created_by_id", .int row.createdById)]
  | .comment row =>
    [("id", .int row.id), ("field_id", .int row.cardId), ("author_id", .int row.authorId),
      ("text", .text row.text), ("created_at", .instant row.createdAt),
      ("is_blocked", .bool row.isBlocked)]
  | .cardLike row | .cardFavorite row =>
    [("id", .int row.id), ("user_id", .int row.userId), ("field_id", .int row.cardId),
      ("created_at", .instant row.createdAt)]
  | .commentLike row =>
    [("id", .int row.id), ("user_id", .int row.userId), ("comment_id", .int row.commentId),
      ("created_at", .instant row.createdAt)]
  | .commentFlag row =>
    [("id", .int row.id), ("user_id", .int row.userId)]
  | .cardReport row =>
    [("id", .int row.id), ("status", .text row.status), ("field_id", .int row.cardId),
      ("user_id", .ofOption (fun (id : Nat) => .int id) row.userId), ("reason", .text row.reason),
      ("description", .ofOption .text row.description), ("created_at", .instant row.createdAt),
      ("is_resolved", .bool row.isResolved)]

def record (row : Row) : Record :=
  row.values ++ row.members.map fun (relation, users) => (relation, .numbers users)

/-- The row of a kind that named values make up; the password of a user is handed
in beside them.  None where a value is missing or of another type. -/
def ofValues? (kind : Kind) (password : Password) (r : Record) : Option Row :=
  let id := (r.get "id").asId?
  let text (name : String) := (r.get name).asText?
  let int (name : String) := (r.get name).asInt?
  let flag (name : String) := (r.get name).asBool?
  let link (name : String) := (r.get name).asId?
  let instant (name : String) := (r.get name).asInstant?
  match kind with
  | .user => do
    return .user {
      id := ← id
      username := ← text "username"
      email := ← text "email"
      firstName := ← text "first_name"
      lastName := ← text "last_name"
      isStaff := ← flag "is_staff"
      isSuperuser := ← flag "is_superuser"
      isActive := ← flag "is_active"
      birthDate := ← (r.get "birth_date").optional? Datum.asDate?
      bio := ← text "bio"
      location := ← text "location"
      avatar := ← (r.get "avatar").optional? Datum.asText?
      dateJoined := ← instant "date_joined"
      lastLogin := ← (r.get "last_login").optional? Datum.asInstant?
      password }
  | .profileNote => do
    return .profileNote {
      id := ← id
      profileId := ← link "profile_id"
      authorId := ← link "author_id"
      text := ← text "text"
      createdAt := ← instant "created_at" }
  | .attachment => do
    return .attachment {
      id := ← id
      name := ← text "name"
      contentType := ← text "content_type"
      data := ← (r.get "data").asBytes?
      size := ← int "size"
      createdAt := ← instant "created_at" }
  | .card => do
    return .card {
      id := ← id
      userId := ← link "user_id"
      title := ← text "title"
      description := ← text "description"
      createdAt := ← instant "created_at"
      updatedAt := ← instant "updated_at"
      isBlocked := ← flag "is_blocked"
      cols := ← int "cols"
      rows := ← int "rows"
      fileId := ← (r.get "file_id").optional? Datum.asId? }
  | .cell => do
    return .cell {
      id := ← id
      cardId := ← link "field_id"
      x := ← int "x"
      y := ← int "y"
      isBlocked := ← flag "is_blocked" }
  | .wall => do
    return .wall {
      id := ← id
      cardId := ← link "field_id"
      x := ← int "x"
      y := ← int "y"
      width := ← int "width"
      height := ← int "height"
      createdById := ← link "created_by_id" }
  | .comment => do
    return .comment {
      id := ← id
      cardId := ← link "field_id"
      authorId := ← link "author_id"
      text := ← text "text"
      createdAt := ← instant "created_at"
      isBlocked := ← flag "is_blocked" }
  | .cardLike => do
    return .cardLike {
      id := ← id
      userId := ← link "user_id"
      cardId := ← link "field_id"
      createdAt := ← instant "created_at" }
  | .cardFavorite => do
    return .cardFavorite {
      id := ← id
      userId := ← link "user_id"
      cardId := ← link "field_id"
      createdAt := ← instant "created_at" }
  | .commentLike => do
    return .commentLike {
      id := ← id
      userId := ← link "user_id"
      commentId := ← link "comment_id"
      createdAt := ← instant "created_at" }
  | .commentFlag => do
    return .commentFlag { id := ← id, userId := ← link "user_id" }
  | .cardReport => do
    return .cardReport {
      id := ← id
      status := ← text "status"
      cardId := ← link "field_id"
      userId := ← (r.get "user_id").optional? Datum.asId?
      reason := ← text "reason"
      description := ← (r.get "description").optional? Datum.asText?
      createdAt := ← instant "created_at"
      isResolved := ← flag "is_resolved" }

def takeMembers : Row → Row → Row
  | .card row, .card old => .card { row with likes := old.likes, favorites := old.favorites }
  | .comment row, .comment old => .comment { row with likes := old.likes, reports := old.reports }
  | row, _ => row

/-- A row as answers can tell it from another: without its password. -/
def withoutPassword : Row → Row
  | .user row => .user { row with password := .plain "" }
  | row => row

end Row

namespace Database

structure Change where
  kind : Kind
  stored : List Row
  deleted : List Nat
deriving Repr

/-- The rows of a kind that are new or changed, and the numbers of those that
are gone. -/
def changeOf (before after : Database) (kind : Kind) : Change :=
  let old := (before.rowsOf kind).map Row.withoutPassword
  let new := (after.rowsOf kind).map Row.withoutPassword
  { kind
    stored := new.filter fun row => !old.contains row
    deleted := (old.map Row.id).filter fun id => !(new.map Row.id).contains id }

/-- All changes between two states; kinds without one are left out. -/
def changes (before after : Database) : List Change :=
  (Kind.all.map (changeOf before after)).filter fun change =>
    !(change.stored.isEmpty && change.deleted.isEmpty)

def Change.toJson (change : Change) : String × Value :=
  let stored := ("set", Value.arr (change.stored.map fun row => row.record.toJson))
  let deleted := ("del", Value.arr (change.deleted.map Value.nat))
  (change.kind.label,
    .object ((if change.stored.isEmpty then [] else [stored]) ++
      (if change.deleted.isEmpty then [] else [deleted])))

end Database

end GridCommons.Site
