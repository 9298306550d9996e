import GridCommons.Site.Table
import GridCommons.Text.Base64
import GridCommons.Time

/-!
Contract: the rows of the site.

Owns:
- the kinds of rows, with the names that answers and messages use for them;
- one structure for each kind;
- the sum of all rows, its number and the references it holds;
- the keys under which two rows of a kind may not agree.

Members of a relation between a row and users (likes, favorites, reports) are
kept in the row, by ascending number.
-/

namespace GridCommons.Site

inductive Kind where
  | user
  | profileNote
  | attachment
  | card
  | cell
  | wall
  | comment
  | cardLike
  | cardFavorite
  | commentLike
  | commentFlag
  | cardReport
deriving DecidableEq, Repr

namespace Kind

def all : List Kind :=
  [.user, .profileNote, .attachment, .card, .cell, .wall, .comment, .cardLike, .cardFavorite,
    .commentLike, .commentFlag, .cardReport]

def label : Kind → String
  | .user => "User"
  | .profileNote => "ProfileComment"
  | .attachment => "FieldFile"
  | .card => "Field"
  | .cell => "Cell"
  | .wall => "Wall"
  | .comment => "Comment"
  | .cardLike => "LikeField"
  | .cardFavorite => "FavoriteField"
  | .commentLike => "LikeComment"
  | .commentFlag => "ReportComment"
  | .cardReport => "FieldReport"

def ofLabel? (name : String) : Option Kind :=
  all.find? fun kind => kind.label == name

/-- The name of a kind in lower case. -/
def slug (kind : Kind) : String :=
  String.ofList (kind.label.toList.map Char.toLower)

def table (kind : Kind) : String :=
  "main_app_" ++ kind.slug

def phrase : Kind → String
  | .user => "user"
  | .profileNote => "profile comment"
  | .attachment => "field file"
  | .card => "Карта"
  | .cell => "cell"
  | .wall => "wall"
  | .comment => "Комментарий"
  | .cardLike => "like field"
  | .cardFavorite => "favorite field"
  | .commentLike => "like comment"
  | .commentFlag => "report comment"
  | .cardReport => "field report"

end Kind

/-- A stored password.  Storing a password draws a fresh salt, so that two stored
passwords differ even for one secret; an unusable password and a text that was
stored as it is match no secret. -/
inductive Password where
  | salted (secret : String) (salt : Nat)
  | unusable (salt : Nat)
  | plain (text : String)
deriving DecidableEq, Repr

def Password.accepts (secret : String) : Password → Bool
  | .salted stored _ => stored == secret
  | _ => false

structure User where
  id : Nat
  username : String
  email : String := ""
  firstName : String := ""
  lastName : String := ""
  isStaff : Bool := false
  isSuperuser : Bool := false
  isActive : Bool := true
  birthDate : Option Date := none
  bio : String := ""
  location : String := ""
  avatar : Option String := some ""
  dateJoined : Instant
  lastLogin : Option Instant := none
  password : Password
deriving DecidableEq, Repr

structure ProfileNote where
  id : Nat
  profileId : Nat
  authorId : Nat
  text : String
  createdAt : Instant
deriving DecidableEq, Repr

structure Attachment where
  id : Nat
  name : String
  contentType : String
  data : Bytes
  size : Int
  createdAt : Instant
deriving DecidableEq, Repr

/-- A number is its own. -/
instance : Numbered Nat := ⟨fun n => n⟩

/-- The members of a relation: users by ascending number, each once. -/
structure Members where
  ids : List Nat := []
  ascending : ids.Pairwise fun earlier later => Numbered.id earlier < Numbered.id later := by
    exact ascending_nil
deriving DecidableEq, Repr

namespace Members

def contains (m : Members) (id : Nat) : Bool :=
  m.ids.contains id

def length (m : Members) : Nat :=
  m.ids.length

def join (id : Nat) (m : Members) : Members :=
  ⟨Table.place id m.ids, Table.place_ascending id m.ascending⟩

def drop (gone : Nat → Bool) (m : Members) : Members :=
  ⟨m.ids.filter fun id => !gone id, m.ascending.filter _⟩

def leave (id : Nat) (m : Members) : Members :=
  m.drop fun other => other == id

end Members

/-- A card: a grid that a user shares. -/
structure Card where
  id : Nat
  userId : Nat
  title : String
  description : String
  createdAt : Instant
  updatedAt : Instant
  isBlocked : Bool := false
  cols : Int := 10
  rows : Int := 10
  fileId : Option Nat := none
  likes : Members := {}
  favorites : Members := {}
deriving DecidableEq, Repr

/-- A square of a card's grid. -/
structure Cell where
  id : Nat
  cardId : Nat
  x : Int
  y : Int
  isBlocked : Bool := false
deriving DecidableEq, Repr

structure Wall where
  id : Nat
  cardId : Nat
  x : Int
  y : Int
  width : Int := 1
  height : Int := 1
  createdById : Nat
deriving DecidableEq, Repr

structure Comment where
  id : Nat
  cardId : Nat
  authorId : Nat
  text : String
  createdAt : Instant
  isBlocked : Bool := false
  likes : Members := {}
  reports : Members := {}
deriving DecidableEq, Repr

structure CardMark where
  id : Nat
  userId : Nat
  cardId : Nat
  createdAt : Instant
deriving DecidableEq, Repr

structure CommentMark where
  id : Nat
  userId : Nat
  commentId : Nat
  createdAt : Instant
deriving DecidableEq, Repr

/-- A complaint about comments, of which only the user is kept. -/
structure CommentFlag where
  id : Nat
  userId : Nat
deriving DecidableEq, Repr

structure CardReport where
  id : Nat
  status : String := "pending"
  cardId : Nat
  userId : Option Nat := none
  reason : String
  description : Option String := none
  createdAt : Instant
  isResolved : Bool := false
deriving DecidableEq, Repr

instance : Numbered User := ⟨User.id⟩
instance : Numbered ProfileNote := ⟨ProfileNote.id⟩
instance : Numbered Attachment := ⟨Attachment.id⟩
instance : Numbered Card := ⟨Card.id⟩
instance : Numbered Cell := ⟨Cell.id⟩
instance : Numbered Wall := ⟨Wall.id⟩
instance : Numbered Comment := ⟨Comment.id⟩
instance : Numbered CardMark := ⟨CardMark.id⟩
instance : Numbered CommentMark := ⟨CommentMark.id⟩
instance : Numbered CommentFlag := ⟨CommentFlag.id⟩
instance : Numbered CardReport := ⟨CardReport.id⟩

/-- The choices of a complaint's reason, with the names shown for them. -/
def CardReport.reasons : List (String × String) :=
  [("spam", "Спам"), ("abuse", "Оскорбительное содержание"), ("illegal", "Незаконный контент"),
    ("other", "Другое")]

/-- The choices of a complaint's status, with the names shown for them. -/
def CardReport.statuses : List (String × String) :=
  [("pending", "На рассмотрении"), ("approved", "Жалоба одобрена"), ("rejected", "Жалоба отклонена")]

/-- The name shown for a value; a value that is no choice is shown itself. -/
def shownChoice (choices : List (String × String)) (value : String) : String :=
  (choices.lookup value).getD value

inductive Row where
  | user (row : User)
  | profileNote (row : ProfileNote)
  | attachment (row : Attachment)
  | card (row : Card)
  | cell (row : Cell)
  | wall (row : Wall)
  | comment (row : Comment)
  | cardLike (row : CardMark)
  | cardFavorite (row : CardMark)
  | commentLike (row : CommentMark)
  | commentFlag (row : CommentFlag)
  | cardReport (row : CardReport)
deriving DecidableEq, Repr

/-- The place of a row: its kind and number. -/
structure Ref where
  kind : Kind
  id : Nat
deriving DecidableEq, Repr

/-- What becomes of a row when the row it refers to is deleted. -/
inductive OnDelete where
  | cascade
  | forget
deriving DecidableEq, Repr

structure Link where
  target : Ref
  onDelete : OnDelete := .cascade
deriving DecidableEq, Repr

inductive KeyPart where
  | number (n : Int)
  | text (s : String)
deriving DecidableEq, Repr

/-- Columns of a table that must not agree in two rows, with their values. -/
structure UniqueKey where
  columns : List String
  values : List KeyPart
deriving DecidableEq, Repr

namespace Row

def kind : Row → Kind
  | .user _ => .user
  | .profileNote _ => .profileNote
  | .attachment _ => .attachment
  | .card _ => .card
  | .cell _ => .cell
  | .wall _ => .wall
  | .comment _ => .comment
  | .cardLike _ => .cardLike
  | .cardFavorite _ => .cardFavorite
  | .commentLike _ => .commentLike
  | .commentFlag _ => .commentFlag
  | .cardReport _ => .cardReport

def id : Row → Nat
  | .user row => row.id
  | .profileNote row => row.id
  | .attachment row => row.id
  | .card row => row.id
  | .cell row => row.id
  | .wall row => row.id
  | .comment row => row.id
  | .cardLike row => row.id
  | .cardFavorite row => row.id
  | .commentLike row => row.id
  | .commentFlag row => row.id
  | .cardReport row => row.id

def ref (row : Row) : Ref :=
  ⟨row.kind, row.id⟩

/-- The references that the columns of a row hold. -/
def links : Row → List Link
  | .user _ => []
  | .profileNote row => [⟨⟨.user, row.profileId⟩, .cascade⟩, ⟨⟨.user, row.authorId⟩, .cascade⟩]
  | .attachment _ => []
  | .card row =>
    ⟨⟨.user, row.userId⟩, .cascade⟩ ::
      row.fileId.toList.map fun id => ⟨⟨.attachment, id⟩, .forget⟩
  | .cell row => [⟨⟨.card, row.cardId⟩, .cascade⟩]
  | .wall row => [⟨⟨.card, row.cardId⟩, .cascade⟩, ⟨⟨.user, row.createdById⟩, .cascade⟩]
  | .comment row => [⟨⟨.card, row.cardId⟩, .cascade⟩, ⟨⟨.user, row.authorId⟩, .cascade⟩]
  | .cardLike row => [⟨⟨.user, row.userId⟩, .cascade⟩, ⟨⟨.card, row.cardId⟩, .cascade⟩]
  | .cardFavorite row => [⟨⟨.user, row.userId⟩, .cascade⟩, ⟨⟨.card, row.cardId⟩, .cascade⟩]
  | .commentLike row => [⟨⟨.user, row.userId⟩, .cascade⟩, ⟨⟨.comment, row.commentId⟩, .cascade⟩]
  | .commentFlag row => [⟨⟨.user, row.userId⟩, .cascade⟩]
  | .cardReport row =>
    ⟨⟨.card, row.cardId⟩, .cascade⟩ ::
      row.userId.toList.map fun id => ⟨⟨.user, id⟩, .forget⟩

/-- The relations to users that a row keeps, by name. -/
def members : Row → List (String × List Nat)
  | .card row => [("likes", row.likes.ids), ("favorites", row.favorites.ids)]
  | .comment row => [("likes", row.likes.ids), ("reports", row.reports.ids)]
  | _ => []

/-- The keys that no other row of the kind may share. -/
def uniqueKeys : Row → List UniqueKey
  | .user row => [⟨["username"], [.text row.username]⟩]
  | .card row => row.fileId.toList.map fun (id : Nat) => ⟨["file_id"], [.number id]⟩
  | .cell row => [⟨["field_id", "x", "y"], [.number row.cardId, .number row.x, .number row.y]⟩]
  | .cardLike row | .cardFavorite row =>
    [⟨["user_id", "field_id"], [.number row.userId, .number row.cardId]⟩]
  | .commentLike row =>
    [⟨["user_id", "comment_id"], [.number row.userId, .number row.commentId]⟩]
  | _ => []

/-- Forget a reference to a place, where deletion only forgets. -/
def forget (target : Ref) : Row → Row
  | .card row =>
    .card { row with
      fileId := if target.kind = .attachment ∧ row.fileId = some target.id then none
        else row.fileId }
  | .cardReport row =>
    .cardReport { row with
      userId := if target.kind = .user ∧ row.userId = some target.id then none else row.userId }
  | row => row

/-- Leave users out of the relations that a row keeps. -/
def dropMembers (gone : Nat → Bool) : Row → Row
  | .card row =>
    .card { row with
      likes := row.likes.drop gone
      favorites := row.favorites.drop gone }
  | .comment row =>
    .comment { row with
      likes := row.likes.drop gone
      reports := row.reports.drop gone }
  | row => row

@[simp] theorem ref_forget (target : Ref) (row : Row) : (row.forget target).ref = row.ref := by
  cases row <;> rfl

@[simp] theorem ref_foldl_forget (targets : List Ref) (row : Row) :
    (targets.foldl (fun kept target => kept.forget target) row).ref = row.ref := by
  induction targets generalizing row with
  | nil => rfl
  | cons target rest inductionHypothesis =>
      rw [List.foldl_cons, inductionHypothesis, ref_forget]

@[simp] theorem ref_dropMembers (gone : Nat → Bool) (row : Row) :
    (row.dropMembers gone).ref = row.ref := by
  cases row <;> rfl

end Row

end GridCommons.Site
