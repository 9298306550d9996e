import GridCommons.Site.Row

/-!
Contract: all tables of the site together.

Owns:
- one table for each kind of row;
- look-up and storing of rows of any kind;
- the constraints between rows: unique keys and references;
- deletion with everything that depends on a row, and the count of it.

Main notions: `Database.Referential` says that every reference holds, and
`Database.Doomed` which rows a deletion takes with it.
-/

namespace GridCommons.Site

def largestNumber : Int := 9223372036854775807

/-- A number that the database can hold. -/
def inRange (n : Int) : Bool :=
  -largestNumber - 1 ≤ n && n ≤ largestNumber

structure Database where
  users : Table User := {}
  profileNotes : Table ProfileNote := {}
  attachments : Table Attachment := {}
  cards : Table Card := {}
  cells : Table Cell := {}
  walls : Table Wall := {}
  comments : Table Comment := {}
  cardLikes : Table CardMark := {}
  cardFavorites : Table CardMark := {}
  commentLikes : Table CommentMark := {}
  commentFlags : Table CommentFlag := {}
  cardReports : Table CardReport := {}
deriving Repr

namespace Database

instance : Inhabited Database := ⟨{}⟩

def rowsOf (d : Database) : Kind → List Row
  | .user => d.users.rows.map .user
  | .profileNote => d.profileNotes.rows.map .profileNote
  | .attachment => d.attachments.rows.map .attachment
  | .card => d.cards.rows.map .card
  | .cell => d.cells.rows.map .cell
  | .wall => d.walls.rows.map .wall
  | .comment => d.comments.rows.map .comment
  | .cardLike => d.cardLikes.rows.map .cardLike
  | .cardFavorite => d.cardFavorites.rows.map .cardFavorite
  | .commentLike => d.commentLikes.rows.map .commentLike
  | .commentFlag => d.commentFlags.rows.map .commentFlag
  | .cardReport => d.cardReports.rows.map .cardReport

def allRows (d : Database) : List Row :=
  Kind.all.flatMap d.rowsOf

def next (d : Database) : Kind → Nat
  | .user => d.users.next
  | .profileNote => d.profileNotes.next
  | .attachment => d.attachments.next
  | .card => d.cards.next
  | .cell => d.cells.next
  | .wall => d.walls.next
  | .comment => d.comments.next
  | .cardLike => d.cardLikes.next
  | .cardFavorite => d.cardFavorites.next
  | .commentLike => d.commentLikes.next
  | .commentFlag => d.commentFlags.next
  | .cardReport => d.cardReports.next

def find? (d : Database) (ref : Ref) : Option Row :=
  (d.rowsOf ref.kind).find? fun row => row.id == ref.id

def has (d : Database) (ref : Ref) : Bool :=
  (d.find? ref).isSome

def put (d : Database) : Row → Database
  | .user row => { d with users := d.users.put row }
  | .profileNote row => { d with profileNotes := d.profileNotes.put row }
  | .attachment row => { d with attachments := d.attachments.put row }
  | .card row => { d with cards := d.cards.put row }
  | .cell row => { d with cells := d.cells.put row }
  | .wall row => { d with walls := d.walls.put row }
  | .comment row => { d with comments := d.comments.put row }
  | .cardLike row => { d with cardLikes := d.cardLikes.put row }
  | .cardFavorite row => { d with cardFavorites := d.cardFavorites.put row }
  | .commentLike row => { d with commentLikes := d.commentLikes.put row }
  | .commentFlag row => { d with commentFlags := d.commentFlags.put row }
  | .cardReport row => { d with cardReports := d.cardReports.put row }

/-! ## Tables by kind -/

/-- A table as the home of one kind of row: how its rows are rows among all, and which
of all rows are its own. -/
structure Slot (α : Type) [Numbered α] where
  kind : Kind
  table : Database → Table α
  inject : α → Row
  project : Row → Option α
  rowsOf_eq : ∀ d, d.rowsOf kind = (table d).rows.map inject := by intro d; rfl
  next_eq : ∀ d, d.next kind = (table d).next := by intro d; rfl
  table_put : ∀ d part, table (d.put (inject part)) = (table d).put part := by intro d part; rfl
  inject_ref : ∀ part, (inject part).ref = ⟨kind, Numbered.id part⟩ := by intro part; rfl
  project_inject : ∀ part, project (inject part) = some part := by intro part; rfl
  inject_project : ∀ {row part}, project row = some part → inject part = row := by
    intro row part found
    cases row <;> cases found <;> rfl
  project_isSome : ∀ {row}, row.kind = kind → (project row).isSome := by
    intro row same
    cases row <;> simp_all [Row.kind]

namespace Slot

def user : Slot User :=
  { kind := .user, table := users, inject := .user
    project := fun | .user row => some row | _ => none }

def profileNote : Slot ProfileNote :=
  { kind := .profileNote, table := profileNotes, inject := .profileNote
    project := fun | .profileNote row => some row | _ => none }

def attachment : Slot Attachment :=
  { kind := .attachment, table := attachments, inject := .attachment
    project := fun | .attachment row => some row | _ => none }

def card : Slot Card :=
  { kind := .card, table := cards, inject := .card
    project := fun | .card row => some row | _ => none }

def cell : Slot Cell :=
  { kind := .cell, table := cells, inject := .cell
    project := fun | .cell row => some row | _ => none }

def wall : Slot Wall :=
  { kind := .wall, table := walls, inject := .wall
    project := fun | .wall row => some row | _ => none }

def comment : Slot Comment :=
  { kind := .comment, table := comments, inject := .comment
    project := fun | .comment row => some row | _ => none }

def cardLike : Slot CardMark :=
  { kind := .cardLike, table := cardLikes, inject := .cardLike
    project := fun | .cardLike row => some row | _ => none }

def cardFavorite : Slot CardMark :=
  { kind := .cardFavorite, table := cardFavorites, inject := .cardFavorite
    project := fun | .cardFavorite row => some row | _ => none }

def commentLike : Slot CommentMark :=
  { kind := .commentLike, table := commentLikes, inject := .commentLike
    project := fun | .commentLike row => some row | _ => none }

def commentFlag : Slot CommentFlag :=
  { kind := .commentFlag, table := commentFlags, inject := .commentFlag
    project := fun | .commentFlag row => some row | _ => none }

def cardReport : Slot CardReport :=
  { kind := .cardReport, table := cardReports, inject := .cardReport
    project := fun | .cardReport row => some row | _ => none }

/-- The table with every row changed or left out. -/
def mapTable {α : Type} [Numbered α] (slot : Slot α) (f : Row → Option Row)
    (keeps : ∀ row kept, f row = some kept → kept.ref = row.ref) (d : Database) : Table α :=
  (slot.table d).filterMap (fun part => (f (slot.inject part)).bind slot.project) <| by
    intro part keptPart image
    obtain ⟨kept, changed, projected⟩ := Option.bind_eq_some_iff.mp image
    have same : (slot.inject keptPart).ref = (slot.inject part).ref := by
      rw [slot.inject_project projected]
      exact keeps _ _ changed
    rw [slot.inject_ref, slot.inject_ref] at same
    exact congrArg Ref.id same

end Slot

/-- The tables with every row changed or left out; a row that stays keeps its
place. -/
def mapRows (d : Database) (f : Row → Option Row)
    (keeps : ∀ row kept, f row = some kept → kept.ref = row.ref) : Database :=
  { users := Slot.user.mapTable f keeps d
    profileNotes := Slot.profileNote.mapTable f keeps d
    attachments := Slot.attachment.mapTable f keeps d
    cards := Slot.card.mapTable f keeps d
    cells := Slot.cell.mapTable f keeps d
    walls := Slot.wall.mapTable f keeps d
    comments := Slot.comment.mapTable f keeps d
    cardLikes := Slot.cardLike.mapTable f keeps d
    cardFavorites := Slot.cardFavorite.mapTable f keeps d
    commentLikes := Slot.commentLike.mapTable f keeps d
    commentFlags := Slot.commentFlag.mapTable f keeps d
    cardReports := Slot.cardReport.mapTable f keeps d }

def without (d : Database) (place : Ref) : Database :=
  d.mapRows (fun row => if row.ref = place then none else some row) <| by
    intro row kept stays
    split at stays
    · cases stays
    · cases stays
      rfl

/-! ## Constraints -/

/-- Why a row cannot be stored: no number is left for it, or it would break a constraint,
which is a column without a value, a column out of its range, a key that another row has,
or a reference to no row. -/
inductive Violation where
  | full
  | empty (table column : String)
  | outOfRange (column : String)
  | sharedKey (table : String) (columns : List String)
  | dangling
deriving DecidableEq, Repr

def Violation.message : Violation → String
  | .full => "database or disk is full"
  | .empty table column => "NOT NULL constraint failed: " ++ table ++ "." ++ column
  | .outOfRange column => "CHECK constraint failed: " ++ column
  | .sharedKey table columns =>
    "UNIQUE constraint failed: " ++ ", ".intercalate (columns.map fun column => table ++ "." ++ column)
  | .dangling => "FOREIGN KEY constraint failed"

/-- No number is left for a row that the table does not have yet. -/
def isFull (d : Database) (row : Row) : Bool :=
  !inRange row.id && !d.has row.ref

/-- The column of a row that is out of its range: a size is never negative. -/
def outOfRange? : Row → Option String
  | .attachment row => if row.size < 0 then some "size" else none
  | _ => none

/-- The keys of a row that another row of its kind already has. -/
def sharedKey? (d : Database) (row : Row) : Option UniqueKey :=
  row.uniqueKeys.find? fun key =>
    (d.rowsOf row.kind).any fun other => other.id != row.id && other.uniqueKeys.contains key

/-- Every reference of a row, and every member of its relations, exists. -/
def linksHold (d : Database) (row : Row) : Bool :=
  (row.links.all fun link => d.has link.target) &&
    (row.members.all fun relation => relation.2.all fun id => d.has ⟨.user, id⟩)

/-- The first reason against storing a row. -/
def violation? (d : Database) (row : Row) : Option Violation :=
  if d.isFull row then some .full
  else
    match outOfRange? row with
    | some column => some (.outOfRange column)
    | none =>
      match d.sharedKey? row with
      | some key => some (.sharedKey row.kind.table key.columns)
      | none => if d.linksHold row then none else some .dangling

/-- Store a row unless a constraint forbids it. -/
def store (d : Database) (row : Row) : Except Violation Database :=
  match d.violation? row with
  | some violation => .error violation
  | none => .ok (d.put row)

/-- Store a row at a place that no other row may have. -/
def storeFresh (d : Database) (row : Row) : Except Violation Database :=
  match outOfRange? row with
  | some column => .error (.outOfRange column)
  | none =>
    if d.has row.ref then .error (.sharedKey row.kind.table ["id"]) else d.store row

/-- A row holds on to a place: one of its references names it, or one of its members
stands there. -/
def holdsOnTo (place : Ref) (row : Row) : Bool :=
  (row.links.any fun link => link.target = place) ||
    (row.members.any fun relation => relation.2.any fun id => (⟨.user, id⟩ : Ref) = place)

/-- Store a row in place of one that stands elsewhere.  A row that has members, or that
others hold on to, cannot leave its place. -/
def move (d : Database) (old row : Row) : Except Violation Database :=
  match (d.without old.ref).storeFresh row with
  | .error violation => .error violation
  | .ok moved =>
    if (d.allRows.any (holdsOnTo old.ref)) || old.members.any fun relation => !relation.2.isEmpty then
      .error .dangling
    else .ok moved

/-- Every reference and every member of a relation exists. -/
def Referential (d : Database) : Prop :=
  ∀ row ∈ d.allRows, d.linksHold row = true

/-! ## Deletion -/

/-- The places that go with the place `root`: itself, and every row whose
reference to a place that goes is of the cascading sort. -/
inductive Doomed (d : Database) (root : Ref) : Ref → Prop where
  | root : Doomed d root root
  | follow {row : Row} {target : Ref} :
      row ∈ d.allRows → Doomed d root target → ⟨target, .cascade⟩ ∈ row.links →
      Doomed d root row.ref

/-- One round of following references into the places that go. -/
def spread (d : Database) (doomed : List Ref) : List Ref :=
  doomed ++
    ((d.allRows.filter fun row =>
      !doomed.contains row.ref &&
        row.links.any fun link => link.onDelete = .cascade && doomed.contains link.target).map
      Row.ref)

/-- The places that go with the given ones.  References form chains of at most
four rows (user, card, comment, mark), so that four rounds reach all. -/
def closure (d : Database) (roots : List Ref) : List Ref :=
  d.spread (d.spread (d.spread (d.spread roots)))

/-- A user is among the places that go. -/
def userGone (doomed : List Ref) (id : Nat) : Bool :=
  doomed.contains ⟨.user, id⟩

/-- What deletion makes of a row: nothing if it goes, else the row without what
it held of the places that go. -/
def survivor (doomed : List Ref) (row : Row) : Option Row :=
  if doomed.contains row.ref then none
  else some ((doomed.foldl (fun kept target => kept.forget target) row).dropMembers (userGone doomed))

theorem survivor_ref (doomed : List Ref) (row kept : Row) (stays : survivor doomed row = some kept) :
    kept.ref = row.ref := by
  unfold survivor at stays
  split at stays
  · cases stays
  · cases stays
    rw [Row.ref_dropMembers, Row.ref_foldl_forget]

/-- Delete the rows at the given places with everything that depends on them. -/
def delete (d : Database) (roots : List Ref) : Database :=
  d.mapRows (survivor (d.closure roots)) (survivor_ref _)

/-- How many members of each relation a deletion removes: all of a row that
goes, else the users that go. -/
def lostMembers (doomed : List Ref) (row : Row) : List (String × Nat) :=
  row.members.map fun (relation, users) =>
    (row.kind.label ++ "_" ++ relation,
      if doomed.contains row.ref then users.length else users.countP (userGone doomed))

def addCount (name : String) (n : Nat) : List (String × Nat) → List (String × Nat)
  | [] => [(name, n)]
  | (other, m) :: rest =>
    if other = name then (name, m + n) :: rest else (other, m) :: addCount name n rest

/-- The rows and members that a deletion removes, counted by name; names with
nothing removed are left out. -/
def deletionCounts (d : Database) (roots : List Ref) : List (String × Nat) :=
  let doomed := d.closure roots
  let rows := (d.allRows.filter fun row => doomed.contains row.ref).map fun row =>
    (row.kind.label, 1)
  let members := d.allRows.flatMap (lostMembers doomed)
  ((rows ++ members).foldl (fun counts (name, n) => addCount name n counts) []).filter
    fun entry => entry.2 ≠ 0

end Database

end GridCommons.Site
