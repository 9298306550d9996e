import GridCommons.Site.World

/-!
Contract: reading and writing rows as actions.

Owns:
- look-up by number, which no number beyond the range of the database reaches;
- insertion under the next number, replacement, and deletion with all that
  depends on a row;
- membership of users in the relations that cards and comments keep.
-/

namespace GridCommons.Site

namespace Action

variable {α : Type} [Numbered α]

/-- The row of a table with a number.  A number out of range is no row's, and the
database is not asked for it. -/
def lookup (table : Database → Table α) (id : Nat) : Action (Option α) := do
  if inRange id then return (table (← query)).find? id else return none

/-- The row of a table with a number, or a fault. -/
def load (table : Database → Table α) (fault : Fault) (id : Nat) : Action α := do
  require fault (← lookup table id)

def rows (table : Database → Table α) : Action (List α) := do
  return (table (← query)).rows

/-- The row at a place, or a fault. -/
def loadRow (ref : Ref) : Action Row := do
  let found ← if inRange ref.id then pure ((← query).find? ref) else pure none
  require (.noRow ref.kind) found

/-- Insert a row under the next number of its table, and return the number. -/
def insert (kind : Kind) (build : Nat → Row) : Action Nat := do
  let id := (← get).database.next kind
  commit fun d => d.store (build id)
  return id

/-- Store a row over the one with its number. -/
def save (row : Row) : Action Unit :=
  commit fun d => d.store row

/-- Insert a row under the next number of its table, store it once more under that
number, and return the number. -/
def insertTwice (kind : Kind) (build : Nat → Row) : Action Nat := do
  let id ← insert kind build
  save (build id)
  return id

/-- Delete the row at a place with all that depends on it. -/
def remove (ref : Ref) : Action Unit :=
  mutate fun d => d.delete [ref]

end Action

/-! ## Members of relations -/

inductive Relation where
  | cardLikes
  | cardFavorites
  | commentLikes
  | commentReports
deriving DecidableEq, Repr

namespace Relation

def kind : Relation → Kind
  | .cardLikes | .cardFavorites => .card
  | .commentLikes | .commentReports => .comment

def ofName? : Kind → String → Option Relation
  | .card, "likes" => some .cardLikes
  | .card, "favorites" => some .cardFavorites
  | .comment, "likes" => some .commentLikes
  | .comment, "reports" => some .commentReports
  | _, _ => none

def members : Relation → Row → Members
  | .cardLikes, .card row => row.likes
  | .cardFavorites, .card row => row.favorites
  | .commentLikes, .comment row => row.likes
  | .commentReports, .comment row => row.reports
  | _, _ => {}

def withMembers (members : Members) : Relation → Row → Row
  | .cardLikes, .card row => .card { row with likes := members }
  | .cardFavorites, .card row => .card { row with favorites := members }
  | .commentLikes, .comment row => .comment { row with likes := members }
  | .commentReports, .comment row => .comment { row with reports := members }
  | _, row => row

end Relation

namespace Action

/-- The members of a relation of the row with a number; none if there is no such
row. -/
def members (relation : Relation) (id : Nat) : Action Members := do
  match (← query).find? ⟨relation.kind, id⟩ with
  | some row => return relation.members row
  | none => return {}

def changeMembers (relation : Relation) (id : Nat) (change : Members → Members) :
    Action Unit :=
  commit fun d =>
    match d.find? ⟨relation.kind, id⟩ with
    | some row => d.store (relation.withMembers (change (relation.members row)) row)
    | none => .ok d

/-- Enter users into a relation.  Users that are members already are not written
again. -/
def join (relation : Relation) (id : Nat) (users : List Nat) : Action Unit := do
  let present ← members relation id
  let fresh := users.filter fun user => !present.contains user
  if !fresh.isEmpty then
    changeMembers relation id fun present => fresh.foldl (fun all user => all.join user) present

/-- Take a user out of a relation. -/
def leave (relation : Relation) (id user : Nat) : Action Unit :=
  changeMembers relation id (Members.leave user)

end Action

end GridCommons.Site
