import GridCommons.Site.Store

/-!
Contract: blocking of content and of users.

Owns:
- blocking a card by saving it whole, which moves the instant of its last change;
- changing one flag of a row, which moves nothing else;
- the safe forms of these, which tell whether they worked and never end with a
  fault;
- the ban of a user together with all that the user owns.
-/

namespace GridCommons.Site

namespace Action

/-- True if an action ends without a fault.  What it wrote stays written. -/
def succeeds (action : Action Unit) : Action Bool := do
  match ← attempt action with
  | .ok _ => return true
  | .error _ => return false

/-- Change the row at a place; a fault if the draft has no number or no row has
it.  The change must leave keys and references alone. -/
def touch (kind : Kind) (id : Option Nat) (change : Row → Row) : Action Unit := do
  match id with
  | none => fail .unsavedUpdate
  | some id =>
    writable
    match (← get).database.find? ⟨kind, id⟩ with
    | none => fail .untouched
    | some row => mutate fun d => d.put (change row)

end Action

namespace Row

def setBlocked (flag : Bool) : Row → Row
  | .card row => .card { row with isBlocked := flag }
  | .comment row => .comment { row with isBlocked := flag }
  | .cell row => .cell { row with isBlocked := flag }
  | row => row

def setActive (flag : Bool) : Row → Row
  | .user row => .user { row with isActive := flag }
  | row => row

end Row

namespace Moderation

/-- Block a card and save it whole. -/
def blockCard (card : Card) : Action Unit := do
  Action.save (.card { card with isBlocked := true, updatedAt := ← Action.now })

/-- Block a comment, and tell whether it worked. -/
def safeBlockComment (id : Option Nat) : Action Bool :=
  Action.succeeds (Action.touch .comment id (Row.setBlocked true))

/-- Unblock a card, and tell whether it worked. -/
def safeUnblockCard (id : Option Nat) : Action Bool :=
  Action.succeeds (Action.touch .card id (Row.setBlocked false))

def blockCardsOf (user : Nat) (d : Database) : Database :=
  { d with
    cards := d.cards.map
      (fun card => if card.userId = user then { card with isBlocked := true } else card)
      (by intro card; split <;> rfl) }

def blockCommentsOf (user : Nat) (d : Database) : Database :=
  { d with
    comments := d.comments.map
      (fun comment => if comment.authorId = user then { comment with isBlocked := true } else comment)
      (by intro comment; split <;> rfl) }

/-- Ban a user: the user is no longer active, and all the user's cards and
comments are blocked. -/
def ban (id : Option Nat) : Action Unit := do
  Action.touch .user id (Row.setActive false)
  match id with
  | none => return ()
  | some user =>
    Action.mutate (blockCardsOf user)
    Action.mutate (blockCommentsOf user)

/-- Ban a user, and tell whether it worked. -/
def safeBan (id : Option Nat) : Action Bool :=
  Action.succeeds (ban id)

end Moderation

end GridCommons.Site
