import GridCommons.Site.Store

/-!
Contract: who a request is served as.

Owns:
- visitors: browsers that hold a session, and users that are handed in;
- opening and closing of sessions;
- the user that a visitor is served as: the session is open and not over, its
  user exists and is active, and the user's password is the one the session was
  opened with.

A session is read only when an action asks for the visitor's user.
-/

namespace GridCommons.Account

open Site

inductive Visitor where
  | browser (name : String)
  | direct (user : Option User)
deriving Repr

def sessionLength : Int := 14 * 86400

def heldBy (name : String) (w : World) : Option Nat :=
  w.browsers.lookup name

def forget (name : String) : Action Unit :=
  modify fun w => { w with browsers := w.browsers.filter fun entry => entry.1 != name }

def hand (name : String) (key : Nat) : Action Unit :=
  modify fun w =>
    { w with browsers := (name, key) :: w.browsers.filter fun entry => entry.1 != name }

def endSession (key : Nat) : Action Unit := do
  Action.writable
  modify fun w => { w with sessions := w.sessions.erase key }

/-- The open session with a key that is not over. -/
def liveSession? (key : Nat) (w : World) : Option Session :=
  (w.sessions.find? key).filter fun session => decide (w.now.seconds < session.expires.seconds)

def sessionUser? (session : Session) (w : World) : Option User :=
  (w.database.users.find? session.userId).filter fun user => user.isActive

/-- The user that a visitor is served as.  A browser loses a session that is over,
and one whose user has another password by now is ended. -/
def currentUser : Visitor → Action (Option User)
  | .direct user => return user
  | .browser name => do
    match heldBy name (← get) with
    | none => return none
    | some key =>
      Action.reachable
      let w ← get
      match liveSession? key w with
      | none =>
        forget name
        return none
      | some session =>
        match sessionUser? session w with
        | none => return none
        | some user =>
          if user.password = session.stamp then return some user
          else
            endSession key
            forget name
            return none

/-- Open a session of a user for a browser, in place of the one it holds. -/
def openSession (name : String) (user : User) : Action Unit := do
  if let some old := heldBy name (← get) then endSession old
  let key := (← get).sessions.next
  modify fun w =>
    { w with
      sessions := w.sessions.put
        { key, userId := user.id, stamp := user.password, expires := w.now.later sessionLength } }
  hand name key

/-- Open a session of a user for a visitor; one that is handed in needs none. -/
def giveSession (visitor : Visitor) (user : User) : Action Unit :=
  match visitor with
  | .direct _ => return ()
  | .browser name => openSession name user

def noteLogin (id : Nat) (now : Instant) (d : Database) : Database :=
  { d with
    users := d.users.map (fun row => if row.id = id then { row with lastLogin := some now } else row)
      (by intro row; split <;> rfl) }

/-- Sign a user in: a browser gets a session, and it is noted when the user came. -/
def signIn (visitor : Visitor) (user : User) : Action Unit := do
  Action.writable
  giveSession visitor user
  let now ← Action.now
  Action.mutate (noteLogin user.id now)

def signOut (visitor : Visitor) : Action Unit := do
  let _ ← currentUser visitor
  match visitor with
  | .direct _ => return ()
  | .browser name =>
    match heldBy name (← get) with
    | none => return ()
    | some key =>
      endSession key
      forget name

end GridCommons.Account
