import GridCommons.Fault

/-!
Contract: the state of the site and the actions on it.

Owns:
- the database with the mode it is in, the clock, the open sessions and the
  session that each browser holds;
- what the site finds where it runs, and no action changes;
- actions: functions of the state that end with a value or a fault, and keep what
  was written before a fault;
- the guards in front of every read and every write of the database.

Does not own: what any particular action does.
-/

namespace GridCommons.Site

/-- What the database lets pass: everything, only reads, or nothing. -/
inductive Mode where
  | ok
  | readOnly
  | offline
deriving DecidableEq, Repr

inductive NoticeLevel where
  | info
  | success
  | warning
  | error
deriving DecidableEq, Repr

structure Notice where
  level : NoticeLevel
  text : String
  tags : String := ""
deriving DecidableEq, Repr

/-- An open session: the user it serves and the password that user had when it
was opened. -/
structure Session where
  key : Nat
  userId : Nat
  stamp : Password
  expires : Instant
deriving DecidableEq, Repr

instance : Numbered Session := ⟨Session.key⟩

/-- What the site finds where it runs: how many containers of a JSON document may stand
one inside another, the passwords that are too common, and the ASCII form of a domain
written with other characters. -/
structure Platform where
  nesting : Nat := 1000
  commonPasswords : List String := []
  asciiDomain : List Char → Option (List Char) := fun _ => none

structure World where
  database : Database := {}
  mode : Mode := .ok
  now : Instant
  sessions : Table Session := {}
  nextSalt : Nat := 1
  browsers : List (String × Nat) := []
  notices : List Notice := []
  platform : Platform := {}

/-- An action on the site: it changes the state and ends with a value or a
fault. -/
abbrev Action := ExceptT Fault (StateM World)

namespace Action

def run {α : Type} (action : Action α) (w : World) : Except Fault α × World :=
  StateT.run (ExceptT.run action) w

def fail {α : Type} (fault : Fault) : Action α :=
  throw fault

def require {α : Type} (fault : Fault) : Option α → Action α
  | some a => pure a
  | none => fail fault

def ofExcept {α : Type} : Except Fault α → Action α
  | .ok a => pure a
  | .error fault => fail fault

/-- The outcome of an action, with a fault as a value. -/
def attempt {α : Type} (action : Action α) : Action (Except Fault α) :=
  ExceptT.mk do
    let outcome ← ExceptT.run action
    return .ok outcome

def now : Action Instant := do
  return (← get).now

/-- What the site finds where it runs. -/
def platform : Action Platform := do
  return (← get).platform

def notify (level : NoticeLevel) (text : String) (tags : String) : Action Unit :=
  modify fun w => { w with notices := w.notices ++ [⟨level, text, tags⟩] }

/-- Pass if the database can be read. -/
def reachable : Action Unit := do
  if (← get).mode = .offline then fail .offline

def writable : Action Unit := do
  match (← get).mode with
  | .ok => return ()
  | .readOnly => fail .readOnly
  | .offline => fail .offline

def query : Action Database := do
  reachable
  return (← get).database

/-- Change the database by a step that cannot break a constraint. -/
def mutate (change : Database → Database) : Action Unit := do
  writable
  modify fun w => { w with database := change w.database }

/-- Change the database by a step that a constraint may forbid. -/
def commit (change : Database → Except Database.Violation Database) : Action Unit := do
  writable
  match change (← get).database with
  | .ok database => modify fun w => { w with database }
  | .error violation => fail (.violation violation)

/-- Run an action that writes all or nothing: if it ends with a fault, the database
is as before. -/
def whole {α : Type} (action : Action α) : Action α := do
  let before := (← get).database
  match ← attempt action with
  | .ok a => return a
  | .error fault =>
    modify fun w => { w with database := before }
    fail fault

def drawSalt : Action Nat := do
  let salt := (← get).nextSalt
  modify fun w => { w with nextSalt := salt + 1 }
  return salt

end Action

end GridCommons.Site
