import GridCommons.Site.Record
import GridCommons.Site.Store

/-!
Contract: rows in the making.

Owns:
- a draft: the values of a row that may not be stored yet, and may not fit their
  columns;
- what each column takes of a handed-in value;
- inserting and saving a draft, and changing columns of stored rows.

Does not own: the checks of a draft, which nothing here asks for.
-/

namespace GridCommons.Site

structure Draft where
  kind : Kind
  values : Record
deriving Repr

/-- A whole number from a value that is handed in for a column.  The first fault
is for a text that is no number, the second for a value of another type. -/
def wholeNumber (column : String) : Datum → Except Fault Int
  | .int n => .ok n
  | .bool b => .ok (if b then 1 else 0)
  | .double d =>
    match d with
    | .nan => .error (.notNumber column "nan")
    | .infinite _ => .error (.notFinite "infinity")
    | finite =>
      match finite.wholePart? with
      | some n => .ok n
      | none => .error (.notNumber column finite.toText)
  | .text s =>
    match Numeral.read s.toList with
    | .ok n => .ok n
    | .error _ => .error (.notNumber column (Text.quoted s))
  | d => .error (.notNumeric column d.shown)

/-- The name of a column in complaints about numbers: a reference is to the
number of a row. -/
def Column.numberName (c : Column) : String :=
  match c.shape with
  | .link _ => "id"
  | _ => c.name

def dateShape : String := "YYYY-MM-DD"

def instantShape : String := "YYYY-MM-DD HH:MM[:ss[.uuuuuu]][TZ]"

/-- The complaint about a text that names no day or instant. -/
def misreadMessage (text shape : String) : Misread → String
  | .shape =>
    let what := if shape = dateShape then "an invalid date format" else "an invalid format"
    "“" ++ text ++ "” value has " ++ what ++ ". It must be in " ++ shape ++ " format."
  | .day =>
    "“" ++ text ++ "” value has the correct format (" ++ dateShape ++
      ") but it is an invalid date."
  | .time =>
    "“" ++ text ++ "” value has the correct format (" ++ shape ++
      ") but it is an invalid date/time."

def Column.taken (c : Column) (value : Datum) : Except Fault Datum :=
  match c.shape, value with
  | _, .null => .ok .null
  | .serial, v | .integer _, v | .link _, v => do
    return .int (← wholeNumber c.numberName v)
  | .text _, v | .username, v | .email, v => .ok (.text v.toText)
  | .flag, .bool b => .ok (.bool b)
  | .flag, v =>
    if v.toText = "1" || v.toText = "True" || v.toText = "t" then .ok (.bool true)
    else if v.toText = "0" || v.toText = "False" || v.toText = "f" then .ok (.bool false)
    else .error (.invalid ["“" ++ v.toText ++ "” value must be either True or False."])
  | .instant _, .instant t => .ok (.instant t)
  | .instant _, v => refused v instantShape (.instant <$> Instant.read v.toText.toList)
  | .date, .date d => .ok (.date d)
  | .date, v => refused v dateShape (.date <$> Date.read v.toText.toList)
  | .bytes, .bytes data => .ok (.bytes data)
  | .bytes, _ => .error .wrongType
where
  /-- The complaint about a value that is no day or instant. -/
  refused (value : Datum) (shape : String) (result : Except Misread Datum) : Except Fault Datum :=
    result.mapError fun cause => .invalid [misreadMessage value.toText shape cause]

/-- A value that the database cannot hold. -/
def Datum.outOfRange : Datum → Bool
  | .int n => !inRange n
  | _ => false

namespace Draft

/-- A draft of a kind with handed-in values; other columns take their
defaults. -/
def make (kind : Kind) (now : Instant) (values : Record) : Draft :=
  { kind
    values := kind.columns.map fun column =>
      (column.name,
        match values.lookup column.name with
        | some value => value
        | none => if column.clocked then .instant now else column.default) }

def ofRow (row : Row) : Draft :=
  { kind := row.kind, values := row.values }

def column (d : Draft) (name : String) : Datum :=
  d.values.get name

def set (d : Draft) (name : String) (value : Datum) : Draft :=
  { d with values := d.values.set name value }

/-- The number of the row, if the draft has one. -/
def id? (d : Draft) : Option Nat :=
  (d.column "id").asId?

def stamp (now : Instant) (inserting : Bool) (d : Draft) : Draft :=
  { d with
    values := d.values.map fun (name, value) =>
      match (d.kind.column? name).map Column.shape with
      | some (.instant .onSave) => (name, .instant now)
      | some (.instant .onInsert) => (name, if inserting then .instant now else value)
      | _ => (name, value) }

/-- The values that the columns store, in their order. -/
def taken (d : Draft) : Except Fault Record :=
  d.kind.columns.mapM fun column => do
    let value ← column.taken (d.column column.name)
    -- a picture's column never stays without a text
    if column.name = "avatar" && value.isNull then return (column.name, .text "")
    return (column.name, value)

/-- The first column, in the order of the table, whose value is missing. -/
def emptyColumn? (kind : Kind) (r : Record) : Option String :=
  kind.tableOrder.find? fun name =>
    name != "id" && ((r.lookup name).map Datum.isNull).getD false &&
      ((kind.column? name).map fun column => !column.nullable).getD false

/-- The stored form of the password that a draft of a user names as it is. -/
def plainPassword (r : Record) : Password :=
  .plain ((r.get "password").asText?.getD "")

def storeValues (kind : Kind) (password : Password) (r : Record) (old : Option Row) :
    Action Unit := do
  Action.writable
  if r.any fun entry => entry.2.outOfRange then Action.fail .tooLarge
  match emptyColumn? kind r with
  | some column => Action.fail (.violation (.empty kind.table column))
  | none =>
    match Row.ofValues? kind password r with
    | some row =>
      Action.commit fun d =>
        match old with
        | none => d.storeFresh row
        | some previous =>
          if row.ref = previous.ref then d.store (row.takeMembers previous)
          else d.move previous (row.takeMembers previous)
    | none => Action.fail (.violation .dangling)

/-- Insert a draft, and return the number of the new row.  A draft with a number
is inserted under it. -/
def insertAs (password : Option Password) (d : Draft) : Action Nat := do
  let stamped := d.stamp (← Action.now) true
  let r ← Action.ofExcept stamped.taken
  let id := (r.get "id").asId?.getD ((← get).database.next d.kind)
  -- a number out of range that no value gives is one that the table has run out of
  if !inRange id && !r.any fun entry => entry.2.outOfRange then
    Action.writable
    Action.fail (.violation .full)
  storeValues d.kind (password.getD (plainPassword r)) (r.set "id" (.int id)) none
  return id

/-- Insert a draft, and return the number of the new row. -/
def insert (d : Draft) : Action Nat :=
  d.insertAs none

/-- Save a draft: over the row with its number if there is one, else as a new
row.  Returns the number of the row. -/
def save (d : Draft) : Action Nat := do
  match d.id? with
  | none => d.insert
  | some id =>
    let stamped := d.stamp (← Action.now) false
    let r ← Action.ofExcept stamped.taken
    Action.writable
    match (← get).database.find? ⟨d.kind, id⟩ with
    | none => d.insert
    | some old =>
      let password := match old with | .user row => row.password | _ => .plain ""
      storeValues d.kind password r (some old)
      return id

/-- Change columns of the row with a number, without a stamp.  Returns how many
rows that was. -/
def update (kind : Kind) (id : Nat) (changes : Record) : Action Nat := do
  let taken ← changes.mapM fun (name, value) => do
    match kind.column? name with
    | some column => return (name, ← Action.ofExcept (column.taken value))
    | none => Action.fail .wrongType
  Action.writable
  if taken.any fun entry => entry.2.outOfRange then Action.fail .tooLarge
  match (← get).database.find? ⟨kind, id⟩ with
  | none => return 0
  | some old =>
    let password := match old with | .user row => row.password | _ => .plain ""
    storeValues kind password (taken.foldl (fun r (name, value) => r.set name value) old.values)
      (some old)
    return 1

end Draft

end GridCommons.Site
