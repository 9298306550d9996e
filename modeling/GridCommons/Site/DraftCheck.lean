import GridCommons.Account.Email
import GridCommons.Account.Username
import GridCommons.Site.Draft

/-!
Contract: the complete check of a draft.

Owns:
- the complaints of each column about its value;
- the complaints about keys that another row has already;
- the order of all complaints.

Does not own: checks of forms, which look at values on their own.
-/

namespace GridCommons.Site

namespace Draft

def lengthMessage (limit length : Nat) : String :=
  s!"Ensure this value has at most {limit} characters (it has {length})."

def textComplaints (platform : Platform) (shape : Shape) (s : String) : List String :=
  let tooLong (limit : Nat) := if s.length > limit then [lengthMessage limit s.length] else []
  match shape with
  | .text (some limit) => tooLong limit
  | .username =>
    (if Account.Username.isValid s then [] else [Account.Username.invalidMessage]) ++
      tooLong Account.Username.lengthLimit
  | .email =>
    (if Account.Email.isValid platform.asciiDomain s then [] else ["Enter a valid email address."]) ++ tooLong 254
  | _ => []

def numberComplaints (shape : Shape) (n : Int) : List String :=
  match shape with
  | .integer least =>
    if n < least then [s!"Ensure this value is greater than or equal to {least}."]
    else if n > largestNumber then [s!"Ensure this value is less than or equal to {largestNumber}."]
    else []
  | _ => []

def readFor (c : Column) (value : Datum) : Except (List String) Datum :=
  match c.shape, c.taken value with
  | .flag, .ok .null => .error ["“None” value must be either True or False."]
  | _, .ok taken => .ok taken
  | .flag, .error fault | .date, .error fault | .instant _, .error fault => .error [fault.message]
  | .integer _, .error _ | .link _, .error _ | .serial, .error _ =>
    .error ["“" ++ value.toText ++ "” value must be an integer."]
  | _, .error _ => .ok value

/-- Complaints of a column about a value.  A column that visitors cannot edit
makes none about a missing value or a wrong choice. -/
def columnComplaints (platform : Platform) (database : Database) (c : Column) (value : Datum) :
    List String :=
  if c.blank && value.isBlank then []
  else
    match readFor c value with
    | .error complaints => complaints
    | .ok v =>
      let refused : List String :=
        if !c.editable || c.shape = .serial then []
        else if !c.choices.isEmpty && !v.isBlank then
          if (c.choices.map Prod.fst).contains v.toText then []
          else ["Value " ++ v.shown ++ " is not a valid choice."]
        else if v.isNull && !c.nullable then ["This field cannot be null."]
        else if !c.blank && v.isBlank then ["This field cannot be blank."]
        else
          match c.shape, v with
          | .link target, .int n =>
            if (Datum.int n).asId?.any fun id => database.has ⟨target, id⟩ then []
            else [target.phrase ++ " instance with id " ++ v.shown ++ " does not exist."]
          | _, _ => []
      if !refused.isEmpty then refused
      else
        match v with
        | .text s => if s.isEmpty then [] else textComplaints platform c.shape s
        | .int n => numberComplaints c.shape n
        | _ => []

/-- The first letter in upper case. -/
def capitalized (s : String) : String :=
  match s.toList with
  | [] => ""
  | c :: rest => String.ofList (Text.upper [c] ++ rest)

/-- Names in a row with the last one set off by a word. -/
def listed : List String → String
  | [] => ""
  | [one] => one
  | names => ", ".intercalate names.dropLast ++ " and " ++ names.getLast?.getD ""

/-- The values of the columns with the given relation names; none if one is
missing. -/
def keyValues (kind : Kind) (r : Record) (relations : List String) : Option (List Datum) :=
  relations.mapM fun relation => do
    let column ← kind.columns.find? fun column => column.relation == relation
    let value := r.get column.name
    if value.isNull then none else some value

def sameDatum : Datum → Datum → Bool
  | .int m, .int n => m = n
  | .text s, .text t => s = t
  | _, _ => false

/-- A stored row other than the draft's has the same values under a key. -/
def keyTaken (database : Database) (kind : Kind) (r : Record) (relations : List String) : Bool :=
  match keyValues kind r relations with
  | none => false
  | some wanted =>
    (database.rowsOf kind).any fun row =>
      match keyValues kind row.values relations with
      | some held => (wanted.zip held).all fun pair => sameDatum pair.1 pair.2
      | none => false

def uniqueColumns : Kind → List String
  | .user => ["id", "username"]
  | .card => ["id", "file"]
  | _ => ["id"]

def takenMessage (kind : Kind) (relations : List String) : String :=
  if kind = .user ∧ relations = ["username"] then Account.Username.takenMessage
  else
    let labels := relations.map fun relation =>
      capitalized (((kind.columns.find? fun column => column.relation == relation).map
        Column.label).getD relation)
    capitalized kind.phrase ++ " with this " ++ listed labels ++ " already exists."

/-- All complaints about a draft, in order: by column, then about keys of several
columns, then about unique columns. -/
def complaints (platform : Platform) (database : Database) (d : Draft) : List String :=
  let byColumn := d.kind.columns.map fun column =>
    (column.relation, columnComplaints platform database column (d.column column.name))
  let faulty := (byColumn.filter fun entry => !entry.2.isEmpty).map Prod.fst
  let settled : Record :=
    if d.kind = .user then
      (d.values.set "username" (.text (Account.Username.stored (d.column "username").toText)))
    else d.values
  let keys := d.kind.jointKeys ++ (uniqueColumns d.kind).map fun name => [name]
  let free := keys.filter fun key => !key.any faulty.contains
  byColumn.flatMap Prod.snd ++
    (free.filter (keyTaken database d.kind settled)).map (takenMessage d.kind)

def check (d : Draft) : Action Unit := do
  let found := d.complaints (← Action.platform) (← Action.query)
  if !found.isEmpty then Action.fail (.invalid found)

end Draft

end GridCommons.Site
