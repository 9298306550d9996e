import GridCommons.Account.Creation
import GridCommons.Command.Dump
import GridCommons.Site.DraftCheck
import GridCommons.Text.Likeness

/-!
Contract: the commands with which the site is managed.

Owns:
- the commands, and how one is read from its arguments;
- what a command does, which lines it writes, and with which code it exits.

A command is refused with a complaint; other faults of the site stay faults.
-/

namespace GridCommons

open Site
open GridCommons.Json (Value)

inductive Command where
  | buildDocs
  | check
  | checkMigrations
  | showMigrations
  | findChanges
  | createSuperuser (username email : Option String)
  | dump (labels : List String) (keys : List String)
  | idle
  | unknown (name : String)
deriving Repr

namespace Command

/-- The name of the place where all kinds of rows are kept. -/
def application : String := "main_app"

structure Outcome where
  exit : Nat := 0
  lines : List String := []
  complaints : List String := []
  data : Option (List Value) := none

namespace Outcome

def refused (message : String) : Outcome :=
  { exit := 1, complaints := ["CommandError: " ++ message] }

end Outcome

/-! ## Reading a command -/

def names : List String :=
  ["changepassword", "check", "clearsessions", "collectstatic", "compilemessages",
    "createcachetable", "createsuperuser", "dbshell", "diffsettings", "dumpdata", "findstatic",
    "flush", "inspectdb", "loaddata", "makemessages", "makemigrations", "migrate",
    "optimizemigration", "remove_stale_contenttypes", "runserver", "sendtestemail", "shell",
    "showmigrations", "sqlflush", "sqlmigrate", "sqlsequencereset", "squashmigrations", "startapp",
    "startproject", "test", "testserver"]

/-- The last value of an option, which follows it or stands behind an equals
sign. -/
def option? (name : String) : List String → Option String
  | [] => none
  | [arg] => attached? arg
  | arg :: value :: rest =>
    (option? name (value :: rest)).or (if arg = name then some value else attached? arg)
where
  /-- The value behind an equals sign. -/
  attached? (arg : String) : Option String :=
    let front := name ++ "="
    if front.toList.isPrefixOf arg.toList then some (String.ofList (arg.toList.drop front.length))
    else none

/-- The arguments that belong to no option of a command. -/
def loose (options : List String) : List String → List String
  | [] => []
  | arg :: rest =>
    if options.contains arg then loose options (rest.drop 1)
    else if arg.toList.head? = some '-' then loose options rest
    else arg :: loose options rest
termination_by args => args.length

def keysOf (listed : String) : List String :=
  if listed.isEmpty then []
  else (Text.pieces ',' listed.toList).map fun key => String.ofList (Text.strip key)

/-- The word that makes every command build the documents. -/
def docsWord : String := "build_docs"

def ofArgs (args : List String) : Command :=
  if args.contains docsWord then .buildDocs
  else
    match args with
    | [] => .idle
    | "check" :: _ => .check
    | "migrate" :: rest => if rest.contains "--check" then .checkMigrations else .idle
    | "showmigrations" :: _ => .showMigrations
    | "makemigrations" :: _ => .findChanges
    | "createsuperuser" :: rest => .createSuperuser (option? "--username" rest) (option? "--email" rest)
    | "dumpdata" :: rest =>
      .dump (loose ["--pks", "--format", "--indent", "--database", "-o", "--output", "-e", "--exclude"]
        rest) (keysOf ((option? "--pks" rest).getD ""))
    | name :: _ => if names.contains name then .idle else .unknown name

/-! ## Running a command -/

/-- The migrations of the database, all of which are applied. -/
def migrations : List String :=
  ["0001_initial", "0002_alter_comment_options_alter_field_options_and_more",
    "0003_remove_reportcomment_comment_and_more"]

def migrationLines : List String :=
  application :: migrations.map fun name => " [X] " ++ name

/-- What is wrong with the name of a new superuser. -/
def nameProblem? (username : String) : Action (Option String) := do
  if username.isEmpty then return some "Username cannot be blank."
  let users ← Action.rows Database.users
  if users.any fun user => user.username == username then
    return some "Error: That username is already taken."
  match Draft.textComplaints (← Action.platform) .username username with
  | [] => return none
  | complaints => return some ("; ".intercalate complaints)

/-- What is wrong with the address of a new superuser. -/
def emailProblem? (platform : Platform) (email : String) : Option String :=
  if email.isEmpty then none
  else
    match Draft.textComplaints platform .email email with
    | [] => none
    | complaints => some ("; ".intercalate complaints)

def lacks (option : String) : Outcome :=
  .refused ("You must use --" ++ option ++ " with --noinput.")

/-- Create a superuser whose password no secret matches. -/
def makeSuperuser (username email : Option String) : Action Outcome := do
  Action.reachable
  match username with
  | none => return lacks "username"
  | some username =>
    match ← nameProblem? username, email with
    | some problem, _ => return .refused problem
    | none, none => return lacks "email"
    | none, some email =>
      match emailProblem? (← Action.platform) email with
      | some problem => return .refused problem
      | none =>
        let _ ← Account.create { username, email, isSuperuser := true }
        return { lines := ["Superuser created successfully."] }

/-- The kinds of rows that a label names: all of the application, or the one behind
its point. -/
def kindsOf (label : String) : Except String (List Kind) :=
  match (Text.pieces '.' label.toList).map String.ofList with
  | [app, name] =>
    if app ≠ application then .error ("No installed app with label '" ++ app ++ "'.")
    else
      let slug := String.ofList (name.toList.map Char.toLower)
      match Kind.all.find? fun kind => kind.slug == slug with
      | some kind => .ok [kind]
      | none => .error ("Unknown model: " ++ app ++ "." ++ name)
  | _ =>
    if label = application then .ok Kind.all
    else .error ("No installed app with label '" ++ label ++ "'.")

/-- A dump is narrowed by keys to a single kind. -/
def narrowable (labels keys : List String) : Bool :=
  keys.isEmpty || (labels.length == 1 && labels.all fun label => label.toList.contains '.')

/-- Dump rows.  A fault leaves the dump open. -/
def dumpRows (labels keys : List String) : Action Outcome := do
  if !narrowable labels keys then
    return .refused "You can only use --pks option with one model"
  match labels.mapM kindsOf with
  | .error message => return .refused message
  | .ok kinds =>
    match ← Action.attempt (kinds.flatten.mapM (dumpKind keys)) with
    | .ok rows => return { data := some rows.flatten }
    | .error fault =>
      return { Outcome.refused ("Unable to serialize database: " ++ fault.message) with
               lines := ["["] }

/-- Refuse a command that there is not, and name one that is like it. -/
def refuseUnknown (name : String) : Outcome :=
  let hint := match Text.Likeness.closest? name names with
    | some other => ". Did you mean " ++ other ++ "?"
    | none => ""
  { exit := 1, complaints := ["Unknown command: " ++ Text.quoted name ++ hint] }

def run : Command → Action Outcome
  | .buildDocs | .check | .idle => return {}
  | .checkMigrations => do
    Action.reachable
    return {}
  | .showMigrations => do
    Action.reachable
    return { lines := migrationLines }
  | .findChanges => return { lines := ["No changes detected"] }
  | .createSuperuser username email => makeSuperuser username email
  | .dump labels keys => dumpRows labels keys
  | .unknown name => return refuseUnknown name

end Command

end GridCommons
