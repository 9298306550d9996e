import GridCommons.Json.Value
import GridCommons.Number.Numeral
import GridCommons.Site.Database

/-!
Contract: the causes for which a step of the site ends without an answer.

Owns:
- one constructor for each cause;
- the wording of each cause.

Does not own: which page or status a cause leads to.
-/

namespace GridCommons

open Site

inductive RouteArguments where
  | absent
  | positional (values : List Json.Value)
  | named (values : List (String × Json.Value))
deriving Repr

/-- Arguments in parentheses; a single one keeps a comma behind it. -/
def RouteArguments.shownList (values : List Json.Value) : String :=
  match values with
  | [value] => "(" ++ value.shown ++ ",)"
  | values => "(" ++ ", ".intercalate (values.map Json.Value.shown) ++ ")"

def RouteArguments.shown : RouteArguments → String
  | .absent => "no arguments"
  | .positional values => "arguments '" ++ shownList values ++ "'"
  | .named values =>
    "keyword arguments '" ++
      (Json.Value.object values).shown ++ "'"

/-- Why a step ends without an answer. -/
inductive Fault where
  | invalid (messages : List String)
  | noRow (kind : Kind)
  | noRelated (kind : Kind) (relation : String)
  | noMatch (kind : Kind)
  | noPage (reason : String)
  | forbidden
  | notNumber (column shown : String)
  | notNumeric (column shown : String)
  | numeral (cause : Numeral.Fault)
  | notConvertible (typeName : String)
  | notFinite (name : String)
  | json (message : String)
  | bodyTooLong
  | noMember (typeName member : String)
  | noColumn (model : String)
  | noUsername
  | noSuperuser (flag : String)
  | redirectLoop
  | unsavedRelation (shown : String)
  | unsavedDeletion (kind : Kind)
  | unsavedUpdate
  | untouched
  | wrongType
  | unusableFileName (name : String)
  | unknownContent
  | noRoute (name : String) (arguments : RouteArguments)
  | unknownRoute (name : String)
  | unknownNamespace (name : String) (inside : List String)
  | noTemplate (names : List String)
  | unknownName (name : String)
  | violation (cause : Database.Violation)
  | badHeader (value : String)
  | tooLarge
  | patternTooLong
  | readOnly
  | offline
deriving Repr

namespace Fault

def message : Fault → String
  | .invalid messages => "; ".intercalate messages
  | .noRow kind => kind.label ++ " matching query does not exist."
  | .noRelated kind relation => kind.label ++ " has no " ++ relation ++ "."
  | .noMatch kind => "No " ++ kind.label ++ " matches the given query."
  | .noPage reason => reason
  | .forbidden => ""
  | .notNumber column shown | .notNumeric column shown =>
    "Field '" ++ column ++ "' expected a number but got " ++ shown ++ "."
  | .numeral cause => cause.message
  | .notConvertible typeName =>
    "int() argument must be a string, a bytes-like object or a real number, not '" ++ typeName ++ "'"
  | .notFinite name => "cannot convert float " ++ name ++ " to integer"
  | .json message => message
  | .bodyTooLong => "Request body exceeded settings.DATA_UPLOAD_MAX_MEMORY_SIZE."
  | .noMember typeName member => "'" ++ typeName ++ "' object has no attribute '" ++ member ++ "'"
  | .noColumn model => model ++ " has no field named ''"
  | .noUsername => "The given username must be set"
  | .noSuperuser flag => "Superuser must have " ++ flag ++ "=True."
  | .redirectLoop =>
    "Redirection loop for authenticated user detected. Check that your LOGIN_REDIRECT_URL doesn't " ++
      "point to a login page."
  | .unsavedRelation shown =>
    "\"" ++ shown ++ "\" needs to have a value for field \"id\" before this many-to-many " ++
      "relationship can be used."
  | .unsavedDeletion kind =>
    kind.label ++ " object can't be deleted because its id attribute is set to None."
  | .unsavedUpdate => "Cannot force an update in save() with no primary key."
  | .untouched => "Save with update_fields did not affect any rows."
  | .wrongType => ""
  | .unusableFileName name => "Could not derive file name from '" ++ name ++ "'"
  | .unknownContent => "Неизвестный тип контента"
  | .noRoute name arguments =>
    "Reverse for '" ++ name ++ "' with " ++ arguments.shown ++ " not found."
  | .unknownRoute name =>
    "Reverse for '" ++ name ++ "' not found. '" ++ name ++
      "' is not a valid view function or pattern name."
  | .unknownNamespace name inside =>
    "'" ++ name ++ "' is not a registered namespace" ++
      (if inside.isEmpty then "" else " inside '" ++ ":".intercalate inside ++ "'")
  | .noTemplate names => ", ".intercalate names
  | .unknownName name => "name '" ++ name ++ "' is not defined"
  | .violation cause => cause.message
  | .badHeader value => "Header values can't contain newlines (got " ++ Text.quoted value ++ ")"
  | .tooLarge => "Python int too large to convert to SQLite INTEGER"
  | .patternTooLong => "LIKE or GLOB pattern too complex"
  | .readOnly => "attempt to write a readonly database"
  | .offline => "database is offline"

end Fault

end GridCommons
