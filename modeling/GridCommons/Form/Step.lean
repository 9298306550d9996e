import GridCommons.Form.Content
import GridCommons.Form.Profile
import GridCommons.Form.Registration
import GridCommons.Site.World

/-!
Contract: filling in a form without a page around it.

Owns:
- the forms that can be filled in;
- the report on one: complaints, cleaned values, and the row it was saved as.
-/

namespace GridCommons.Form

open Site
open GridCommons.Json (Value)

inductive Sheet where
  | registration
  | profile
  | comment
  | card
  | report
deriving DecidableEq, Repr

/-- What came of a filled-in form.  The number of the saved row is there if the
form was valid and was to be saved. -/
structure Report where
  complaints : Complaints
  cleaned : List (String × Value)
  saved : Option (Option Nat) := none
deriving Repr

def Upload.toJson (u : Upload) : Value :=
  .object [("name", .text u.name), ("content_type", .text u.contentType),
    ("size", .nat u.data.length), ("data", (Datum.bytes u.data).toJson)]

def cleanedJson (r : Record) : List (String × Value) :=
  r.map fun (name, value) => (name, value.toJson)

/-- Bring the name of a submitted file into its kept form. -/
def Upload.kept (u : Upload) : Action Upload := do
  let name := keptFileName u.name
  if unusableNames.contains name then Action.fail (.unusableFileName name)
  return { u with name }

/-- Save a row of cleaned values if that is asked for; else there is no number
yet. -/
def saveFresh (kind : Kind) (values : Record) : Option Bool → Action (Option (Option Nat))
  | none => return none
  | some false => return some none
  | some true => do return some (some (← (Draft.make kind (← Action.now) values).insert))

/-- Fill in a form.  A profile belongs to the named user. -/
def fill (sheet : Sheet) (submitted : Submission) (owner : Option String) (save : Option Bool) :
    Action Report := do
  let files ← submitted.files.mapM fun (name, upload) => do return (name, ← upload.kept)
  let s := { submitted with files }
  match sheet with
  | .registration =>
    let form ← Registration.check s
    let saved ←
      match form.valid?, save with
      | some v, some true => do pure (some (some (← Registration.save v)))
      | some _, some false => pure (some none)
      | _, _ => pure none
    return ⟨form.complaints, cleanedJson form.cleaned, saved⟩
  | .profile =>
    let user? ←
      match owner with
      | some name => do
        let users ← Action.rows Database.users
        let user ← Action.require (.noRow .user) (users.find? fun user => user.username == name)
        pure (some user)
      | none => pure none
    let form ← Profile.check (user?.map User.id) s
    let saved ←
      match form.valid?, user?, save with
      | some v, some user, some true => do
        Profile.save v user
        pure (some (some user.id))
      | some _, some user, some false => pure (some (some user.id))
      | some _, none, save => saveFresh .user form.cleaned save
      | _, _, _ => pure none
    return ⟨form.complaints, cleanedJson form.cleaned, saved⟩
  | .comment =>
    let form := CommentForm.check s
    let saved ← if form.complaints.isEmpty then saveFresh .comment form.cleaned save else pure none
    return ⟨form.complaints, cleanedJson form.cleaned, saved⟩
  | .card =>
    let form := CardForm.check s
    let saved ← if form.complaints.isEmpty then saveFresh .card form.cleaned save else pure none
    let file := form.file.value?.map fun upload =>
      ("file", (upload.map Upload.toJson).getD .null)
    return ⟨form.complaints, cleanedJson form.cleaned ++ file.toList, saved⟩
  | .report =>
    let form := ReportForm.check s
    let saved ←
      if form.complaints.isEmpty then saveFresh .cardReport form.cleaned save else pure none
    return ⟨form.complaints, cleanedJson form.cleaned, saved⟩

end GridCommons.Form
