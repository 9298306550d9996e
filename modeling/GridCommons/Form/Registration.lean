import GridCommons.Account.Creation
import GridCommons.Account.PasswordRule

/-!
Contract: the form by which a visitor becomes a user.

Owns:
- the rules of its four inputs, among them that name and address are not taken;
- the user that a valid form makes, under the stored form of the name.

A name is compared with the stored ones as it was typed, and once more in its
stored form.
-/

namespace GridCommons.Form

open Site Account

structure Registration where
  username : Cleaned String
  email : Cleaned String
  password1 : Cleaned String
  password2 : Cleaned String

namespace Registration

def usernameRule : TextRule := { limit := some Username.lengthLimit }

def emailRule (platform : Platform) : TextRule :=
  { isAddress := some (Email.isValid platform.asciiDomain), limit := some 254 }

def passwordRule : TextRule := { strips := false }

/-- Complaint about a name that is taken, as typed. -/
def usernameTaken : Complaint := .plain "Пользователь с таким именем уже существует."

def emailTaken : Complaint := .plain "Пользователь с таким email уже существует."

/-- Complaint about a name whose stored form is taken. -/
def storedNameTaken : Complaint := ⟨"unique", Username.takenMessage⟩

def invalidName : Complaint := ⟨"invalid", Username.invalidMessage⟩

/-- Complaint about two passwords that differ. -/
def mismatch : Complaint := ⟨"password_mismatch", "The two password fields didn’t match."⟩

def anyUser (test : User → Bool) : Action Bool := do
  return (← Action.rows Database.users).any test

def freeName : Cleaned String → Action (Cleaned String)
  | .ok name => do
    if ← anyUser fun user => user.username == name then return .error [usernameTaken]
    else return .ok name
  | .error found => return .error found

def freeEmail : Cleaned String → Action (Cleaned String)
  | .ok email => do
    if ← anyUser fun user => user.email == email then return .error [emailTaken]
    else return .ok email
  | .error found => return .error found

/-- The characters of the name are allowed, and its stored form is not taken. -/
def storableName : Cleaned String → Action (Cleaned String)
  | .ok name =>
    if !Username.isValid name then return .error [invalidName]
    else do
      if ← anyUser fun user => user.username == Username.stored name then
        return .error [storedNameTaken]
      else return .ok name
  | .error found => return .error found

def repeated : Cleaned String → Cleaned String → Cleaned String
  | .ok first, .ok second => if first = second then .ok second else .error [mismatch]
  | _, second => second

/-- The second password passes the rules for passwords. -/
def allowed (platform : Platform) (known : List PasswordRule.Known) :
    Cleaned String → Cleaned String
  | .ok password =>
    match PasswordRule.complaints platform.commonPasswords password known with
    | [] => .ok password
    | found => .error found
  | .error found => .error found

def check (s : Submission) : Action Registration := do
  let platform ← Action.platform
  let typedName ← freeName (usernameRule.clean (s.text? "username"))
  let email ← freeEmail ((emailRule platform).clean (s.text? "email"))
  let password1 := passwordRule.clean (s.text? "password1")
  let password2 := repeated password1 (passwordRule.clean (s.text? "password2"))
  let username ← storableName typedName
  let known : List PasswordRule.Known :=
    [⟨"username", Username.stored (typedName.value?.getD "")⟩,
      ⟨"email address", email.value?.getD ""⟩]
  return { username, email, password1, password2 := allowed platform known password2 }

def complaints (r : Registration) : Complaints :=
  Complaints.gather
    [("username", r.username.complaints), ("email", r.email.complaints),
      ("password1", r.password1.complaints), ("password2", r.password2.complaints)]

structure Valid where
  username : String
  email : String
  password : String
deriving Repr

def valid? (r : Registration) : Option Valid := do
  let username ← r.username.value?
  let email ← r.email.value?
  let password ← r.password1.value?
  let _ ← r.password2.value?
  return { username, email, password }

def cleaned (r : Registration) : Record :=
  [("username", r.username), ("email", r.email), ("password1", r.password1),
    ("password2", r.password2)].filterMap fun (name, value) =>
      value.value?.map fun s => (name, Datum.text s)

/-- Store the user that a valid registration makes, and return the number.  The
address is stored as it was cleaned. -/
def save (v : Valid) : Action Nat := do
  let password ← storedPassword (some v.password)
  let values : Record :=
    [("username", .text (Username.stored v.username)), ("email", .text v.email)]
  (Draft.make .user (← Action.now) values).insertAs (some password)

end Registration

end GridCommons.Form
