import GridCommons.Account.Email
import GridCommons.Account.Username
import GridCommons.Form.DateInput
import GridCommons.Site.Draft

/-!
Contract: the form by which a user changes the own profile.

Owns: the rules of its inputs, and the user's row after a valid form.
-/

namespace GridCommons.Form

open Site Account

structure Profile where
  firstName : Cleaned String
  lastName : Cleaned String
  email : Cleaned String
  location : Cleaned String
  birthDate : Cleaned (Option Date)
  bio : Cleaned String

namespace Profile

def nameRule : TextRule := { isRequired := false, limit := some 150 }

def emailRule (platform : Platform) : TextRule :=
  { isRequired := false, isAddress := some (Email.isValid platform.asciiDomain), limit := some 254 }

def locationRule : TextRule := { isRequired := false, limit := some 100 }

def bioRule : TextRule := { isRequired := false, limit := some 500 }

def earliestYear : Nat := 1900

/-- Complaint about an address of another user. -/
def emailTaken : Complaint := .plain "Этот email уже используется"

/-- Complaint about a day of birth too long ago. -/
def tooOld : Complaint := .plain "Некорректная дата рождения"

/-- No other user has the address. -/
def freeEmail (owner : Option Nat) : Cleaned String → Action (Cleaned String)
  | .ok email => do
    let users ← Action.rows Database.users
    if users.any fun user => user.email == email && some user.id != owner then
      return .error [emailTaken]
    else return .ok email
  | .error found => return .error found

/-- The day of birth is not too long ago. -/
def recent : Cleaned (Option Date) → Cleaned (Option Date)
  | .ok (some date) => if date.year < earliestYear then .error [tooOld] else .ok (some date)
  | other => other

def check (owner : Option Nat) (s : Submission) : Action Profile := do
  let platform ← Action.platform
  return {
    firstName := nameRule.clean (s.text? "first_name")
    lastName := nameRule.clean (s.text? "last_name")
    email := ← freeEmail owner ((emailRule platform).clean (s.text? "email"))
    location := locationRule.clean (s.text? "location")
    birthDate := recent (DateInput.clean (s.text? "birth_date"))
    bio := bioRule.clean (s.text? "bio") }

def complaints (p : Profile) : Complaints :=
  Complaints.gather
    [("first_name", p.firstName.complaints), ("last_name", p.lastName.complaints),
      ("email", p.email.complaints), ("location", p.location.complaints),
      ("birth_date", p.birthDate.complaints), ("bio", p.bio.complaints)]

structure Valid where
  firstName : String
  lastName : String
  email : String
  location : String
  birthDate : Option Date
  bio : String
deriving Repr

def valid? (p : Profile) : Option Valid := do
  return {
    firstName := ← p.firstName.value?
    lastName := ← p.lastName.value?
    email := ← p.email.value?
    location := ← p.location.value?
    birthDate := ← p.birthDate.value?
    bio := ← p.bio.value? }

def cleaned (p : Profile) : Record :=
  let texts := [("first_name", p.firstName), ("last_name", p.lastName), ("email", p.email),
    ("location", p.location), ("bio", p.bio)].filterMap fun (name, value) =>
      value.value?.map fun s => (name, Datum.text s)
  let date := p.birthDate.value?.map fun d => ("birth_date", Datum.ofOption .date d)
  texts ++ date.toList

/-- The row of a user after a valid profile.  Name and address are brought into
their stored forms. -/
def apply (v : Valid) (user : User) : User :=
  { user with
    username := Username.stored user.username
    firstName := v.firstName
    lastName := v.lastName
    email := Email.stored v.email
    location := v.location
    birthDate := v.birthDate
    bio := v.bio }

/-- Store a valid profile of a user. -/
def save (v : Valid) (user : User) : Action Unit :=
  Action.save (.user (apply v user))

end Profile

end GridCommons.Form
