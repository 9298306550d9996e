import GridCommons.Account.Email
import GridCommons.Account.Username
import GridCommons.Site.Draft

/-!
Contract: new users.

Owns: the stored form of what a new user is made of, and the storing of
passwords under a fresh salt.
-/

namespace GridCommons.Account

open Site

/-- A password to store; none makes one that no secret matches. -/
def storedPassword (secret : Option String) : Action Password := do
  let salt ← Action.drawSalt
  match secret with
  | some s => return .salted s salt
  | none => return .unusable salt

structure NewUser where
  username : String
  email : String := ""
  password : Option String := none
  isSuperuser : Bool := false
  others : Record := []
deriving Repr

/-- Create a user, and return the number.  The name and the address are brought
into their stored forms, and nothing else is checked. -/
def create (new : NewUser) : Action Nat := do
  if new.username.isEmpty then Action.fail .noUsername
  let password ← storedPassword new.password
  let granted : Record :=
    if new.isSuperuser then [("is_staff", .bool true), ("is_superuser", .bool true)] else []
  let values : Record :=
    [("username", .text (Username.stored new.username)), ("email", .text (Email.stored new.email))] ++
      granted ++ new.others
  (Draft.make .user (← Action.now) values).insertAs (some password)

end GridCommons.Account
