import GridCommons.Proofs.Outcome

/-!
Contract: the forms for accounts, checked against the users there are.

Owns:
- each form as a function of what is submitted and of the users, and that checking it
  ends with that while the database can be read;
- which names and addresses are free if a form is valid.

A valid profile is free in the form in which its address was typed.  A valid registration
is free in the form in which its address is stored, and its name in both.
-/

namespace GridCommons.Form

open Site Account

/-- A cleaned text, unless it is taken. -/
def unlessTaken (taken : String → Bool) (complaint : Complaint) : Cleaned String → Cleaned String
  | .ok text => if taken text then .error [complaint] else .ok text
  | .error found => .error found

/-- A text passes if it is clean and not taken. -/
theorem value?_unlessTaken {taken : String → Bool} {complaint : Complaint} {cleaned : Cleaned String}
    {text : String} :
    (unlessTaken taken complaint cleaned).value? = some text ↔
      cleaned.value? = some text ∧ taken text = false := by
  cases cleaned with
  | error found => simp [unlessTaken, Cleaned.value?]
  | ok typed =>
      dsimp only [unlessTaken]
      split
      · rename_i isTaken
        simp only [Cleaned.value?, reduceCtorEq, Option.some.injEq, false_iff, not_and,
          Bool.not_eq_false]
        rintro rfl
        exact isTaken
      · rename_i free
        simp only [Cleaned.value?, Option.some.injEq, iff_self_and]
        rintro rfl
        exact Bool.eq_false_iff.mpr free

/-! ## Profiles -/

namespace Profile

variable {platform : Platform} {owner : Option Nat} {s : Submission} {users : List User} {w : World}

/-- The profile of the user with a number, checked against the users. -/
def checked (platform : Platform) (owner : Option Nat) (s : Submission) (users : List User) :
    Profile where
  firstName := nameRule.clean (s.text? "first_name")
  lastName := nameRule.clean (s.text? "last_name")
  email := unlessTaken (fun email => users.any fun user => user.email == email && some user.id != owner)
    emailTaken ((emailRule platform).clean (s.text? "email"))
  location := locationRule.clean (s.text? "location")
  birthDate := recent (DateInput.clean (s.text? "birth_date"))
  bio := bioRule.clean (s.text? "bio")

theorem run_freeEmail (online : w.mode ≠ .offline) (email : Cleaned String) :
    (freeEmail owner email).run w =
      (.ok (unlessTaken (fun email => w.database.users.rows.any fun user =>
        user.email == email && some user.id != owner) emailTaken email), w) := by
  cases email with
  | error found => rfl
  | ok email =>
      simp only [freeEmail, unlessTaken, Action.run_bind, Action.run_rows online]
      split <;> rfl

/-- Where the database can be read, checking a profile changes nothing and never fails. -/
theorem run_check (online : w.mode ≠ .offline) :
    (check owner s).run w = (.ok (checked w.platform owner s w.database.users.rows), w) := by
  simp only [check, checked, Action.run_bind, Action.run_platform, run_freeEmail online,
    Action.run_pure]

/-- The address of a valid profile, as it was typed, is that of no other user. -/
theorem email_ne_of_valid? {v : Valid} (valid : (checked platform owner s users).valid? = some v) :
    ∀ other ∈ users, some other.id ≠ owner → other.email ≠ v.email := by
  simp only [valid?, checked, Option.bind_eq_bind, Option.bind_eq_some_iff] at valid
  obtain ⟨_, _, _, _, email, typed, _, _, _, _, _, _, ⟨⟩⟩ := valid
  have free := (value?_unlessTaken.mp typed).2
  intro other member differs same
  exact List.any_eq_false.mp free other member (by simp [same, differs])

end Profile

/-! ## Registrations -/

namespace Registration

variable {platform : Platform} {s : Submission} {users : List User} {w : World}

/-- The characters of the name are allowed, and its stored form is not taken. -/
def storable (users : List User) : Cleaned String → Cleaned String
  | .ok name =>
    if !Username.isValid name then .error [invalidName]
    else if users.any fun user => user.username == Username.stored name then .error [storedNameTaken]
    else .ok name
  | .error found => .error found

/-- The registration, checked against the users. -/
def checked (platform : Platform) (s : Submission) (users : List User) : Registration :=
  let typedName := unlessTaken (fun name => users.any fun user => user.username == name) usernameTaken
    (usernameRule.clean (s.text? "username"))
  let email := unlessTaken (fun email => users.any fun user => user.email == email) emailTaken
    ((emailRule platform).clean (s.text? "email"))
  let password1 := passwordRule.clean (s.text? "password1")
  let password2 := repeated password1 (passwordRule.clean (s.text? "password2"))
  let known : List PasswordRule.Known :=
    [⟨"username", Username.stored (typedName.value?.getD "")⟩,
      ⟨"email address", email.value?.getD ""⟩]
  { username := storable users typedName, email, password1, password2 := allowed platform known password2 }

theorem run_anyUser (online : w.mode ≠ .offline) (test : User → Bool) :
    (anyUser test).run w = (.ok (w.database.users.rows.any test), w) := by
  rw [anyUser, Action.run_bind, Action.run_rows online]
  rfl

theorem run_freeName (online : w.mode ≠ .offline) (name : Cleaned String) :
    (freeName name).run w =
      (.ok (unlessTaken (fun name => w.database.users.rows.any fun user => user.username == name)
        usernameTaken name), w) := by
  cases name with
  | error found => rfl
  | ok name =>
      simp only [freeName, unlessTaken, Action.run_bind, run_anyUser online]
      split <;> rfl

theorem run_freeEmail (online : w.mode ≠ .offline) (email : Cleaned String) :
    (freeEmail email).run w =
      (.ok (unlessTaken (fun email => w.database.users.rows.any fun user => user.email == email)
        emailTaken email), w) := by
  cases email with
  | error found => rfl
  | ok email =>
      simp only [freeEmail, unlessTaken, Action.run_bind, run_anyUser online]
      split <;> rfl

theorem run_storableName (online : w.mode ≠ .offline) (name : Cleaned String) :
    (storableName name).run w = (.ok (storable w.database.users.rows name), w) := by
  cases name with
  | error found => rfl
  | ok name =>
      dsimp only [storableName, storable]
      split
      · rfl
      · simp only [Action.run_bind, run_anyUser online]
        split <;> rfl

/-- Where the database can be read, checking a registration changes nothing and never fails. -/
theorem run_check (online : w.mode ≠ .offline) :
    (check s).run w = (.ok (checked w.platform s w.database.users.rows), w) := by
  simp only [check, checked, Action.run_bind, Action.run_platform, run_freeName online, run_freeEmail online,
    run_storableName online, Action.run_pure]

/-- The stored form of the name of a valid registration is that of nobody. -/
theorem username_ne_of_valid? {v : Valid} (valid : (checked platform s users).valid? = some v) :
    ∀ user ∈ users, user.username ≠ Username.stored v.username := by
  simp only [valid?, checked, Option.bind_eq_bind, Option.bind_eq_some_iff] at valid
  obtain ⟨name, typed, _, _, _, _, _, _, ⟨⟩⟩ := valid
  intro user member same
  unfold storable at typed
  split at typed
  · split at typed
    · cases typed
    · split at typed
      · cases typed
      · rename_i free
        cases typed
        exact free (List.any_eq_true.mpr ⟨user, member, by simpa using same⟩)
  · cases typed

end Registration

end GridCommons.Form
