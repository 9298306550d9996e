import GridCommons.Proofs.Content
import GridCommons.Proofs.Emails
import GridCommons.Proofs.Faults
import GridCommons.Proofs.Stripping
import GridCommons.Proofs.Submitting
import GridCommons.Proofs.Uploads

/-!
Contract: requests to change the own profile.

Owns:
- what a cleaned text keeps of its rule, and where the last at sign divides an address;
- what every valid profile says;
- that a request to change a profile writes the row of its user, as the form has it, and leads to
  the profile, or leads nowhere and writes nothing.

A profile is stored with the whole row of its user, whose name comes into its stored form.
-/

namespace GridCommons.Account.Email

/-- One address is another with its domain in lower case. -/
def LowersDomain (typed kept : String) : Prop :=
  ∃ owner domain, '@' ∉ domain ∧ typed.toList = owner ++ '@' :: domain ∧
    kept.toList = owner ++ '@' :: Text.lower domain

/-- An address is divided at its last at sign. -/
theorem splitLast_eq_some {s owner domain : List Char} (split : splitLast s = some (owner, domain)) :
    s = owner ++ '@' :: domain ∧ '@' ∉ domain := by
  simp only [splitLast, Option.ite_none_right_eq_some, Option.some.injEq, Prod.mk.injEq] at split
  obtain ⟨present, rfl, rfl⟩ := split
  -- Without its last piece, the text ends in an at sign.
  let front := s.rdropWhile fun c => c ≠ '@'
  let last := s.rtakeWhile fun c => c ≠ '@'
  have parts : front ++ last = s := List.rdropWhile_append_rtakeWhile
  have filled : front ≠ [] := by simpa [front] using present
  have sign : front.getLast filled = '@' :=
    not_not.mp (mt decide_eq_true (List.rdropWhile_last_not (fun c => c ≠ '@') s filled))
  have start : s.take (s.length - last.length - 1) = front.dropLast := by
    rw [← parts, List.length_append, Nat.add_sub_cancel, List.take_append_of_le_length (by omega),
      List.dropLast_eq_take]
  refine ⟨?_, ?_⟩
  · change s = s.take (s.length - last.length - 1) ++ '@' :: last
    rw [start, ← sign, ← List.singleton_append, ← List.append_assoc, List.dropLast_append_getLast,
      parts]
  · intro inside
    simpa using List.mem_rtakeWhile_imp inside

/-- The stored address is the typed one with its domain in lower case. -/
theorem lowersDomain_stored {typed : String} (trimmed : Text.trim typed = typed)
    {asciiDomain : List Char → Option (List Char)} (valid : isValid asciiDomain typed = true) :
    LowersDomain typed (stored typed) := by
  have same : Text.strip typed.toList = typed.toList := by
    rw [Text.trim, ← String.toList_inj, String.toList_ofList] at trimmed
    exact trimmed
  unfold isValid at valid
  rw [LowersDomain, stored, same]
  cases split : splitLast typed.toList with
  | none => simp [split] at valid
  | some pair =>
      obtain ⟨whole, absent⟩ := splitLast_eq_some split
      exact ⟨pair.1, pair.2, absent, whole, String.toList_ofList⟩

end GridCommons.Account.Email

namespace GridCommons.Form

open Site Account

namespace TextRule

variable {rule : TextRule} {submitted : Option String} {s : String}

/-- A cleaned text is the submitted one without the blanks around it, and nothing is wrong with it
unless it is empty. -/
theorem of_clean (strips : rule.strips = true) (cleaned : rule.clean submitted = .ok s) :
    s = Text.trim (submitted.getD "") ∧ (s ≠ "" → rule.complaints s = []) := by
  unfold clean at cleaned
  rw [strips] at cleaned
  simp only [if_true] at cleaned
  split at cleaned
  · rename_i empty
    split at cleaned
    · cases cleaned
    · cases cleaned
      exact ⟨(String.isEmpty_iff.mp empty).symm, fun given => absurd rfl given⟩
  · split at cleaned
    · rename_i unopposed
      cases cleaned
      exact ⟨rfl, fun _ => unopposed⟩
    · cases cleaned

theorem trim_of_clean (strips : rule.strips = true) (cleaned : rule.clean submitted = .ok s) :
    Text.trim s = s := by
  obtain ⟨rfl, -⟩ := of_clean strips cleaned
  rw [← String.toList_inj, Text.toList_trim, Text.toList_trim, Text.stripped_stripped]

theorem length_le_of_clean {most : Nat} (strips : rule.strips = true) (limit : rule.limit = some most)
    (cleaned : rule.clean submitted = .ok s) : s.length ≤ most := by
  by_cases given : s = ""
  · simp [given]
  · have unopposed := (of_clean strips cleaned).2 given
    by_contra long
    simp [complaints, limit, Nat.lt_of_not_le long] at unopposed

theorem isAddress_of_clean {test : String → Bool} (strips : rule.strips = true)
    (isAddress : rule.isAddress = some test) (cleaned : rule.clean submitted = .ok s)
    (given : s ≠ "") : test s = true := by
  have unopposed := (of_clean strips cleaned).2 given
  by_contra invalid
  simp [complaints, isAddress, invalid] at unopposed

end TextRule

namespace Profile

variable {platform : Platform} {owner : Option Nat} {s : Submission} {users : List User} {v : Valid}

/-- What every valid profile says. -/
structure Valid.Sound (v : Valid) : Prop where
  birthDate : ∀ date ∈ v.birthDate, 1900 ≤ date.year
  bio : v.bio.length ≤ 500
  location : v.location.length ≤ 100
  email : v.email ≠ "" → Email.LowersDomain v.email (Email.stored v.email)

theorem year_of_recent {given : Cleaned (Option Date)} {date : Date}
    (cleaned : recent given = .ok (some date)) : 1900 ≤ date.year := by
  unfold recent at cleaned
  split at cleaned
  · split at cleaned
    · cases cleaned
    · rename_i late
      cases cleaned
      exact Nat.le_of_not_lt late
  · rename_i other
    exact absurd cleaned (other date)

/-- What passes the checks of a profile is sound. -/
theorem sound_of_valid? (valid : (checked platform owner s users).valid? = some v) : v.Sound := by
  simp only [valid?, checked, Option.bind_eq_bind, Option.bind_eq_some_iff,
    Cleaned.value?_eq_some] at valid
  obtain ⟨_, _, _, _, email, free, location, place, birthDate, born, bio, told, ⟨⟩⟩ := valid
  have typed : (emailRule platform).clean (s.text? "email") = .ok email :=
    Cleaned.value?_eq_some.mp (value?_unlessTaken.mp (Cleaned.value?_eq_some.mpr free)).1
  refine ⟨?_, TextRule.length_le_of_clean rfl rfl told, TextRule.length_le_of_clean rfl rfl place, ?_⟩
  · rintro date ⟨⟩
    exact year_of_recent born
  · exact fun given => Email.lowersDomain_stored (TextRule.trim_of_clean rfl typed)
      (TextRule.isAddress_of_clean rfl rfl typed given)

/-- A profile is checked by the texts that are submitted. -/
theorem checked_congr {other : Submission} (same : ∀ name, other.text? name = s.text? name) :
    checked platform owner other users = checked platform owner s users := by
  simp only [checked, same]

end Profile

end GridCommons.Form

namespace GridCommons.Web

open Site Form Account

variable {v : Profile.Valid} {user : User} {s : Submission} {d : Database} {r : Request} {w : World}

/-- Facts of a valid profile are complete if it tells a name and an address. -/
theorem problem?_eq_none_iff (sound : v.Sound) :
    ProfileFacts.problem? ⟨some v.firstName, some v.email, none⟩ = none ↔
      v.firstName ≠ "" ∧ v.email ≠ "" := by
  constructor
  · intro complete
    refine ⟨?_, ProfileFacts.email_ne_empty complete⟩
    intro empty
    simp [ProfileFacts.problem?, empty] at complete
  · rintro ⟨named, given⟩
    obtain ⟨owner, domain, -, typed, -⟩ := sound.email given
    have sign : '@' ∈ v.email.toList := by simp [typed]
    simp [ProfileFacts.problem?, named, sign]

/-- A profile is accepted: the form is valid and tells a name and an address, and no other user has
the stored form of the user's name. -/
structure Accepts (platform : Platform) (user : User) (s : Submission) (d : Database)
    (v : Profile.Valid) : Prop where
  valid : (Profile.checked platform (some user.id) s d.users.rows).valid? = some v
  firstName : v.firstName ≠ ""
  email : v.email ≠ ""
  free : ∀ other ∈ d.users.rows, other.id ≠ user.id →
    other.username ≠ Username.stored user.username

/-- A changed profile is refused only if the stored form of the user's name is another user's. -/
theorem violation?_apply (known : d.users.find? user.id = some user) :
    d.violation? (.user (Profile.apply v user)) = none ↔
      ∀ other ∈ d.users.rows, other.id ≠ user.id →
        other.username ≠ Username.stored user.username := by
  have present : d.has (Row.user (Profile.apply v user)).ref = true :=
    Database.Slot.user.has_of_find? known
  exact Database.violation?_user_iff (Database.isFull_of_has present)

/-- A profile that is accepted is stored. -/
theorem run_updateProfile (known : w.database.users.find? user.id = some user) (writes : w.mode = .ok)
    (accepts : Accepts w.platform user r.submitted w.database v) :
    (updateProfile r user).run w = (.ok (.redirect "/profile/"),
      { w with database := w.database.put (.user (Profile.apply v user)) }) := by
  have complete := (problem?_eq_none_iff (Profile.sound_of_valid? accepts.valid)).mpr
    ⟨accepts.firstName, accepts.email⟩
  rw [updateProfile, Action.run_bind, Profile.run_check (by simp [writes])]
  dsimp only
  rw [accepts.valid]
  dsimp only
  rw [complete]
  dsimp only
  rw [Action.run_bind, Profile.save,
    Action.run_save writes ((violation?_apply known).mpr accepts.free)]
  rfl

/-- A profile that is not accepted changes nothing and leads nowhere. -/
theorem updateProfile_refuses (known : w.database.users.find? user.id = some user)
    (writes : w.mode = .ok) (refused : ∀ v, ¬Accepts w.platform user r.submitted w.database v) :
    ((updateProfile r user).run w).2 = w ∧
      Stays ((updateProfile r user).run w).1 ((updateProfile r user).run w).2.database := by
  have replies : ∀ {reply : Reply} {d : Database}, reply.location = none → Stays (.ok reply) d := by
    rintro reply d remains _ ⟨⟩
    exact remains
  rw [updateProfile, Action.run_bind, Profile.run_check (by simp [writes])]
  dsimp only
  rcases valid : (Profile.checked w.platform (some user.id) r.submitted
    w.database.users.rows).valid? with _ | v
  · exact ⟨rfl, replies rfl⟩
  dsimp only
  rcases complete : ProfileFacts.problem? ⟨some v.firstName, some v.email, none⟩ with _ | problem
  · obtain ⟨named, given⟩ := (problem?_eq_none_iff (Profile.sound_of_valid? valid)).mp complete
    have forbidden : w.database.violation? (.user (Profile.apply v user)) ≠ none := fun allowed =>
      refused v ⟨valid, named, given, (violation?_apply known).mp allowed⟩
    dsimp only
    rw [Action.run_bind, Profile.save, Action.save, Action.run_commit, writes]
    cases stored : w.database.store (.user (Profile.apply v user)) with
    | ok d' => exact absurd (Database.store_eq_ok_iff.mp stored).1 forbidden
    | error violation =>
        refine ⟨rfl, ?_⟩
        rintro reply ⟨⟩
  · exact ⟨rfl, replies rfl⟩

/-- A form that is not submitted is shown, or the method is refused. -/
theorem form_otherwise {page submit : Action Reply} {method : String}
    (other : method ∉ ["POST", "PUT"]) :
    (Methods.form page submit).dispatch method = page ∨
      ∃ reply, (Methods.form page submit).dispatch method = pure reply ∧ reply.location = none := by
  unfold Methods.form Methods.dispatch
  split
  · exact .inl rfl
  · exact .inl rfl
  · simp at other
  · simp at other
  · exact .inr ⟨_, rfl, rfl⟩
  · exact .inr ⟨_, rfl, rfl⟩

/-- The address for changes of the profile changes it as an accepted form says, or does nothing. -/
theorem run_profileUpdate (client : r.visitor.isClient = true)
    (served : servedAs r.visitor w = some user) (writes : w.mode = .ok) :
    (∃ v, (r.method ∈ ["POST", "PUT"] ∧ Accepts w.platform user r.submitted w.database v) ∧
      (serveAddress r .profileUpdate).run w = (.ok (.redirect "/profile/"),
        { w with database := w.database.put (.user (Profile.apply v user)) })) ∨
    ((∀ v, ¬(r.method ∈ ["POST", "PUT"] ∧ Accepts w.platform user r.submitted w.database v)) ∧
      ((serveAddress r .profileUpdate).run w).2 = w ∧
      Stays ((serveAddress r .profileUpdate).run w).1
        ((serveAddress r .profileUpdate).run w).2.database) := by
  have known := (find?_of_servedAs client served).1
  rw [serveAddress, run_signedIn served]
  by_cases submits : r.method ∈ ["POST", "PUT"]
  · rw [form_submits submits]
    by_cases accepted : ∃ v, Accepts w.platform user r.submitted w.database v
    · obtain ⟨v, accepts⟩ := accepted
      exact .inl ⟨v, ⟨submits, accepts⟩, run_updateProfile known writes accepts⟩
    · have refused := not_exists.mp accepted
      exact .inr ⟨fun v both => refused v both.2, updateProfile_refuses known writes refused⟩
  · refine .inr ⟨fun v both => submits both.1, ?_⟩
    rcases form_otherwise submits with shows | ⟨reply, replies, remains⟩
    · rw [shows]
      exact ⟨rfl, fun _ ends => by cases ends; rfl⟩
    · rw [replies]
      exact ⟨rfl, fun _ ends => by cases ends; exact remains⟩

end GridCommons.Web

namespace GridCommons

open Site Form Web

/-- A request of a signed-in user to change the profile leads to the profile or nowhere.  If it
leads there, the form was valid and told a name and an address, and the row of the user says what
the form says, with the domain of the address in lower case and the user's name in its stored form;
no other column and no other row changed.  If it leads nowhere, nothing changed.  Sessions stay in
both cases.  A submitted form that is valid and tells a name and an address leads there unless
another user has the stored form of the user's name. -/
theorem profile_update_own_or_nothing {step : Step} {w : World} {r arrived : Request} {user : User}
    (reaches : step.Reaches .profileUpdate w r arrived user) (writes : w.mode = .ok) :
    let before := w.database
    let after := (step.take w).2.database
    let answer := (step.take w).1
    ∃ form, (Profile.check (some user.id) r.submitted).run (Step.nextSecond w) =
        (.ok form, Step.nextSecond w) ∧
      (∀ path, answer.target? = some path →
        path = "/profile/" ∧ answer.status? = some 302 ∧
          ∃ v email, form.valid? = some v ∧ v.firstName ≠ "" ∧ v.email ≠ "" ∧
            (∀ date ∈ v.birthDate, 1900 ≤ date.year) ∧ v.bio.length ≤ 500 ∧ v.location.length ≤ 100 ∧
            Account.Email.LowersDomain v.email email ∧
            after = before.put (.user
              { user with
                username := Account.Username.stored user.username
                firstName := v.firstName, lastName := v.lastName, email
                location := v.location, birthDate := v.birthDate, bio := v.bio })) ∧
      (answer.target? = none → after = before) ∧
      (step.take w).2.sessions = w.sessions ∧
      (r.method ∈ ["POST", "PUT"] → ∀ v, form.valid? = some v → v.firstName ≠ "" → v.email ≠ "" →
        (∀ other ∈ before.users.rows, other.id ≠ user.id →
          other.username ≠ Account.Username.stored user.username) →
        answer.target? = some "/profile/") := by
  intro before after answer
  have same : (Profile.checked w.platform (some user.id) arrived.submitted before.users.rows).valid? =
      (Profile.checked w.platform (some user.id) r.submitted before.users.rows).valid? :=
    congrArg _ (Profile.checked_congr reaches.text?)
  refine ⟨_, Profile.run_check reaches.online, ?_⟩
  obtain ⟨body, rfl⟩ := Step.delivered?_eq_some reaches.arrives reaches.sent
  have sessions : (step.take w).2.sessions = _ := reaches.seen_take fun _ _ => rfl
  rcases run_profileUpdate (r := { r with body }) reaches.client reaches.served writes with
    ⟨v, ⟨submits, accepts⟩, ends⟩ | ⟨refused, stays, nowhere⟩
  · obtain ⟨tells, stored⟩ := reaches.tells ends
    have valid := same.symm.trans accepts.valid
    have sound := Profile.sound_of_valid? valid
    refine ⟨?_, ?_, ?_, ?_⟩
    · intro path leads
      rw [tells.target] at leads
      cases leads
      exact ⟨rfl, tells.status, v, _, valid, accepts.firstName, accepts.email, sound.birthDate,
        sound.bio, sound.location, sound.email accepts.email, stored⟩
    · intro nothing
      cases tells.target.symm.trans nothing
    · rw [sessions, ends]
      rfl
    · exact fun _ _ _ _ _ _ => tells.target
  · have nothing := reaches.target?_eq_none nowhere
    refine ⟨?_, ?_, ?_, ?_⟩
    · intro path leads
      cases nothing.symm.trans leads
    · intro _
      have written : after = _ := reaches.database_take
      rw [written, stays]
      rfl
    · rw [sessions, stays]
      rfl
    · intro submits v valid named given free
      exact absurd ⟨submits, ⟨same.trans valid, named, given, free⟩⟩ (refused v)

def bob : User :=
  { id := 2, username := "bob", email := "bob@example.com", dateJoined := ⟨0⟩, password := .plain "" }

/-- The second user with a first name and another address. -/
def boxOfBob : User :=
  { bob with firstName := "Bob", email := "Box@example.com" }

/-- The user's own row is written, with the domain of the address in lower case. -/
theorem profile_update_own_or_nothing_capitals :
    ((asksForEmail "Box@EXAMPLE.com").take twoUsers).1.target? = some "/profile/" ∧
      ((asksForEmail "Box@EXAMPLE.com").take twoUsers).2.database =
        twoUsers.database.put (.user boxOfBob) := by
  have reaches : (asksForEmail "Box@EXAMPLE.com").Reaches .profileUpdate twoUsers _ _ bob :=
    ⟨⟨rfl, by decide +kernel, rfl⟩, rfl, by decide +kernel⟩
  have leads : ((asksForEmail "Box@EXAMPLE.com").take twoUsers).1.target? = some "/profile/" := by
    decide +kernel
  have found : ((asksForEmail "Box@EXAMPLE.com").take twoUsers).2.database.users.find? bob.id =
      some boxOfBob := by
    decide +kernel
  obtain ⟨form, -, changes, -⟩ := profile_update_own_or_nothing reaches rfl
  obtain ⟨-, -, v, email, -, -, -, -, -, -, -, stored⟩ := changes _ leads
  have written : some boxOfBob = some _ :=
    found.symm.trans (congrArg (fun d : Database => d.users.find? bob.id) stored)
  rw [Option.some.inj written]
  exact ⟨leads, stored⟩

/-- A user whose name is not in its stored form. -/
def wideUser : User :=
  { id := 1, username := "Ａ", email := "a@example.com", dateJoined := ⟨0⟩, password := .plain "" }

/-- A request to change the profile may change the name of its user. -/
theorem profile_update_changes_username :
    ∃ step w r arrived user, Step.Reaches step .profileUpdate w r arrived user ∧ w.mode = .ok ∧
      (step.take w).1.target? = some "/profile/" ∧ user.username = "Ａ" ∧
      ((step.take w).2.database.users.find? user.id).map User.username = some "A" := by
  refine ⟨givesFirstName, wideSite, _, _, wideUser, ⟨⟨rfl, ?_, rfl⟩, rfl, ?_⟩, rfl, ?_, rfl, ?_⟩
  all_goals decide +kernel

end GridCommons
