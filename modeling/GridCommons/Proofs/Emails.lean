import GridCommons.Proofs.Forms
import GridCommons.Proofs.Runs

/-!
Contract: the addresses of users, which are to differ.

Owns:
- that no request but a change of a profile gives two users one address;
- the change that a request makes to a profile, as a function of the state;
- which runs of requests keep the addresses apart.

A registration stores the address that it was checked with.  A change of a profile is
checked with the typed address, and stores the address with its domain in lower case.
-/

namespace GridCommons.Site.Database

variable {d d' : Database}

/-- No two users have one address.  An empty address is none. -/
def EmailsDiffer (d : Database) : Prop :=
  ∀ user ∈ d.users.rows, ∀ other ∈ d.users.rows,
    user.email ≠ "" → user.email = other.email → user = other

/-- A user keeps the addresses apart exactly if the own address is that of no other. -/
theorem emailsDiffer_put_iff (differ : d.EmailsDiffer) {user : User} :
    (d.put (.user user)).EmailsDiffer ↔
      (user.email ≠ "" → ∀ other ∈ d.users.rows, other.email = user.email → other.id = user.id) := by
  constructor
  · intro after given other member same
    by_contra differs
    have stays : other ∈ (d.put (.user user)).users.rows := Table.mem_put.mpr (.inr ⟨member, differs⟩)
    have stored : user ∈ (d.put (.user user)).users.rows := Table.mem_put.mpr (.inl rfl)
    exact differs (congrArg User.id (after other stays user stored (same ▸ given) same))
  · intro free first inFirst second inSecond given same
    rcases Table.mem_put.mp inFirst with rfl | ⟨firstBefore, firstDiffers⟩ <;>
      rcases Table.mem_put.mp inSecond with rfl | ⟨secondBefore, secondDiffers⟩
    · rfl
    · exact absurd (free given second secondBefore same.symm) secondDiffers
    · exact absurd (free (same ▸ given) first firstBefore same) firstDiffers
    · exact differ first firstBefore second secondBefore given same

/-! ## Changes that give nobody an address -/

/-- Every user was there before, with the same address. -/
def EmailsKept (d d' : Database) : Prop :=
  ∀ user ∈ d'.users.rows, ∃ old ∈ d.users.rows, old.id = user.id ∧ old.email = user.email

/-- Addresses go on differing while no user gets another one. -/
theorem EmailsDiffer.of_emailsKept (differ : d.EmailsDiffer) (kept : EmailsKept d d') :
    d'.EmailsDiffer := by
  intro user member other memberOther given same
  obtain ⟨before, inBefore, sameId, sameEmail⟩ := kept user member
  obtain ⟨otherBefore, inOther, sameOtherId, sameOtherEmail⟩ := kept other memberOther
  have one : before = otherBefore := by
    refine differ before inBefore otherBefore inOther (sameEmail ▸ given) ?_
    rw [sameEmail, same, sameOtherEmail]
  refine Table.eq_of_id_eq d'.users.ascending member memberOther ?_
  calc user.id = before.id := sameId.symm
    _ = otherBefore.id := by rw [one]
    _ = other.id := sameOtherId

theorem EmailsKept.of_eq (users : d'.users = d.users) : EmailsKept d d' := by
  intro user member
  rw [users] at member
  exact ⟨user, member, rfl, rfl⟩

theorem EmailsKept.put_user {user old : User} (found : d.users.find? user.id = some old)
    (same : old.email = user.email) : EmailsKept d (d.put (.user user)) := by
  intro other member
  rcases Table.mem_put.mp member with rfl | ⟨before, -⟩
  · obtain ⟨inOld, sameId⟩ := Table.find?_eq_some_iff.mp found
    exact ⟨old, inOld, sameId, same⟩
  · exact ⟨other, before, rfl, rfl⟩

theorem EmailsKept.put_withMembers {relation : Relation} {id : Nat} {row : Row} {members : Members}
    (found : d.find? ⟨relation.kind, id⟩ = some row) :
    EmailsKept d (d.put (relation.withMembers members row)) := by
  rcases withMembers_cases members found with ⟨card, _, _, -, stored⟩ | ⟨comment, _, _, -, stored⟩ <;>
    rw [stored] <;> exact .of_eq rfl

theorem EmailsKept.noteLogin (id : Nat) (now : Instant) : EmailsKept d (Account.noteLogin id now d) := by
  intro user member
  obtain ⟨old, before, sameId, -, sameEmail⟩ := Account.mem_noteLogin member
  exact ⟨old, before, sameId, sameEmail⟩

theorem EmailsKept.delete (roots : List Ref) : EmailsKept d (d.delete roots) := by
  intro user member
  obtain ⟨old, found, -, bereft⟩ := Slot.user.mem_delete member
  have same : old = user := Row.user.inj bereft
  subst same
  exact ⟨old, (Table.find?_eq_some_iff.mp found).1, rfl, rfl⟩

end GridCommons.Site.Database

namespace GridCommons.Account.Email

/-- An address that is not empty is not stored as an empty one. -/
theorem stored_ne_empty {address : String} (given : address ≠ "") : stored address ≠ "" := by
  unfold stored
  split
  · exact given
  · simp

end GridCommons.Account.Email

namespace GridCommons.Web

open Site Form Account

/-- Facts of a profile with which nothing is wrong tell an address. -/
theorem ProfileFacts.email_ne_empty {firstName address : String}
    (sound : ProfileFacts.problem? ⟨some firstName, some address, none⟩ = none) : address ≠ "" := by
  rintro rfl
  unfold problem? at sound
  split at sound
  · cases sound
  · cases sound

/-- Of all deeds, only a change of a profile gives two users one address. -/
theorem Deed.emailsDiffer {r : Request} {actor : Option User} {address : Address} {d d' : Database}
    (deed : Deed r actor address d d') (elsewhere : address ≠ .profileUpdate)
    (differ : d.EmailsDiffer) : d'.EmailsDiffer := by
  cases deed with
  | registered v now salt free stored =>
      obtain ⟨-, rfl⟩ := Database.store_eq_ok_iff.mp stored
      refine (Database.emailsDiffer_put_iff differ).mpr fun _ other member same => ?_
      exact absurd same (free other member)
  | profileChanged => exact absurd rfl elsewhere
  | passwordStored user password found stored | passwordChanged user password _ _ found stored =>
      obtain ⟨-, rfl⟩ := Database.store_eq_ok_iff.mp stored
      exact differ.of_emailsKept (.put_user found rfl)
  | userBanned banned _ found =>
      have known : d.users.find? banned.id = some banned := Table.find?_self found
      exact differ.of_emailsKept (.put_user known rfl)
  | loginNoted user now => exact differ.of_emailsKept (.noteLogin user.id now)
  | joined _ _ found stored | left _ _ _ found stored =>
      obtain ⟨-, rfl⟩ := Database.store_eq_ok_iff.mp stored
      exact differ.of_emailsKept (.put_withMembers found)
  | wallRemoved | noteRemoved | adminDeleted => exact differ.of_emailsKept (.delete _)
  | cellsFilled _ _ _ _ added =>
      rw [Database.eq_of_addAll added]
      exact differ.of_emailsKept (.of_eq rfl)
  | commented _ _ stored | reported _ _ _ stored | wallAdded _ _ _ _ _ stored
  | noteAdded _ _ _ _ stored | fileStored _ _ stored | cardMade _ _ _ stored
  | cardBlocked _ _ _ _ stored | reportResolved _ _ _ _ _ stored | flagStored _ _ _ stored
  | statusChanged _ _ _ _ _ stored | listEdited _ _ _ _ stored | cardEntered _ _ _ _ _ stored
  | reportEntered _ _ _ _ _ stored =>
      obtain ⟨-, rfl⟩ := Database.store_eq_ok_iff.mp stored
      exact differ.of_emailsKept (.of_eq rfl)
  | cardUnblocked | commentBlocked | cardsOfBanned | commentsOfBanned | cardUnblockedByStaff
  | listSettled => exact differ.of_emailsKept (.of_eq rfl)

/-! ## Changing a profile -/

/-- A user and what the user's own profile is to say. -/
structure ProfileChange where
  user : User
  profile : Profile.Valid

namespace ProfileChange

/-- The row that is stored. -/
def row (change : ProfileChange) : User :=
  Profile.apply change.profile change.user

@[simp] theorem row_id (change : ProfileChange) : change.row.id = change.user.id :=
  rfl

@[simp] theorem row_email (change : ProfileChange) : change.row.email = Email.stored change.profile.email :=
  rfl

/-- The address is stored as it was typed. -/
def TypedAsStored (change : ProfileChange) : Prop :=
  Email.stored change.profile.email = change.profile.email

/-- Another user has the address that is stored. -/
def Collides (change : ProfileChange) (d : Database) : Prop :=
  ∃ other ∈ d.users.rows, other.id ≠ change.user.id ∧ other.email = Email.stored change.profile.email

end ProfileChange

/-- The change of a user's profile by a form, if the form is valid and the row can be
stored. -/
def changeBy? (user : User) (s : Submission) (w : World) : Option ProfileChange := do
  let profile ← (Profile.checked w.platform (some user.id) s w.database.users.rows).valid?
  if ProfileFacts.problem? ⟨some profile.firstName, some profile.email, none⟩ = none ∧ w.mode = .ok ∧
      w.database.violation? (.user (Profile.apply profile user)) = none then
    some ⟨user, profile⟩
  else none

/-- The change of a profile that a request makes, if it makes one. -/
def profileChange? (r : Request) (w : World) : Option ProfileChange :=
  if r.method ∈ ["POST", "PUT"] ∧ addressOf r.path = some .profileUpdate then
    (servedAs r.visitor w).bind fun user => changeBy? user r.submitted w
  else none

/-- Updating a profile stores the changed user, if the form is valid and nothing forbids it. -/
theorem database_updateProfile {r : Request} {user : User} {w : World} (online : w.mode ≠ .offline) :
    ((updateProfile r user).run w).2.database =
      w.database.putIf ((changeBy? user r.submitted w).map fun change => .user change.row) := by
  rw [updateProfile, Action.run_bind, Profile.run_check online]
  unfold changeBy?
  dsimp only
  rcases (Profile.checked w.platform (some user.id) r.submitted w.database.users.rows).valid? with _ | profile
  · rfl
  dsimp only
  rw [Option.bind_eq_bind, Option.bind_some]
  rcases ProfileFacts.problem? ⟨some profile.firstName, some profile.email, none⟩ with _ | problem
  · dsimp only
    rw [Action.run_bind_pure, Profile.save, Action.database_save]
    by_cases stores : w.mode = .ok ∧ w.database.violation? (.user (Profile.apply profile user)) = none
    · rw [if_pos stores, if_pos ⟨rfl, stores⟩]
      rfl
    · rw [if_neg stores, if_neg fun asks => stores asks.2]
      rfl
  · rfl

theorem database_serve_profileUpdate {r : Request} {w : World} (client : r.visitor.isClient = true)
    (there : addressOf r.path = some .profileUpdate) :
    ((serve r).run w).2.database =
      w.database.putIf ((profileChange? r w).map fun change => .user change.row) := by
  have chosen : serveAddress r .profileUpdate = Guard.signedIn r fun user =>
      (Methods.form (return .ofPage (Page.editing user none [])) (updateProfile r user)).dispatch
        r.method := rfl
  rw [database_serve there, chosen]
  unfold profileChange?
  cases served : servedAs r.visitor w with
  | none =>
      rw [database_signedIn served]
      split <;> rfl
  | some user =>
      rw [run_signedIn served, database_form .pure]
      by_cases posted : r.method ∈ ["POST", "PUT"]
      · rw [if_pos posted, if_pos ⟨posted, there⟩, Option.bind_some]
        exact database_updateProfile (online_of_servedAs client served)
      · rw [if_neg posted, if_neg fun asks => posted asks.1]
        rfl

/-- A request to another address changes no profile. -/
theorem profileChange?_eq_none {r : Request} {w : World}
    (elsewhere : addressOf r.path ≠ some .profileUpdate) :
    profileChange? r w = none :=
  if_neg fun asks => elsewhere asks.2

/-- What a request stores as the address of a profile is not empty, and was not the address
of another user in the form in which it was typed. -/
theorem of_profileChange? {r : Request} {w : World} {change : ProfileChange}
    (changes : profileChange? r w = some change) :
    change.row.email ≠ "" ∧
      ∀ other ∈ w.database.users.rows, other.id ≠ change.user.id → other.email ≠ change.profile.email := by
  unfold profileChange? at changes
  split at changes
  · obtain ⟨user, -, byUser⟩ := Option.bind_eq_some_iff.mp changes
    simp only [changeBy?, Option.bind_eq_bind, Option.bind_eq_some_iff] at byUser
    obtain ⟨profile, valid, stores⟩ := byUser
    split at stores
    · rename_i accepted
      cases stores
      constructor
      · exact Email.stored_ne_empty (ProfileFacts.email_ne_empty accepted.1)
      · intro other member differs
        exact Profile.email_ne_of_valid? valid other member (by simpa using differs)
    · cases stores
  · cases changes

end GridCommons.Web

namespace GridCommons

open Site

namespace Step

variable {step : Step} {w : World}

/-- The change of a profile that a step makes, if it sends a request that makes one. -/
def profileChange? : Step → World → Option Web.ProfileChange :=
  effect? Web.profileChange?

/-- A changed profile takes nobody's address. -/
def Collisionless (step : Step) (w : World) : Prop :=
  ∀ change ∈ step.profileChange? w, ¬change.Collides w.database

/-- The address of a changed profile is stored as it was typed. -/
def TypesAsStored (step : Step) (w : World) : Prop :=
  ∀ change ∈ step.profileChange? w, change.TypedAsStored

/-- A request either changes a profile and does nothing else, or it keeps the addresses
apart. -/
theorem emails_take (client : step.FromClient) :
    (∃ change, step.profileChange? w = some change ∧
        (step.take w).2.database = w.database.put (.user change.row)) ∨
      (step.profileChange? w = none ∧
        (w.database.EmailsDiffer → (step.take w).2.database.EmailsDiffer)) := by
  obtain ⟨r, sent, outside⟩ := client
  by_cases there : Web.addressOf r.path = some .profileUpdate
  · have written : (step.take w).2.database =
        w.database.putIf ((step.profileChange? w).map fun change => .user change.row) :=
      database_take_putIf sent fun body _ =>
        Web.database_serve_profileUpdate (r := { r with body }) outside there
    rw [written]
    cases step.profileChange? w with
    | none => exact .inr ⟨rfl, id⟩
    | some change => exact .inl ⟨change, rfl, rfl⟩
  · refine .inr ⟨effect?_eq_none sent fun _ _ => Web.profileChange?_eq_none there, ?_⟩
    refine take_keeps (fun d d' => d.EmailsDiffer → d'.EmailsDiffer) (fun _ => id)
      (fun first second differ => second (first differ)) sent ?_
    intro body address named d d' deed
    refine deed.emailsDiffer ?_
    rintro rfl
    exact there named

/-- Addresses go on differing exactly if the step gives no profile an address that is taken. -/
theorem emailsDiffer_take_iff (client : step.FromClient) (differ : w.database.EmailsDiffer) :
    (step.take w).2.database.EmailsDiffer ↔ step.Collisionless w := by
  unfold Collisionless
  rcases emails_take (w := w) client with ⟨change, changes, written⟩ | ⟨nothing, kept⟩
  · obtain ⟨arrived, -, effects⟩ := Option.bind_eq_some_iff.mp changes
    have given := (Web.of_profileChange? effects).1
    rw [changes, written, Database.emailsDiffer_put_iff differ, Web.ProfileChange.row_id,
      Web.ProfileChange.row_email]
    constructor
    · rintro free _ ⟨⟩ ⟨other, member, differs, same⟩
      exact differs (free given other member same)
    · intro free _ other member same
      by_contra differs
      exact free change rfl ⟨other, member, differs, same⟩
  · rw [nothing]
    exact ⟨fun _ change changes => absurd changes (Option.not_mem_none change), fun _ => kept differ⟩

/-- An address that is stored as it was typed collides with none. -/
theorem collisionless_of_typesAsStored (typed : step.TypesAsStored w) : step.Collisionless w := by
  rintro change changes ⟨other, member, differs, same⟩
  obtain ⟨arrived, -, effects⟩ := Option.bind_eq_some_iff.mp changes
  refine (Web.of_profileChange? effects).2 other member differs ?_
  rw [same, typed change changes]

end Step

/-- A run of requests keeps the addresses of users apart exactly if no changed profile takes,
with its domain in lower case, the address of another user.  None does where the addresses
are typed in the form in which they are stored; registrations never do. -/
theorem emails_stay_different_iff {steps : List Step} {w : World}
    (clients : ∀ step ∈ steps, step.FromClient) (differ : w.database.EmailsDiffer) :
    ((∀ earlier, earlier <+: steps → (runSteps earlier w).2.database.EmailsDiffer) ↔
        EachStep Step.Collisionless steps w) ∧
      (EachStep Step.TypesAsStored steps w → (runSteps steps w).2.database.EmailsDiffer) := by
  have along := holds_along_iff (fun w => w.database.EmailsDiffer)
    (fun _ _ client => Step.emailsDiffer_take_iff client) clients differ
  refine ⟨along, fun typed => along.mpr ?_ steps List.prefix_rfl⟩
  exact typed.mono fun _ _ => Step.collisionless_of_typesAsStored

/-! ## Two ways to spell an address -/

/-- Two users with an address each, of whom the second is signed in from a browser. -/
def twoUsers : World :=
  { now := ⟨0⟩
    database :=
      [.user { id := 1, username := "ann", email := "box@example.com", dateJoined := ⟨0⟩,
               password := .plain "" },
        .user { id := 2, username := "bob", email := "bob@example.com", dateJoined := ⟨0⟩,
                password := .plain "" }].foldl Database.put {}
    sessions := Table.put {} { key := 1, userId := 2, stamp := .plain "", expires := ⟨100⟩ }
    browsers := [("bob", 1)] }

def asksForEmail (address : String) : Step :=
  .request { method := "POST", path := "/profile_update/", visitor := .browser "bob"
             body := .form { texts := [("first_name", ["Bob"]), ("email", [address])] } [] }

theorem fromClient_asksForEmail (address : String) : (asksForEmail address).FromClient :=
  ⟨_, rfl, rfl⟩

theorem emailsDiffer_twoUsers : twoUsers.database.EmailsDiffer := by
  unfold Database.EmailsDiffer
  decide

/-- The part before the sign is stored as it was typed, so that its case tells addresses
apart. -/
theorem emails_stay_different_iff_owner :
    (((asksForEmail "Box@example.com").profileChange? twoUsers).map fun change => change.profile.email) =
        some "Box@example.com" ∧
      (runSteps [asksForEmail "Box@example.com"] twoUsers).2.database.EmailsDiffer := by
  have typed : (((asksForEmail "Box@example.com").profileChange? twoUsers).map fun change =>
      change.profile.email) = some "Box@example.com" := by decide +kernel
  have clients : ∀ step ∈ [asksForEmail "Box@example.com"], step.FromClient :=
    List.forall_mem_singleton.mpr (fromClient_asksForEmail _)
  refine ⟨typed, (emails_stay_different_iff clients emailsDiffer_twoUsers).2 ⟨?_, trivial⟩⟩
  intro change changes
  have same : change.profile.email = "Box@example.com" := by
    rw [Option.mem_def.mp changes] at typed
    exact Option.some.inj typed
  rw [Web.ProfileChange.TypedAsStored, same]
  decide +kernel

/-- A user may take the address of another by typing its domain in capitals. -/
theorem email_taken_in_capitals :
    ∃ step w, Step.FromClient step ∧ w.database.EmailsDiffer ∧ ¬(step.take w).2.database.EmailsDiffer := by
  have client := fromClient_asksForEmail "box@EXAMPLE.com"
  have stored : (((asksForEmail "box@EXAMPLE.com").profileChange? twoUsers).map fun change =>
      (change.user.id, Account.Email.stored change.profile.email)) = some (2, "box@example.com") := by
    decide +kernel
  refine ⟨asksForEmail "box@EXAMPLE.com", twoUsers, client, emailsDiffer_twoUsers, ?_⟩
  rw [Step.emailsDiffer_take_iff client emailsDiffer_twoUsers]
  intro collisionless
  obtain ⟨change, changes, told⟩ := Option.map_eq_some_iff.mp stored
  obtain ⟨user, address⟩ := Prod.mk.inj told
  refine collisionless change changes ⟨_, List.mem_cons_self, ?_, address.symm⟩
  rw [user]
  decide

end GridCommons
