import GridCommons.Proofs.Authority
import GridCommons.Proofs.Runs
import GridCommons.Site.Record

/-!
Contract: the ban of a user, and how long it lasts.

Owns:
- the user that a row belongs to, and the relations that a user is in;
- `Database.Idle`: a user made no row, and entered and left no relation;
- that a user is idle in deeds of others;
- that a banned user stays banned and idle.

The site serves nobody as a user who is not active.  So whatever a request writes is
a deed of others, and only the staff and the unguarded address for unblocking can undo
the ban.
-/

namespace GridCommons.Site

namespace Members

variable {m : Members} {other user : Nat}

theorem contains_join_of_ne (differs : other ≠ user) :
    (m.join other).contains user = m.contains user := by
  rw [Bool.eq_iff_iff, contains, contains, List.contains_iff_mem, List.contains_iff_mem]
  constructor
  · intro member
    exact (Table.mem_place member).resolve_left differs.symm
  · intro member
    exact Table.mem_place_of_ne member differs.symm

theorem contains_leave_of_ne (differs : other ≠ user) :
    (m.leave other).contains user = m.contains user := by
  rw [Bool.eq_iff_iff, contains, contains, List.contains_iff_mem, List.contains_iff_mem]
  simp [leave, drop, differs.symm]

end Members

namespace Row

/-- The user that a row belongs to. -/
def owner? : Row → Option Nat
  | .user _ | .attachment _ | .cell _ => none
  | .profileNote row => some row.authorId
  | .card row => some row.userId
  | .wall row => some row.createdById
  | .comment row => some row.authorId
  | .cardLike row | .cardFavorite row => some row.userId
  | .commentLike row => some row.userId
  | .commentFlag row => some row.userId
  | .cardReport row => row.userId

end Row

/-- Rows of the kind belong to users. -/
def Kind.owned : Kind → Bool
  | .user | .attachment | .cell => false
  | _ => true

/-- Rows with an owner are of a kind that has owners. -/
theorem Row.owned_of_owner? {row : Row} {user : Nat} (owns : row.owner? = some user) :
    row.kind.owned = true := by
  cases row <;> first | rfl | cases owns

namespace Relation

theorem owned_kind (relation : Relation) : relation.kind.owned = true := by
  cases relation <;> rfl

section Members

variable {relation other : Relation} {members : Members} {row : Row}

@[simp] theorem owner?_withMembers : (relation.withMembers members row).owner? = row.owner? := by
  cases relation <;> cases row <;> rfl

@[simp] theorem values_withMembers : (relation.withMembers members row).values = row.values := by
  cases relation <;> cases row <;> rfl

/-- A user whom a change of one relation does not concern is in the same relations. -/
theorem contains_withMembers {user : Nat}
    (same : members.contains user = (relation.members row).contains user) :
    (other.members (relation.withMembers members row)).contains user =
      (other.members row).contains user := by
  cases relation <;> cases row <;> cases other <;> first | exact same | rfl

end Members

end Relation

namespace Database

variable {user : Nat} {d d' d'' : Database}

/-- The user is in a relation that the row with a number keeps. -/
def isMember (d : Database) (relation : Relation) (id user : Nat) : Bool :=
  (d.find? ⟨relation.kind, id⟩).any fun row => (relation.members row).contains user

/-- Storing a row changes a user's relations only where the row has other members. -/
theorem isMember_put {row : Row}
    (members : ∀ relation : Relation, relation.kind = row.kind →
      (relation.members row).contains user = d.isMember relation row.id user)
    (relation : Relation) (id : Nat) :
    (d.put row).isMember relation id user = d.isMember relation id user := by
  unfold isMember
  rw [find?_put]
  by_cases here : row.ref = ⟨relation.kind, id⟩
  · rw [if_pos here]
    have kept := members relation (congrArg Ref.kind here).symm
    have number : row.id = id := congrArg Ref.id here
    rw [number] at kept
    exact kept
  · rw [if_neg here]

/-- A new row without members is in nobody's relations. -/
theorem contains_members_of_new {row : Row} (new : d.find? row.ref = none)
    (empty : ∀ relation : Relation, (relation.members row).contains user = false)
    (relation : Relation) (kind : relation.kind = row.kind) :
    (relation.members row).contains user = d.isMember relation row.id user := by
  have vacant : d.find? ⟨relation.kind, row.id⟩ = none := by
    rw [kind]
    exact new
  rw [empty, isMember, vacant]
  rfl

/-- New members of a row leave a user's relations alone if they leave that user in or out. -/
theorem contains_members_withMembers {relation : Relation} {members : Members} {row : Row}
    (here : d.find? row.ref = some row)
    (same : members.contains user = (relation.members row).contains user) (other : Relation)
    (kind : other.kind = (relation.withMembers members row).kind) :
    (other.members (relation.withMembers members row)).contains user =
      d.isMember other (relation.withMembers members row).id user := by
  have place : (⟨(relation.withMembers members row).kind,
      (relation.withMembers members row).id⟩ : Ref) = row.ref := Relation.ref_withMembers
  rw [Relation.contains_withMembers same, isMember, kind, place, here]
  rfl

/-- Every row of the user was there before with the same columns, and the user is in the
same relations. -/
structure Idle (user : Nat) (d d' : Database) : Prop where
  rows : ∀ place row, d'.find? place = some row → row.owner? = some user →
    ∃ old, d.find? place = some old ∧ old.owner? = some user ∧ old.values = row.values
  relations : ∀ relation id, d'.isMember relation id user = d.isMember relation id user

namespace Idle

theorem refl (d : Database) : Idle user d d where
  rows _ row found owns := ⟨row, found, owns, rfl⟩
  relations _ _ := rfl

theorem trans (first : Idle user d d') (second : Idle user d' d'') : Idle user d d'' where
  rows place row found owns := by
    obtain ⟨later, foundLater, ownsLater, same⟩ := second.rows place row found owns
    obtain ⟨old, foundOld, ownsOld, sameOld⟩ := first.rows place later foundLater ownsLater
    exact ⟨old, foundOld, ownsOld, sameOld.trans same⟩
  relations relation id := (second.relations relation id).trans (first.relations relation id)

/-! ## Single writes -/

/-- Rows that belong to nobody do not count. -/
theorem of_find?_eq (same : ∀ place, place.kind.owned = true → d'.find? place = d.find? place) :
    Idle user d d' where
  rows place row found owns := by
    have here : row.ref = place := (find?_eq_some_iff.mp found).2
    have counts : place.kind.owned = true := by
      rw [← here]
      exact Row.owned_of_owner? owns
    exact ⟨row, (same place counts).symm.trans found, owns, rfl⟩
  relations relation id := by
    unfold isMember
    rw [same ⟨relation.kind, id⟩ relation.owned_kind]

/-- Storing a row leaves a user idle if it is another user's, or says what the user's row said. -/
theorem put {row : Row}
    (own : row.owner? = some user →
      ∃ old, d.find? row.ref = some old ∧ old.owner? = some user ∧ old.values = row.values)
    (members : ∀ relation : Relation, relation.kind = row.kind →
      (relation.members row).contains user = d.isMember relation row.id user) :
    Idle user d (d.put row) where
  rows place other found owns := by
    rw [find?_put] at found
    split at found
    · rename_i here
      subst here
      cases found
      exact own owns
    · exact ⟨other, found, owns, rfl⟩
  relations := isMember_put members

/-- A row of somebody else, of a kind that keeps no relation. -/
theorem put_plain {row : Row} (foreign : row.owner? ≠ some user)
    (plain : ∀ relation : Relation, relation.kind ≠ row.kind) : Idle user d (d.put row) :=
  put (fun owns => absurd owns foreign) fun relation same => absurd same (plain relation)

/-- A new row of somebody else, with no members. -/
theorem put_new {row : Row} (foreign : row.owner? ≠ some user) (new : d.find? row.ref = none)
    (empty : ∀ relation : Relation, (relation.members row).contains user = false) :
    Idle user d (d.put row) := by
  apply put
  · intro owns
    exact absurd owns foreign
  · exact contains_members_of_new new empty

/-- Others may enter and leave relations. -/
theorem put_withMembers {relation : Relation} {id : Nat} {row : Row} {members : Members}
    (found : d.find? ⟨relation.kind, id⟩ = some row)
    (same : members.contains user = (relation.members row).contains user) :
    Idle user d (d.put (relation.withMembers members row)) := by
  have here : d.find? row.ref = some row := by
    rw [(find?_eq_some_iff.mp found).2]
    exact found
  apply put
  · intro owns
    rw [Relation.ref_withMembers]
    exact ⟨row, here, by simpa using owns, by simp⟩
  · exact contains_members_withMembers here same

theorem delete_leaf {root : Ref} (aside : root.kind.moderated = false)
    (notFile : root.kind ≠ .attachment) : Idle user d (d.delete [root]) where
  rows place row found owns := by
    rw [find?_delete_leaf aside notFile] at found
    split at found
    · cases found
    · exact ⟨row, found, owns, rfl⟩
  relations relation id := by
    unfold isMember
    rw [find?_delete_leaf aside notFile, if_neg]
    intro here
    rw [← here] at aside
    cases relation <;> cases aside

/-! ## Deeds -/

/-- A user is idle in the deeds of a client who is somebody else and not of the staff. -/
theorem of_deed {r : Web.Request} {actor : Option User} {address : Web.Address}
    (deed : Web.Deed r actor address d d')
    (ordinary : ∀ other, actor = some other → other.isStaff = false)
    (foreign : ∀ other, actor = some other → other.id ≠ user)
    (shut : ∀ content id, ¬(r.method = "POST" ∧ address = .unblock content id)) : Idle user d d' := by
  cases deed with
  | registered _ _ _ _ stored | passwordStored _ _ _ stored | profileChanged _ _ stored
  | passwordChanged _ _ _ _ _ stored | fileStored _ _ stored =>
      obtain ⟨-, rfl⟩ := store_eq_ok_iff.mp stored
      exact put_plain nofun (by intro relation; cases relation <;> nofun)
  | loginNoted noted now _ _ =>
      apply of_find?_eq
      intro place counts
      obtain ⟨kind, id⟩ := place
      cases kind <;> first | rfl | cases counts
  | cellsFilled card _ _ _ added =>
      rw [eq_of_addAll added]
      apply of_find?_eq
      intro place counts
      obtain ⟨kind, id⟩ := place
      cases kind <;> first | rfl | cases counts
  | cardUnblocked card posted _ => exact absurd ⟨posted, rfl⟩ (shut _ _)
  | joined row _ found stored =>
      obtain ⟨-, rfl⟩ := store_eq_ok_iff.mp stored
      exact put_withMembers found (Members.contains_join_of_ne (foreign _ rfl))
  | left row _ _ found stored =>
      obtain ⟨-, rfl⟩ := store_eq_ok_iff.mp stored
      exact put_withMembers found (Members.contains_leave_of_ne (foreign _ rfl))
  | commented _ _ stored | cardMade _ _ _ stored =>
      obtain ⟨-, rfl⟩ := store_eq_ok_iff.mp stored
      apply put_new
      · exact fun owns => foreign _ rfl (Option.some.inj owns)
      · exact find?_next d _
      · intro relation
        cases relation <;> rfl
  | reported _ _ _ stored | wallAdded _ _ _ _ _ stored | noteAdded _ _ _ _ stored =>
      obtain ⟨-, rfl⟩ := store_eq_ok_iff.mp stored
      apply put_plain
      · exact fun owns => foreign _ rfl (Option.some.inj owns)
      · intro relation
        cases relation <;> nofun
  | wallRemoved wall _ _ => exact delete_leaf rfl nofun
  | noteRemoved note _ _ => exact delete_leaf rfl nofun
  -- what is left takes a user of the staff
  | _ => simp_all

end Idle

/-! ## Bans -/

/-- What the user has in one table was there before. -/
theorem Idle.exists_old {α : Type} [Numbered α] (slot : Slot α) (idle : Idle user d d') {part : α}
    (member : part ∈ (slot.table d').rows) (owns : (slot.inject part).owner? = some user) :
    ∃ old ∈ (slot.table d).rows, (slot.inject old).owner? = some user ∧
      (slot.inject old).values = (slot.inject part).values := by
  have found := slot.find?_inject (Table.find?_eq_some_iff.mpr ⟨member, rfl⟩)
  obtain ⟨row, foundOld, ownsOld, same⟩ := idle.rows _ _ found owns
  obtain ⟨old, before, rfl⟩ := slot.find?_eq_some foundOld
  exact ⟨old, (Table.find?_eq_some_iff.mp before).1, ownsOld, same⟩

/-- The rows of a banned user who was idle are as the ban left them. -/
theorem Banned.of_idle (banned : d.Banned user) (idle : Idle user d d') (inactive : d'.Inactive user) :
    d'.Banned user where
  inactive := inactive
  cards card member owned := by
    obtain ⟨old, before, owns, same⟩ := idle.exists_old Slot.card member (congrArg some owned)
    have blocked : old.isBlocked = true := banned.cards old before (Option.some.inj owns)
    have flags := congrArg (fun record => Record.get record "is_blocked") same
    exact (Datum.bool.inj flags).symm.trans blocked
  comments comment member written := by
    obtain ⟨old, before, owns, same⟩ := idle.exists_old Slot.comment member (congrArg some written)
    have blocked : old.isBlocked = true := banned.comments old before (Option.some.inj owns)
    have flags := congrArg (fun record => Record.get record "is_blocked") same
    exact (Datum.bool.inj flags).symm.trans blocked

end Database

end GridCommons.Site

namespace GridCommons

open Site Account Web

variable {step : Step} {w : World} {id : Nat}

/-- The step sends a request of a client that is not served as the staff and submits
nothing to the address for unblocking. -/
def Step.LeavesBlocked (step : Step) (w : World) : Prop :=
  ∃ r, step.Unprivileged r w ∧
    ∀ content id, ¬(r.method = "POST" ∧ addressOf r.path = some (.unblock content id))

/-- No step that leaves a user blocked does anything in the name of that user. -/
theorem Step.LeavesBlocked.idle (leaves : step.LeavesBlocked w) (inactive : w.database.Inactive id) :
    Database.Idle id w.database (step.take w).2.database := by
  obtain ⟨r, unprivileged, shut⟩ := leaves
  apply take_keeps (Database.Idle id) .refl .trans unprivileged.sent
  intro body address there d d' deed
  apply Database.Idle.of_deed deed
  · intro other served
    exact unprivileged.isStaff_eq_false served
  · intro other served same
    -- whoever is served is active
    obtain ⟨found, active⟩ := find?_of_servedAs unprivileged.client served
    obtain ⟨user, foundUser, notActive⟩ := inactive
    rw [same] at found
    cases foundUser.symm.trans found
    cases notActive.symm.trans active
  · rintro content number ⟨posted, rfl⟩
    exact shut content number ⟨posted, there⟩

theorem Step.LeavesBlocked.inactive (leaves : step.LeavesBlocked w) (inactive : w.database.Inactive id) :
    (step.take w).2.database.Inactive id := by
  obtain ⟨r, unprivileged, -⟩ := leaves
  obtain ⟨user, found, notActive⟩ := inactive
  obtain ⟨later, foundLater, same⟩ := unprivileged.unmoderated.users id user found
  exact ⟨later, foundLater, (congrArg Privileges.isActive same).trans notActive⟩

/-- Along runs of such steps a user who is not active is idle, and does not get active. -/
theorem EachStep.idle {steps : List Step} (run : EachStep Step.LeavesBlocked steps w)
    (inactive : w.database.Inactive id) :
    Database.Idle id w.database (runSteps steps w).2.database ∧
      (runSteps steps w).2.database.Inactive id := by
  apply EachStep.invariant
    (fun reached => Database.Idle id w.database reached.database ∧ reached.database.Inactive id) _ run
  · exact ⟨.refl _, inactive⟩
  · rintro step reached leaves ⟨idle, still⟩
    exact ⟨idle.trans (leaves.idle still), leaves.inactive still⟩

/-- A ban is complete: the user is not active afterwards, and all cards and comments of the
user are blocked.  And it lasts through every run of client requests that are not served as the staff
and submit nothing to the address for unblocking.  Whichever sessions were open and whoever
tries to sign in, the user makes no row in such a run, and enters and leaves no relation. -/
theorem ban_is_complete_and_lasts {ban : Step} {r : Request} {user : User} (writes : w.mode = .ok)
    (small : inRange id = true) (found : w.database.users.find? id = some user)
    (bans : ban.StaffSubmits r w) (there : addressOf r.path = some (.block "user" id))
    {steps : List Step} (run : EachStep Step.LeavesBlocked steps (ban.take w).2) :
    (runSteps (ban :: steps) w).2.database.Banned id ∧
      Database.Idle id (ban.take w).2.database (runSteps (ban :: steps) w).2.database := by
  have bannedFirst : (ban.take w).2.database.Banned id := by
    rw [(bans.moderates_block there).database_of_ok writes]
    simp only [blocking?, small, found, ↓reduceIte, Option.map_some, Option.getD_some]
    exact Database.banned_banned found
  obtain ⟨idle, inactive⟩ := run.idle bannedFirst.inactive
  exact ⟨bannedFirst.of_idle idle inactive, idle⟩

/-! ### A ban -/

/-- A moderator and another user, both signed in; the other user has a card and a
comment on it. -/
def banSite : World :=
  { now := ⟨0⟩
    database :=
      [.user { id := 1, username := "mod", isStaff := true, dateJoined := ⟨0⟩, password := .plain "" },
        .user { id := 2, username := "eve", dateJoined := ⟨0⟩, password := .plain "secret" },
        .card { id := 1, userId := 2, title := "", description := "", createdAt := ⟨0⟩,
                updatedAt := ⟨0⟩ },
        .comment { id := 1, cardId := 1, authorId := 2, text := "", createdAt := ⟨0⟩ }].foldl
          Database.put {}
    sessions := [{ key := 1, userId := 1, stamp := .plain "", expires := ⟨100⟩ },
      { key := 2, userId := 2, stamp := .plain "secret", expires := ⟨100⟩ }].foldl Table.put {}
    browsers := [("mod", 1), ("eve", 2)] }

def bansEve : Request :=
  { method := "POST", path := "/moderation/block/user/2/", visitor := .browser "mod" }

/-- The banned user tries to like the card, and to sign in again. -/
def eveGoesOn : List Request :=
  [{ method := "POST", path := "/cards/1/toggle-like/", visitor := .browser "eve" },
    { method := "POST", path := "/accounts/login/", visitor := .browser "eve"
      body := .form { texts := [("username", ["eve"]), ("password", ["secret"])] } [] }]

theorem leavesBlocked_eveGoesOn :
    EachStep Step.LeavesBlocked (eveGoesOn.map .request) ((Step.request bansEve).take banSite).2 := by
  have likes : addressOf "/cards/1/toggle-like/" = some (.toggleLike 1) := by decide +kernel
  have signsIn : addressOf "/accounts/login/" = some .login := by decide +kernel
  refine ⟨⟨_, ⟨rfl, rfl, by decide +kernel⟩, ?_⟩, ⟨_, ⟨rfl, rfl, by decide +kernel⟩, ?_⟩, trivial⟩
  · rintro content id ⟨-, there⟩
    cases likes.symm.trans there
  · rintro content id ⟨-, there⟩
    cases signsIn.symm.trans there

/-- The user stays banned, and does not like the card. -/
theorem ban_is_complete_and_lasts_eve :
    (runSteps (.request bansEve :: eveGoesOn.map .request) banSite).2.database.Banned 2 ∧
      (runSteps (.request bansEve :: eveGoesOn.map .request) banSite).2.database.isMember
        .cardLikes 1 2 = false := by
  have bans : (Step.request bansEve).StaffSubmits bansEve banSite := ⟨⟨rfl, rfl, rfl⟩, _, rfl, rfl⟩
  have there : addressOf bansEve.path = some (.block "user" 2) := by decide +kernel
  obtain ⟨banned, idle⟩ :=
    ban_is_complete_and_lasts rfl (by decide) rfl bans there leavesBlocked_eveGoesOn
  have before : ((Step.request bansEve).take banSite).2.database.isMember .cardLikes 1 2 = false := by
    rw [(bans.moderates_block there).database_of_ok rfl]
    decide
  exact ⟨banned, (idle.relations .cardLikes 1).trans before⟩

end GridCommons
