import GridCommons.Proofs.Ban

/-!
Contract: who adds rows to the site, and who takes them away.

Owns:
- `MayAdd` and `MayRemove`: which rows a request adds and removes, by the user whom it is
  served as and by its address;
- `Database.Attributed`: everything between two databases was added, removed or joined by
  one actor, and what stayed is tied to the same rows;
- that every deed outside the administration is attributed to its actor.

Rows of a kind are added at one address and removed at another one.  So no request removes a
row and puts a different one into its place.
-/

namespace GridCommons.Web

open Site Account

/-- The rows that a request adds.  All but accounts and squares carry the user behind it.  An
account is a new one, or that of a user behind the request who has none yet. -/
def MayAdd (actor : Option User) (there : Option Address) : Row → Prop
  | .user user => there = some .registration ∨ ∃ own ∈ actor, user.id = own.id
  | .cell cell => there = some (.card cell.cardId)
  | .attachment _ => there = some .createCard ∧ actor.isSome = true
  | .card card => there = some .createCard ∧ ∃ user ∈ actor, card.userId = user.id
  | .comment comment =>
    there = some (.addComment comment.cardId) ∧ ∃ user ∈ actor, comment.authorId = user.id
  | .wall wall => there = some .addWall ∧ ∃ user ∈ actor, wall.createdById = user.id
  | .profileNote note =>
    (∃ username, there = some (.addProfileNote username)) ∧ ∃ user ∈ actor, note.authorId = user.id
  | .cardReport report =>
    there = some (.reportCard report.cardId) ∧ ∃ user ∈ actor, report.userId = some user.id
  | .cardLike _ | .cardFavorite _ | .commentLike _ | .commentFlag _ => False

/-- The rows that a request removes: a wall if its maker or the staff asks, and a note if the
owner of the profile, its author or a superuser does. -/
def MayRemove (actor : Option User) (there : Option Address) : Row → Prop
  | .wall wall =>
    there = some (.removeWall wall.id) ∧
      ∃ user ∈ actor, wall.createdById = user.id ∨ user.isStaff = true
  | .profileNote note =>
    there = some (.deleteProfileNote note.id) ∧
      ∃ user ∈ actor, note.profileId = user.id ∨ note.authorId = user.id ∨ user.isSuperuser = true
  | _ => False

/-- A note may be deleted by who owns the profile, by who wrote it, and by superusers. -/
theorem mayDeleteNote_iff {user : User} {note : ProfileNote} :
    mayDeleteNote user note = true ↔
      note.profileId = user.id ∨ note.authorId = user.id ∨ user.isSuperuser = true := by
  unfold mayDeleteNote
  rw [Bool.or_eq_true, Bool.or_eq_true, beq_iff_eq, beq_iff_eq, or_assoc,
    eq_comm (a := user.id), eq_comm (a := user.id)]

section Rows

variable {actor : Option User} {there : Option Address} {row later : Row}

theorem userId_eq_of_links {report changed : CardReport}
    (links : (Row.cardReport changed).links = (Row.cardReport report).links) :
    changed.userId = report.userId := by
  cases before : report.userId <;> cases after : changed.userId <;>
    simp_all [Row.links]

/-- Whether a row may be added shows in its place and its references. -/
theorem MayAdd.of_links (may : MayAdd actor there row) (ref : later.ref = row.ref)
    (links : later.links = row.links) : MayAdd actor there later := by
  have kind : later.kind = row.kind := congrArg Ref.kind ref
  have id : later.id = row.id := congrArg Ref.id ref
  cases row with
  | cardReport report =>
      cases later with
      | cardReport changed =>
          have sameUser := userId_eq_of_links links
          simp_all [MayAdd, Row.links]
      | _ => cases kind
  | _ =>
      cases later <;> cases kind
      simp_all [MayAdd, Row.links, Row.id]

/-- Who may remove a row may remove it in an earlier state with the same links. -/
theorem MayRemove.of_links (may : MayRemove actor there later) (ref : later.ref = row.ref)
    (links : later.links = row.links) : MayRemove actor there row := by
  have kind : later.kind = row.kind := congrArg Ref.kind ref
  have id : later.id = row.id := congrArg Ref.id ref
  cases later <;> cases row <;> cases kind <;> simp_all [MayRemove, Row.links, Row.id]

/-- No address both adds and removes rows of a kind. -/
theorem MayRemove.not_mayAdd (may : MayRemove actor there row) (kind : later.kind = row.kind) :
    ¬MayAdd actor there later := by
  intro adds
  cases row <;> cases later <;> cases kind <;> simp_all [MayAdd, MayRemove]

end Rows

end GridCommons.Web

namespace GridCommons.Site

open Web

namespace Relation

theorem links_withMembers {relation : Relation} {members : Members} {row : Row} :
    (relation.withMembers members row).links = row.links := by
  cases relation <;> cases row <;> rfl

/-- Who is in a relation shows in the members of the row. -/
theorem contains_of_members {relation : Relation} {row later : Row} (kind : later.kind = row.kind)
    (same : later.members = row.members) (user : Nat) :
    (relation.members later).contains user = (relation.members row).contains user := by
  cases row <;> cases later <;> cases kind <;> cases relation <;>
    simp_all [Row.members, Relation.members, Members.contains]

end Relation

namespace Database

variable {actor : Option User} {there : Option Address} {d d' d'' : Database}

/-- One actor added and removed all the rows that differ, at one address.  Rows that stayed refer to
the same rows, and nobody but the actor entered or left a relation. -/
structure Attributed (actor : Option User) (there : Option Address) (d d' : Database) : Prop where
  added : ∀ place row, d.find? place = none → d'.find? place = some row → MayAdd actor there row
  removed : ∀ place row, d.find? place = some row → d'.find? place = none → MayRemove actor there row
  kept : ∀ place row later, d.find? place = some row → d'.find? place = some later →
    later.links = row.links
  others : ∀ relation id someone, (∀ user ∈ actor, user.id ≠ someone) →
    d'.isMember relation id someone = d.isMember relation id someone

namespace Attributed

theorem refl (d : Database) : Attributed actor there d d where
  added _ _ absent present := nomatch absent.symm.trans present
  removed _ _ present absent := nomatch absent.symm.trans present
  kept place row later found foundLater := by
    cases found.symm.trans foundLater
    rfl
  others _ _ _ _ := rfl

theorem trans (first : Attributed actor there d d') (second : Attributed actor there d' d'') :
    Attributed actor there d d'' where
  added place row absent present := by
    cases between : d'.find? place with
    | none => exact second.added place row between present
    | some earlier =>
        have made := first.added place earlier absent between
        apply made.of_links
        · exact (find?_eq_some_iff.mp present).2.trans (find?_eq_some_iff.mp between).2.symm
        · exact second.kept place earlier row between present
  removed place row present absent := by
    cases between : d'.find? place with
    | none => exact first.removed place row present between
    | some later =>
        have taken := second.removed place later between absent
        apply taken.of_links
        · exact (find?_eq_some_iff.mp between).2.trans (find?_eq_some_iff.mp present).2.symm
        · exact first.kept place row later present between
  kept place row latest present presentLatest := by
    cases between : d'.find? place with
    | none =>
        have taken := first.removed place row present between
        have made := second.added place latest between presentLatest
        have sameRef := (find?_eq_some_iff.mp presentLatest).2.trans (find?_eq_some_iff.mp present).2.symm
        exact absurd made (taken.not_mayAdd (congrArg Ref.kind sameRef))
    | some later =>
        have early := first.kept place row later present between
        exact (second.kept place later latest between presentLatest).trans early
  others relation id someone other :=
    (second.others relation id someone other).trans (first.others relation id someone other)

/-! ## Single writes -/

/-- Storing a row is attributed to whoever may add it, or changes no link of one that is there. -/
theorem put {row : Row} (new : d.find? row.ref = none → MayAdd actor there row)
    (replaces : ∀ old, d.find? row.ref = some old → row.links = old.links)
    (members : ∀ someone, (∀ user ∈ actor, user.id ≠ someone) → ∀ relation : Relation,
      relation.kind = row.kind →
        (relation.members row).contains someone = d.isMember relation row.id someone) :
    Attributed actor there d (d.put row) where
  added place other absent present := by
    rw [find?_put] at present
    split at present
    · rename_i here
      subst here
      cases present
      exact new absent
    · cases absent.symm.trans present
  removed place other present absent := by
    rw [find?_put] at absent
    split at absent
    · cases absent
    · cases absent.symm.trans present
  kept place other later found foundLater := by
    rw [find?_put] at foundLater
    split at foundLater
    · rename_i here
      subst here
      cases foundLater
      exact replaces other found
    · cases found.symm.trans foundLater
      rfl
  others relation id someone other := isMember_put (members someone other) relation id

/-- A row with the next number is new, and starts without members. -/
theorem store_new {row : Row} (stored : d.store row = .ok d') (next : row.id = d.next row.kind)
    (may : MayAdd actor there row)
    (empty : ∀ relation : Relation, relation.members row = {}) : Attributed actor there d d' := by
  obtain ⟨-, rfl⟩ := store_eq_ok_iff.mp stored
  have new : d.find? row.ref = none := by
    rw [Row.ref, next]
    exact find?_next d row.kind
  apply put
  · exact fun _ => may
  · intro old found
    cases new.symm.trans found
  · intro someone _
    apply contains_members_of_new new
    intro relation
    rw [empty]
    rfl

/-- The actor enters or leaves a relation. -/
theorem put_withMembers {relation : Relation} {id : Nat} {row : Row} {members : Members}
    (found : d.find? ⟨relation.kind, id⟩ = some row)
    (same : ∀ someone, (∀ user ∈ actor, user.id ≠ someone) →
      members.contains someone = (relation.members row).contains someone) :
    Attributed actor there d (d.put (relation.withMembers members row)) := by
  have here : d.find? row.ref = some row := by
    rw [(find?_eq_some_iff.mp found).2]
    exact found
  apply put
  · rw [Relation.ref_withMembers, here]
    nofun
  · rw [Relation.ref_withMembers, here]
    intro old found
    cases found
    exact Relation.links_withMembers
  · intro someone foreign
    exact contains_members_withMembers here (same someone foreign)

/-- An account has neither references nor members. -/
theorem put_account {user account : User} (own : account.id = user.id) :
    Attributed (some user) there d (d.put (.user account)) := by
  apply put
  · exact fun _ => .inr ⟨user, rfl, own⟩
  · intro old found
    obtain ⟨earlier, -, rfl⟩ := Slot.user.find?_eq_some found
    rfl
  · intro someone _ relation kind
    cases relation <;> cases kind

/-- Columns that tie no rows together do not count. -/
theorem of_alike (alike : Alike d d') : Attributed actor there d d' where
  added place row absent present := by
    have same := alike.ties place
    rw [absent, present] at same
    cases same
  removed place row present absent := by
    have same := alike.ties place
    rw [absent, present] at same
    cases same
  kept place row later found foundLater := by
    have same := alike.ties place
    rw [found, foundLater] at same
    exact congrArg Prod.fst (Option.some.inj same)
  others relation id someone _ := by
    have same := alike.ties ⟨relation.kind, id⟩
    unfold isMember
    cases found : d.find? ⟨relation.kind, id⟩ with
    | none =>
        rw [found] at same
        rw [Option.map_eq_none_iff.mp same]
    | some row =>
        rw [found] at same
        obtain ⟨later, foundLater, sameTies⟩ := Option.map_eq_some_iff.mp same
        have kinds : later.kind = row.kind := by
          have here := (find?_eq_some_iff.mp found).2
          exact congrArg Ref.kind ((find?_eq_some_iff.mp foundLater).2.trans here.symm)
        have members : later.members = row.members := congrArg (fun ties => ties.2.1) sameTies
        rw [foundLater, Option.any_some, Option.any_some, Relation.contains_of_members kinds members]

/-- Deleting a row on which nothing depends is attributed to whoever may remove it. -/
theorem delete_leaf {root : Ref} (aside : root.kind.moderated = false)
    (notFile : root.kind ≠ .attachment)
    (may : ∀ row, d.find? root = some row → MayRemove actor there row) :
    Attributed actor there d (d.delete [root]) where
  added place row absent present := by
    rw [find?_delete_leaf aside notFile] at present
    split at present
    · cases present
    · cases absent.symm.trans present
  removed place row present absent := by
    rw [find?_delete_leaf aside notFile] at absent
    split at absent
    · rename_i here
      subst here
      exact may row present
    · cases absent.symm.trans present
  kept place row later found foundLater := by
    rw [find?_delete_leaf aside notFile] at foundLater
    split at foundLater
    · cases foundLater
    · cases found.symm.trans foundLater
      rfl
  others relation id someone _ := (Idle.delete_leaf aside notFile).relations relation id

/-- The squares of a card are added one after another. -/
theorem addAll {cardId : Nat} {places : List (Nat × Nat)} (here : there = some (.card cardId))
    (added : Cells.addAll cardId places d = .ok d') : Attributed actor there d d' := by
  induction places generalizing d with
  | nil =>
      cases added
      exact refl _
  | cons place rest inductionHypothesis =>
      rw [addAll_cons] at added
      cases stored : d.store (.cell { id := d.next .cell, cardId, x := place.1, y := place.2 }) with
      | error =>
          rw [stored] at added
          cases added
      | ok between =>
          rw [stored] at added
          have first : Attributed actor there d between := by
            apply store_new stored rfl here
            intro relation
            cases relation <;> rfl
          exact first.trans (inductionHypothesis added)

/-! ## Deeds -/

/-- Every deed outside the administration is attributed to its actor. -/
theorem of_deed {r : Request} {address : Address} (deed : Deed r actor address d d')
    (outside : ∀ page, address ≠ .admin page) : Attributed actor (some address) d d' := by
  cases deed with
  | registered v now salt _ stored =>
      apply store_new stored rfl (.inl rfl)
      intro relation
      cases relation <;> rfl
  | passwordStored user password found stored | passwordChanged user password _ _ found stored =>
      obtain ⟨-, rfl⟩ := store_eq_ok_iff.mp stored
      exact of_alike (Slot.user.alike_put found rfl rfl)
  | loginNoted user now _ _ => exact of_alike (alike_noteLogin user.id now)
  | cellsFilled card found _ _ added =>
      obtain ⟨-, rfl⟩ := Table.find?_eq_some_iff.mp found
      exact addAll rfl added
  | cardUnblocked card _ found | cardUnblockedByStaff card _ found =>
      exact of_alike (Slot.card.alike_put found rfl rfl)
  | joined row _ found stored =>
      obtain ⟨-, rfl⟩ := store_eq_ok_iff.mp stored
      exact put_withMembers found fun someone foreign => Members.contains_join_of_ne (foreign _ rfl)
  | left row _ _ found stored =>
      obtain ⟨-, rfl⟩ := store_eq_ok_iff.mp stored
      exact put_withMembers found fun someone foreign => Members.contains_leave_of_ne (foreign _ rfl)
  | profileChanged v _ stored =>
      obtain ⟨-, rfl⟩ := store_eq_ok_iff.mp stored
      exact put_account rfl
  | commented _ _ stored | reported _ _ _ stored | wallAdded _ _ _ _ _ stored
  | cardMade _ _ _ stored =>
      apply store_new stored rfl ⟨rfl, _, rfl, rfl⟩
      intro relation
      cases relation <;> rfl
  | noteAdded _ _ _ _ stored =>
      apply store_new stored rfl ⟨⟨_, rfl⟩, _, rfl, rfl⟩
      intro relation
      cases relation <;> rfl
  | fileStored _ _ stored =>
      apply store_new stored rfl ⟨rfl, rfl⟩
      intro relation
      cases relation <;> rfl
  | wallRemoved wall found authorised =>
      apply delete_leaf
      · rfl
      · nofun
      · intro row here
        obtain ⟨stored, foundStored, rfl⟩ := Slot.wall.find?_eq_some here
        cases found.symm.trans foundStored
        obtain ⟨-, rfl⟩ := Table.find?_eq_some_iff.mp found
        exact ⟨rfl, _, rfl, authorised⟩
  | noteRemoved note found authorised =>
      apply delete_leaf
      · rfl
      · nofun
      · intro row here
        obtain ⟨stored, foundStored, rfl⟩ := Slot.profileNote.find?_eq_some here
        cases found.symm.trans foundStored
        obtain ⟨-, rfl⟩ := Table.find?_eq_some_iff.mp found
        exact ⟨rfl, _, rfl, mayDeleteNote_iff.mp authorised⟩
  | cardBlocked card _ _ found stored =>
      obtain ⟨-, rfl⟩ := store_eq_ok_iff.mp stored
      exact of_alike (Slot.card.alike_put found rfl rfl)
  | reportResolved report _ _ found _ stored =>
      obtain ⟨-, rfl⟩ := store_eq_ok_iff.mp stored
      exact of_alike (Slot.cardReport.alike_put found rfl rfl)
  | flagStored flag _ found stored =>
      obtain ⟨-, rfl⟩ := store_eq_ok_iff.mp stored
      exact of_alike (Slot.commentFlag.alike_put found rfl rfl)
  | commentBlocked comment _ found => exact of_alike (Slot.comment.alike_put found rfl rfl)
  | userBanned banned _ found => exact of_alike (Slot.user.alike_put found rfl rfl)
  | cardsOfBanned _ => exact of_alike (alike_blockCardsOf _)
  | commentsOfBanned _ => exact of_alike (alike_blockCommentsOf _)
  | statusChanged | listEdited | listSettled | cardEntered | reportEntered | adminDeleted =>
      exact absurd rfl (outside _)

end Attributed

end Database

end GridCommons.Site

namespace GridCommons

open Site Account Web

/-- Every change that a request to the site makes is attributed to the user it is served as. -/
theorem Step.attributed {step : Step} {r : Request} {w : World} (sends : step.sent? = some r)
    (outside : ∀ page, addressOf r.path ≠ some (.admin page)) :
    Database.Attributed (servedAs r.visitor (nextSecond w)) (addressOf r.path) w.database
      (step.take w).2.database := by
  apply take_keeps (Database.Attributed _ _) .refl .trans sends
  intro body address there d d' deed
  rw [there]
  apply Database.Attributed.of_deed deed
  rintro page rfl
  exact outside page there

/-- Whatever a request outside the administration adds or removes, the user behind it answers for.
This is a stored and active user where the request comes from a client.  Cards, walls, comments,
notes and complaints that are new carry the user, and without one there are only new accounts and
new squares.  Only walls and notes go, each if the user may remove it.  What stays refers to the
same rows, and nobody else enters or leaves a relation. -/
theorem writes_carry_their_actor {step : Step} {r : Request} {w : World} (sends : step.sent? = some r)
    (outside : ∀ page, addressOf r.path ≠ some (.admin page)) :
    let actor := servedAs r.visitor (Step.nextSecond w)
    let before := w.database
    let after := (step.take w).2.database
    (r.visitor.isClient = true → ∀ user ∈ actor,
      before.users.find? user.id = some user ∧ user.isActive = true) ∧
    (∀ place row, before.find? place = none → after.find? place = some row →
      MayAdd actor (addressOf r.path) row) ∧
    (∀ place row, before.find? place = some row → after.find? place = none →
      MayRemove actor (addressOf r.path) row) ∧
    (∀ place row later, before.find? place = some row → after.find? place = some later →
      later.links = row.links) ∧
    ∀ relation id someone, (∀ user ∈ actor, user.id ≠ someone) →
      after.isMember relation id someone = before.isMember relation id someone := by
  have attributed := Step.attributed (w := w) sends outside
  refine ⟨?_, attributed.added, attributed.removed, attributed.kept, attributed.others⟩
  intro client user served
  exact find?_of_servedAs (w := Step.nextSecond w) client served

/-! ### A note on a profile -/

def noteLeft : ProfileNote :=
  { id := 1, profileId := 1, authorId := 2, text := "", createdAt := ⟨0⟩ }

/-- Two users with the note between them, the owner of the profile signed in from a browser. -/
def noteSite : World :=
  { now := ⟨0⟩
    database :=
      [.user { id := 1, username := "ann", dateJoined := ⟨0⟩, password := .plain "" },
        .user { id := 2, username := "bob", dateJoined := ⟨0⟩, password := .plain "" },
        .profileNote noteLeft].foldl Database.put {}
    sessions := Table.put {} { key := 1, userId := 1, stamp := .plain "", expires := ⟨100⟩ }
    browsers := [("ann", 1)] }

def removesNote : Request :=
  { method := "POST", path := "/profile/comment/1/delete/", visitor := .browser "ann" }

/-- The owner of the profile removes the note. -/
theorem writes_carry_their_actor_note :
    let after := ((Step.request removesNote).take noteSite).2.database
    noteSite.database.find? ⟨.profileNote, 1⟩ = some (.profileNote noteLeft) ∧
      after.find? ⟨.profileNote, 1⟩ = none ∧
      MayRemove (servedAs removesNote.visitor (Step.nextSecond noteSite)) (addressOf removesNote.path)
        (.profileNote noteLeft) := by
  have there : addressOf removesNote.path = some (.deleteProfileNote 1) := by decide +kernel
  have outside : ∀ page, addressOf removesNote.path ≠ some (.admin page) := by
    intro page same
    cases there.symm.trans same
  have stood : noteSite.database.find? ⟨.profileNote, 1⟩ = some (.profileNote noteLeft) := by
    decide +kernel
  have gone : ((Step.request removesNote).take noteSite).2.database.find? ⟨.profileNote, 1⟩ = none := by
    decide +kernel
  have sends : (Step.request removesNote).sent? = some removesNote := rfl
  have authorised := (writes_carry_their_actor (w := noteSite) sends outside).2.2.1
  exact ⟨stood, gone, authorised _ _ stood gone⟩

end GridCommons
