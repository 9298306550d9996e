import GridCommons.Proofs.Drafts
import GridCommons.Proofs.Reading

/-!
Contract: what requests do to the database, said once for all of them.

Owns: `Deed`, the single writes that a request may make at an address, with what each
takes to be made: who the request is served as, which rows it goes by, and what is
written.

A request is a run of deeds of one actor at one address.  What requests keep is shown by
going through the deeds; no property of requests looks at an operation again.
-/

namespace GridCommons.Web

open Site Form Account

/-- The relation that an address changes, and the row that keeps it. -/
def Address.relation? : Address → Option (Relation × Nat)
  | .toggleLike id => some (.cardLikes, id)
  | .toggleFavorite id => some (.cardFavorites, id)
  | .toggleCommentLike id => some (.commentLikes, id)
  | .reportComment id => some (.commentReports, id)
  | _ => none

/-- The address is one at which visitors sign in. -/
def Address.signsIn : Address → Bool
  | .registration | .login | .account .login | .admin .login => true
  | _ => false

/-- The address is one at which a user's own password is changed. -/
def Address.changesPassword : Address → Bool
  | .account .passwordChange | .admin .passwordChange => true
  | _ => false

/-- The page of the administration is one on which a single row is entered. -/
def AdminPage.entersRow : AdminPage → Bool
  | .add _ | .change _ _ => true
  | _ => false

/-- A single write of a request that is served as a user, or as nobody, at an address. -/
inductive Deed (r : Request) : Option User → Address → Database → Database → Prop where
  -- whoever sends the request
  | registered {actor : Option User} {d d' : Database} (v : Registration.Valid) (now : Instant)
      (salt : Nat) :
      (∀ user ∈ d.users.rows, user.email ≠ v.email) →
      d.store (.user (Registration.newUser v d.users.next now salt)) = .ok d' →
      Deed r actor .registration d d'
  | passwordStored {actor : Option User} {d d' : Database} (user : User) (password : Password) :
      d.users.find? user.id = some user → d.store (.user { user with password }) = .ok d' →
      Deed r actor .registration d d'
  | loginNoted {actor : Option User} {address : Address} {d : Database} (user : User)
      (now : Instant) :
      address.signsIn = true → d.users.find? user.id = some user →
      Deed r actor address d (noteLogin user.id now d)
  | cellsFilled {actor : Option User} {d d' : Database} {id : Nat} (card : Card) :
      d.cards.find? id = some card → card.isBlocked = false →
      (d.cells.rows.any fun cell => cell.cardId == id) = false →
      Cells.addAll card.id (Cells.places card.cols card.rows) d = .ok d' →
      Deed r actor (.card id) d d'
  | cardUnblocked {actor : Option User} {d : Database} {id : Nat} (card : Card) :
      r.method = "POST" → d.cards.find? id = some card →
      Deed r actor (.unblock "field" id) d (d.put (.card { card with isBlocked := false }))
  -- signed-in users
  | profileChanged {user : User} {d d' : Database} (v : Profile.Valid) :
      (r.visitor.isClient = true → d.users.find? user.id = some user) →
      d.store (.user (Profile.apply v user)) = .ok d' →
      Deed r (some user) .profileUpdate d d'
  | passwordChanged {user : User} {address : Address} {d d' : Database} (owner : User)
      (password : Password) :
      address.changesPassword = true → owner.id = user.id → d.users.find? owner.id = some owner →
      d.store (.user { owner with password }) = .ok d' →
      Deed r (some user) address d d'
  | joined {user : User} {address : Address} {d d' : Database} {relation : Relation} {id : Nat}
      (row : Row) :
      address.relation? = some (relation, id) → d.find? ⟨relation.kind, id⟩ = some row →
      d.store (relation.withMembers ((relation.members row).join user.id) row) = .ok d' →
      Deed r (some user) address d d'
  | left {user : User} {address : Address} {d d' : Database} {relation : Relation} {id : Nat}
      (row : Row) :
      address.relation? = some (relation, id) → relation ≠ .commentReports →
      d.find? ⟨relation.kind, id⟩ = some row →
      d.store (relation.withMembers ((relation.members row).leave user.id) row) = .ok d' →
      Deed r (some user) address d d'
  | commented {user : User} {d d' : Database} {id : Nat} (text : String) (now : Instant) :
      d.store (.comment { id := d.comments.next, cardId := id, authorId := user.id, text,
                          createdAt := now }) = .ok d' →
      Deed r (some user) (.addComment id) d d'
  | reported {user : User} {d d' : Database} {id : Nat} (v : ReportForm.Valid) (now : Instant) :
      (∀ report ∈ d.cardReports.rows, report.cardId = id → report.userId = some user.id →
        report.isResolved = true) →
      d.store (.cardReport { id := d.cardReports.next, cardId := id, userId := some user.id,
                             reason := v.reason, description := some v.description,
                             createdAt := now }) = .ok d' →
      Deed r (some user) (.reportCard id) d d'
  | wallAdded {user : User} {d d' : Database} {room : Option Nat} (w : WallRequest) (card : Card) :
      readWall room r.bytes = .ok w → d.cards.find? card.id = some card → fits w card = true →
      d.store (.wall { id := d.walls.next, cardId := card.id, x := w.x, y := w.y, width := w.width,
                       height := w.height, createdById := user.id }) = .ok d' →
      Deed r (some user) .addWall d d'
  | wallRemoved {user : User} {d : Database} {id : Nat} (wall : Wall) :
      d.walls.find? id = some wall → wall.createdById = user.id ∨ user.isStaff = true →
      Deed r (some user) (.removeWall id) d (d.delete [⟨.wall, id⟩])
  | noteAdded {user : User} {username : String} {d d' : Database} (profile : User) (text : String)
      (now : Instant) :
      d.users.find? profile.id = some profile →
      d.store (.profileNote { id := d.profileNotes.next, profileId := profile.id,
                              authorId := user.id, text, createdAt := now }) = .ok d' →
      Deed r (some user) (.addProfileNote username) d d'
  | noteRemoved {user : User} {d : Database} {id : Nat} (note : ProfileNote) :
      d.profileNotes.find? id = some note → mayDeleteNote user note = true →
      Deed r (some user) (.deleteProfileNote id) d (d.delete [⟨.profileNote, id⟩])
  | fileStored {user : User} {d d' : Database} (file : Upload) (now : Instant) :
      d.store (.attachment { id := d.attachments.next, name := file.name,
                             contentType := file.contentType, data := file.data,
                             size := file.data.length, createdAt := now }) = .ok d' →
      Deed r (some user) .createCard d d'
  | cardMade {user : User} {d d' : Database} (v : CardForm.Valid) (fileId : Option Nat)
      (now : Instant) :
      d.store (.card { id := d.cards.next, userId := user.id, title := v.title,
                       description := v.description, cols := v.cols, rows := v.rows, fileId,
                       createdAt := now, updatedAt := now }) = .ok d' →
      Deed r (some user) .createCard d d'
  -- staff
  | cardBlocked {user : User} {d d' : Database} {id : Nat} (card : Card) (now : Instant) :
      user.isStaff = true → d.cards.find? card.id = some card →
      d.store (.card { card with isBlocked := true, updatedAt := now }) = .ok d' →
      Deed r (some user) (.resolveCardReport id) d d'
  | reportResolved {user : User} {d d' : Database} {id : Nat} (report : CardReport)
      (status : String) :
      user.isStaff = true → d.cardReports.find? id = some report →
      status = "approved" ∨ status = "rejected" ∨ status = report.status ∧ decisionOf r = .other →
      d.store (.cardReport { report with status, isResolved := true }) = .ok d' →
      Deed r (some user) (.resolveCardReport id) d d'
  | flagStored {user : User} {d d' : Database} {id : Nat} (flag : CommentFlag) :
      user.isStaff = true → d.commentFlags.find? id = some flag →
      d.store (.commentFlag flag) = .ok d' →
      Deed r (some user) (.resolveCommentReport id) d d'
  | commentBlocked {user : User} {d : Database} {id : Nat} (comment : Comment) :
      user.isStaff = true → d.comments.find? id = some comment →
      Deed r (some user) (.block "comment" id) d (d.put (.comment { comment with isBlocked := true }))
  | userBanned {user : User} {d : Database} {id : Nat} (banned : User) :
      user.isStaff = true → d.users.find? id = some banned →
      Deed r (some user) (.block "user" id) d (d.put (.user { banned with isActive := false }))
  | cardsOfBanned {user : User} {d : Database} {id : Nat} :
      user.isStaff = true → Deed r (some user) (.block "user" id) d (Moderation.blockCardsOf id d)
  | commentsOfBanned {user : User} {d : Database} {id : Nat} :
      user.isStaff = true → Deed r (some user) (.block "user" id) d (Moderation.blockCommentsOf id d)
  | cardUnblockedByStaff {user : User} {d : Database} {id : Nat} (card : Card) :
      user.isStaff = true → d.cards.find? id = some card →
      Deed r (some user) (.unblockAsStaff "field" id) d
        (d.put (.card { card with isBlocked := false }))
  | statusChanged {user : User} {page : AdminPage} {d d' : Database} (report settled : CardReport) :
      user.isStaff = true → d.cardReports.find? report.id = some report →
      settled = report ∨ (∃ verdict : Verdict, settled = verdict.settle report) →
      d.store (.cardReport settled) = .ok d' →
      Deed r (some user) (.admin page) d d'
  | listEdited {user : User} {area : AdminSection} {d d' : Database} (report : CardReport) :
      user.isStaff = true → (r.submitted.text? "_save").isSome = true →
      d.cardReports.has report.id = true → d.store (.cardReport report) = .ok d' →
      Deed r (some user) (.admin (.list area)) d d'
  | listSettled {user : User} {area : AdminSection} {d : Database} (verdict : Verdict)
      (ids : List Nat) :
      user.isStaff = true → Deed r (some user) (.admin (.list area)) d (settleIn verdict ids d)
  | cardEntered {user : User} {page : AdminPage} {d d' : Database} (card : Card) :
      user.isStaff = true → r.method = "POST" → page.entersRow = true →
      d.cards.has card.id = true ∨ card.id = d.cards.next → d.store (.card card) = .ok d' →
      Deed r (some user) (.admin page) d d'
  | reportEntered {user : User} {page : AdminPage} {d d' : Database} (report : CardReport) :
      user.isStaff = true → r.method = "POST" → page.entersRow = true →
      d.cardReports.has report.id = true ∨ report.id = d.cardReports.next →
      d.store (.cardReport report) = .ok d' →
      Deed r (some user) (.admin page) d d'
  | adminDeleted {user : User} {page : AdminPage} {d : Database} (roots : List Ref) :
      user.isStaff = true → page.entersRow = false → Deed r (some user) (.admin page) d (d.delete roots)

end GridCommons.Web
