import GridCommons.Proofs.Requests
import GridCommons.Proofs.Runs

/-!
Contract: what operations leave alone besides the database.

Owns:
- `Aside`: the parts of the state that no write to the database touches, the mode and the
  visits among them;
- that every operation of the site keeps such a part, if it neither opens nor closes a session,
  and the guards do if asking who the visitor is does.

The rules are tagged for `grind`.  So an operation keeps a part by its definition, once the
operations that it calls do, and the proof does not look at what it does.

Does not own: sessions, which change one such part and keep another, and the administration.
-/

namespace GridCommons.Site

/-- What the state holds of the visits of browsers. -/
def World.visits (w : World) : Table Session × List (String × Nat) × Instant :=
  (w.sessions, w.browsers, w.now)

/-- A part of the state that the database, the notices and the salts are no part of. -/
class Aside {γ : Type} (part : World → γ) : Prop where
  database (w : World) (database : Database) : part { w with database } = part w
  notices (w : World) (notices : List Notice) : part { w with notices } = part w
  nextSalt (w : World) (nextSalt : Nat) : part { w with nextSalt } = part w

instance : Aside World.mode := ⟨fun _ _ => rfl, fun _ _ => rfl, fun _ _ => rfl⟩

instance : Aside World.visits := ⟨fun _ _ => rfl, fun _ _ => rfl, fun _ _ => rfl⟩

end GridCommons.Site

namespace GridCommons.Site.Action

variable {α γ : Type} {part : World → γ} [Numbered α] (table : Database → Table α)

@[grind ←] theorem lookup_keeps (id : Nat) : (lookup table id).Keeps part := by
  grind [lookup]

@[grind ←] theorem load_keeps (fault : Fault) (id : Nat) : (load table fault id).Keeps part := by
  grind [load]

@[grind ←] theorem rows_keeps : (rows table).Keeps part := by
  grind [rows]

@[grind ←] theorem members_keeps (relation : Relation) (id : Nat) :
    (members relation id).Keeps part := by
  grind [members]

variable [Aside part]

@[grind ←] theorem notify_keeps (level : NoticeLevel) (text tags : String) :
    (notify level text tags).Keeps part :=
  .modify fun w => Aside.notices w _

@[grind ←] theorem mutate_keeps (change : Database → Database) : (mutate change).Keeps part :=
  .bind writable_keeps fun _ => .modify fun w => Aside.database w _

@[grind ←] theorem commit_keeps (change : Database → Except Database.Violation Database) :
    (commit change).Keeps part := by
  refine .bind writable_keeps fun _ => .bind .get fun w => ?_
  cases change w.database with
  | ok database => exact .modify fun w => Aside.database w database
  | error violation => exact .fail

@[grind ←] theorem drawSalt_keeps : drawSalt.Keeps part :=
  .bind .get fun _ => .bind (.modify fun w => Aside.nextSalt w _) fun _ => .pure

@[grind ←] theorem save_keeps (row : Row) : (save row).Keeps part := by
  grind [save]

@[grind ←] theorem insert_keeps (kind : Kind) (build : Nat → Row) :
    (insert kind build).Keeps part := by
  grind [insert]

@[grind ←] theorem insertTwice_keeps (kind : Kind) (build : Nat → Row) :
    (insertTwice kind build).Keeps part := by
  grind [insertTwice]

@[grind ←] theorem remove_keeps (place : Ref) : (remove place).Keeps part := by
  grind [remove]

@[grind ←] theorem join_keeps (relation : Relation) (id : Nat) (users : List Nat) :
    (join relation id users).Keeps part := by
  grind [join, changeMembers]

@[grind ←] theorem leave_keeps (relation : Relation) (id user : Nat) :
    (leave relation id user).Keeps part := by
  grind [leave, changeMembers]

@[grind ←] theorem touch_keeps (kind : Kind) (id : Option Nat) (change : Row → Row) :
    (touch kind id change).Keeps part := by
  cases id <;> grind [touch]

end GridCommons.Site.Action

/-! ## Accounts -/

namespace GridCommons.Account

open Site

variable {γ : Type} {part : World → γ} [Aside part]

@[grind ←] theorem storedPassword_keeps (secret : Option String) :
    (storedPassword secret).Keeps part := by
  grind [storedPassword]

@[grind ←] theorem signIn_keeps [Unvisited part] (visitor : Visitor) (user : User) :
    (signIn visitor user).Keeps part := by
  grind [signIn]

end GridCommons.Account

namespace GridCommons.Site.Draft

variable {γ : Type} {part : World → γ} [Aside part]

@[grind ←] theorem storeValues_keeps (kind : Kind) (password : Password) (values : Record)
    (old : Option Row) : (storeValues kind password values old).Keeps part := by
  grind [storeValues]

@[grind ←] theorem insertAs_keeps (password : Option Password) (draft : Draft) :
    (draft.insertAs password).Keeps part := by
  grind [insertAs]

end GridCommons.Site.Draft

namespace GridCommons.Form

open Site

variable {γ : Type} {part : World → γ}

@[grind ←] theorem Registration.check_keeps (s : Submission) :
    (Registration.check s).Keeps part := by
  have asked : ∀ test, (anyUser test).Keeps part := by grind [anyUser]
  have name : ∀ typed, (freeName typed).Keeps part := by rintro (_ | _) <;> grind [freeName]
  have email : ∀ typed, (freeEmail typed).Keeps part := by rintro (_ | _) <;> grind [freeEmail]
  have stored : ∀ typed, (storableName typed).Keeps part := by
    rintro (_ | _) <;> grind [storableName]
  grind [Registration.check]

@[grind ←] theorem Profile.check_keeps (owner : Option Nat) (s : Submission) :
    (Profile.check owner s).Keeps part := by
  have email : ∀ typed, (Profile.freeEmail owner typed).Keeps part := by
    rintro (_ | _) <;> grind [Profile.freeEmail]
  grind [Profile.check]

variable [Aside part]

@[grind ←] theorem Registration.save_keeps (v : Registration.Valid) :
    (Registration.save v).Keeps part := by
  grind [Registration.save]

@[grind ←] theorem Profile.save_keeps (v : Profile.Valid) (user : User) :
    (Profile.save v user).Keeps part := by
  grind [Profile.save]

end GridCommons.Form

namespace GridCommons.Web

open Site Account Form

variable {γ : Type} {part : World → γ} (r : Request) (user : User) (id : Nat)

section Guards

variable {next : User → Action Reply} {action other : Action Reply}

@[grind ←] theorem postOnly_keeps (keeps : action.Keeps part) :
    (Guard.postOnly r action).Keeps part := by
  grind [Guard.postOnly]

theorem dispatch_keeps {m : Methods} (method : String)
    (each : ∀ action, m.get = some action ∨ m.post = some action ∨ m.put = some action →
      action.Keeps part) : (m.dispatch method).Keeps part := by
  rcases dispatch_cases m method with chosen | ⟨reply, -, refused⟩
  · exact each _ (chosen.imp_right (.imp_left And.left))
  · rw [refused]
    exact .pure

@[grind ←] theorem reading_keeps (method : String) (keeps : action.Keeps part) :
    ((Methods.reading action).dispatch method).Keeps part := by
  grind [dispatch_keeps, Methods.reading]

@[grind ←] theorem form_keeps (method : String) (shows : action.Keeps part)
    (takes : other.Keeps part) : ((Methods.form action other).dispatch method).Keeps part := by
  grind [dispatch_keeps, Methods.form]

@[grind ←] theorem signedIn_keeps (asks : r.user.Keeps part) (keeps : ∀ user, (next user).Keeps part) :
    (Guard.signedIn r next).Keeps part := by
  grind [Guard.signedIn]

@[grind ←] theorem staff_keeps (asks : r.user.Keeps part) (keeps : ∀ user, (next user).Keeps part) :
    (Guard.staff r next).Keeps part := by
  grind [Guard.staff]

@[grind ←] theorem staffOrForbidden_keeps (asks : r.user.Keeps part)
    (keeps : ∀ user, (next user).Keeps part) : (Guard.staffOrForbidden r next).Keeps part := by
  grind [Guard.staffOrForbidden]

@[grind ←] theorem submission_keeps (asks : r.user.Keeps part)
    (keeps : ∀ user, (next user).Keeps part) : (submission r next).Keeps part := by
  grind [submission]

@[grind ←] theorem unlessSignedIn_keeps (asks : r.user.Keeps part) (keeps : action.Keeps part) :
    (unlessSignedIn r action).Keeps part := by
  grind [unlessSignedIn]

@[grind ←] theorem recovering_keeps (keeps : action.Keeps part) (recover : Fault → Reply) :
    (recovering action recover).Keeps part := by
  grind [recovering]

end Guards

/-! ## Pages -/

@[grind ←] theorem plainPage_keeps (name : String) : (plainPage name).Keeps part := by
  grind [plainPage]

@[grind ←] theorem knownUser_keeps (username password : String) :
    (knownUser username password).Keeps part := by
  grind [knownUser]

@[grind ←] theorem askForReset_keeps : (askForReset r).Keeps part := by
  grind [askForReset]

@[grind ←] theorem userNamed_keeps (username : String) : (userNamed username).Keeps part := by
  grind [userNamed]

@[grind ←] theorem showProfile_keeps (visitor : User) :
    (showProfile visitor user).Keeps part := by
  grind [showProfile, notesOn]

@[grind ←] theorem openCard_keeps : (openCard id).Keeps part := by
  grind [openCard]

@[grind ←] theorem commentsOn_keeps : (commentsOn id).Keeps part := by
  grind [commentsOn]

@[grind ←] theorem present_keeps : (Cells.present id).Keeps part := by
  grind [Cells.present]

@[grind ←] theorem findCards_keeps (query : String) : (findCards query).Keeps part := by
  grind [findCards]

@[grind ←] theorem searchCards_keeps : (searchCards r).Keeps part := by
  grind [searchCards]

@[grind ←] theorem cardState_keeps : (cardState id).Keeps part := by
  grind [cardState]

@[grind ←] theorem downloadFile_keeps : (downloadFile id).Keeps part := by
  grind [downloadFile]

@[grind ←] theorem openReports_keeps : (openReports user id).Keeps part := by
  grind [openReports]

@[grind ←] theorem reportPage_keeps (submitted : Option Submission) (complaints : Complaints) :
    (reportPage user id submitted complaints).Keeps part := by
  grind [reportPage]

@[grind ←] theorem showPanel_keeps : showPanel.Keeps part := by
  grind [showPanel]

@[grind ←] theorem showReport_keeps : (showReport id).Keeps part := by
  grind [showReport]

@[grind ←] theorem showCommentFlag_keeps : (showCommentFlag id).Keeps part := by
  grind [showCommentFlag]

/-! ## Operations that write -/

variable [Aside part]

@[grind ←] theorem refuseLogin_keeps (complaints : Complaints) :
    (refuseLogin r complaints).Keeps part := by
  grind [refuseLogin]

@[grind ←] theorem updateProfile_keeps : (updateProfile r user).Keeps part := by
  grind [updateProfile]

@[grind ←] theorem addNote_keeps (username : String) : (addNote r user username).Keeps part := by
  grind [addNote]

@[grind ←] theorem deleteNote_keeps : (deleteNote user id).Keeps part := by
  grind [deleteNote]

@[grind ←] theorem toggle_keeps (relation : Relation) :
    (toggle relation id user).Keeps part := by
  grind [toggle]

@[grind ←] theorem toggleLike_keeps : (toggleLike user id).Keeps part := by
  grind [toggleLike]

@[grind ←] theorem toggleFavorite_keeps : (toggleFavorite user id).Keeps part := by
  grind [toggleFavorite]

@[grind ←] theorem toggleCommentLike_keeps : (toggleCommentLike user id).Keeps part := by
  grind [toggleCommentLike]

@[grind ←] theorem reportComment_keeps : (reportComment user id).Keeps part := by
  grind [reportComment]

@[grind ←] theorem addComment_keeps : (addComment r user id).Keeps part := by
  refine recovering_keeps (.bind Action.platform_keeps fun _ => .bind (.ofExcept _) fun text => ?_) _
  split
  · exact .pure
  split
  · exact .pure
  refine .bind (Action.load_keeps _ _ _) fun card => ?_
  split <;> grind

@[grind ←] theorem fill_keeps (card : Card) : (Cells.fill card).Keeps part := by
  grind [Cells.fill]

@[grind ←] theorem storeCard_keeps (v : CardForm.Valid) : (storeCard user v).Keeps part := by
  grind [storeCard]

@[grind ←] theorem makeCard_keeps : (makeCard r user).Keeps part := by
  grind [makeCard]

@[grind ←] theorem makeReport_keeps : (makeReport r user id).Keeps part := by
  have checks : ∀ said, (checkReport user id said).Keeps part := by grind [checkReport]
  have stores : ∀ v, (storeReport user id v).Keeps part := by grind [storeReport]
  grind [makeReport]

@[grind ←] theorem addWall_keeps : (addWall r user).Keeps part := by
  have card : ∀ v, (wallCard v).Keeps part := by
    intro v
    refine .bind (.ofExcept _) fun number => ?_
    split
    · exact Action.lookup_keeps _ _
    · exact .pure
  refine recovering_keeps (.bind Action.platform_keeps fun _ => ?_) _
  refine .bind (.ofExcept _) fun wall => .bind (card _) fun found => ?_
  cases found <;> grind

@[grind ←] theorem removeWall_keeps : (removeWall user id).Keeps part := by
  grind [removeWall]

@[grind ←] theorem resolveReport_keeps : (resolveReport r id).Keeps part := by
  have blocks : ∀ card, (Moderation.blockCard card).Keeps part := by grind [Moderation.blockCard]
  refine .bind (Action.load_keeps _ _ _) fun report => ?_
  cases decisionOf r <;> grind [tellIgnored]

@[grind ←] theorem resolveCommentFlag_keeps : (resolveCommentFlag r id).Keeps part := by
  grind [resolveCommentFlag, tellIgnored]

@[grind ←] theorem tellingFaults_keeps {action : Action Unit} (keeps : action.Keeps part) :
    (tellingFaults action).Keeps part := by
  grind [tellingFaults]

@[grind ←] theorem ban_keeps (banned : Option Nat) : (Moderation.ban banned).Keeps part := by
  cases banned <;> grind [Moderation.ban]

@[grind ←] theorem blockContent_keeps (content : String) :
    (blockContent content id).Keeps part := by
  apply tellingFaults_keeps
  split <;> grind [Moderation.safeBlockComment, Moderation.safeBan]

@[grind ←] theorem unblockContent_keeps (content : String) :
    (unblockContent content id).Keeps part := by
  apply tellingFaults_keeps
  split <;> grind [Moderation.safeUnblockCard]

/-! ## Serving -/

end GridCommons.Web

