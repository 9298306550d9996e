import GridCommons.Proofs.Faults
import GridCommons.Proofs.Keeping

/-!
Contract: what a fault leaves of the sessions, and with them of everything.

Owns:
- the session that asking who a visitor is ends: the one whose user has another password by now;
- actions that end no session but one if a fault ends them, and open none;
- that the operations of the site are such actions, with the outdated session of the visitor as
  the one they may end;
- that a request which a fault ends writes nothing by halves.

Who the visitor is gets asked at most once before a fault, and a session is opened or closed only
when nothing that follows can fail.
-/

namespace GridCommons.Account

open Site

variable {w reached : World}

/-- The session that asking who a visitor is ends: its user has another password by now. -/
def outdated? : Visitor → World → Option Nat
  | .direct _, _ => none
  | .browser name, w => do
    let key ← heldBy name w
    let session ← liveSession? key w
    let user ← sessionUser? session w
    if user.password = session.stamp then none else some key

/-- The sessions are the same, but for one that may be lost. -/
def Lapsed (lost : Option Nat) (w reached : World) : Prop :=
  reached.sessions = w.sessions ∨
    ∃ key, lost = some key ∧ reached.sessions = w.sessions.erase key

theorem outdated?_congr (visitor : Visitor) (database : reached.database = w.database)
    (visits : reached.visits = w.visits) : outdated? visitor reached = outdated? visitor w := by
  simp only [World.visits, Prod.mk.injEq] at visits
  obtain ⟨sessions, browsers, now⟩ := visits
  cases visitor with
  | direct _ => rfl
  | browser name =>
      simp only [outdated?, heldBy, liveSession?, sessionUser?, database, sessions, browsers, now]

/-- Asking who a visitor is ends an outdated session, and no other. -/
theorem currentUser_lapsed (visitor : Visitor) (w : World) :
    Lapsed (outdated? visitor w) w ((currentUser visitor).run w).2 := by
  cases visitor with
  | direct user => exact .inl rfl
  | browser name =>
      simp only [currentUser, Action.run_bind, Action.run_get]
      cases held : heldBy name w with
      | none => exact .inl rfl
      | some key =>
          simp only [Action.run_bind, Action.run_reachable]
          by_cases offline : w.mode = .offline
          · rw [if_pos offline]
            exact .inl rfl
          rw [if_neg offline]
          simp only [Action.run_get]
          cases live : liveSession? key w with
          | none => exact .inl rfl
          | some session =>
              dsimp only
              cases serves : sessionUser? session w with
              | none => exact .inl rfl
              | some user =>
                  dsimp only
                  split
                  · exact .inl rfl
                  rename_i other
                  have outdated : outdated? (.browser name) w = some key := by
                    simp [outdated?, held, live, serves, other]
                  rw [outdated, Action.run_bind, endSession, Action.run_bind, Action.run_writable]
                  cases mode : w.mode with
                  | ok => exact .inr ⟨key, rfl, rfl⟩
                  | readOnly | offline => exact .inl rfl

end GridCommons.Account

namespace GridCommons.Site.Action

open Account

variable {α β : Type} {action other : Action α} {next : α → Action β}
  {lost : World → Option Nat} {visitor : Visitor}

/-- If a fault ends the action, it opened no session, and ended none but one that may be lost. -/
def Lapses (lost : World → Option Nat) (action : Action α) : Prop :=
  ∀ w fault, (action.run w).1 = .error fault → Lapsed (lost w) w (action.run w).2

theorem Keeps.lapses (keeps : action.Keeps World.visits) : action.Lapses lost :=
  fun w _ _ => .inl (congrArg Prod.fst (keeps w))

theorem Undone.lapses (undone : action.Undone) : action.Lapses lost :=
  fun w fault fails => .inl (congrArg World.sessions (undone w fault fails))

theorem Lapses.ite {condition : Prop} [Decidable condition] (holds : action.Lapses lost)
    (fails : other.Lapses lost) : (if condition then action else other).Lapses lost := by
  split
  · exact holds
  · exact fails

theorem Lapses.then_sure (lapses : action.Lapses lost) (rest : ∀ a, (next a).Sure) :
    (action >>= next).Lapses lost := by
  intro w fault fails
  rw [run_bind] at fails ⊢
  rcases ran : action.run w with ⟨failure | a, reached⟩
  · have before := lapses w failure (congrArg Prod.fst ran)
    rw [ran] at before
    exact before
  · obtain ⟨b, last, ends⟩ := rest a reached
    simp [ran, ends] at fails

/-- What keeps the visits may come first, if it leaves the same session to be lost. -/
theorem Keeps.lapsed_bind {w : World} {fault : Fault} (keeps : action.Keeps World.visits)
    (same : lost (action.run w).2 = lost w)
    (rest : ∀ a reached, action.run w = (.ok a, reached) → ((next a).run reached).1 = .error fault →
      Lapsed (lost reached) reached ((next a).run reached).2)
    (fails : ((action >>= next).run w).1 = .error fault) :
    Lapsed (lost w) w ((action >>= next).run w).2 := by
  have sessions : (action.run w).2.sessions = w.sessions := congrArg Prod.fst (keeps w)
  rw [run_bind] at fails ⊢
  rcases ran : action.run w with ⟨_ | a, reached⟩
  · rw [ran] at sessions
    exact .inl sessions
  · rw [ran] at sessions same fails
    have after := rest a reached ran fails
    rwa [Lapsed, same, sessions] at after

theorem Keeps.lapses_bind (keeps : action.Keeps World.visits)
    (rest : ∀ a, (next a).Lapses fun _ => none) : (action >>= next).Lapses fun _ => none :=
  fun _ fault fails => keeps.lapsed_bind rfl (fun a reached _ => rest a reached fault) fails

/-- What follows a read may rely on it. -/
theorem Reads.lapses_bind {fact : α → Database → Prop} (reads : action.Reads fact)
    (keeps : action.Keeps World.visits)
    (rest : ∀ a w fault, fact a w.database → ((next a).run w).1 = .error fault →
      Lapsed (outdated? visitor w) w ((next a).run w).2) :
    (action >>= next).Lapses (outdated? visitor) := by
  intro w fault fails
  have same := outdated?_congr visitor (reads.unchanged w) (keeps w)
  refine keeps.lapsed_bind same (fun a reached ran => rest a reached fault ?_) fails
  have value := (reads w trivial).2 a (congrArg Prod.fst ran)
  rwa [ran] at value

theorem Silent.lapses_bind (silent : action.Silent) (keeps : action.Keeps World.visits)
    (rest : ∀ a, (next a).Lapses (outdated? visitor)) :
    (action >>= next).Lapses (outdated? visitor) :=
  Reads.lapses_bind silent keeps fun a w fault _ => rest a w fault

/-- Once the visitor is known, no more session may be lost. -/
theorem currentUser_lapses_bind {next : Option User → Action β}
    (rest : ∀ user, (next user).Lapses fun _ => none) :
    (currentUser visitor >>= next).Lapses (outdated? visitor) := by
  intro w fault fails
  have asked := currentUser_lapsed visitor w
  rw [run_bind] at fails ⊢
  rcases ran : (currentUser visitor).run w with ⟨_ | user, reached⟩
  · rw [ran] at asked
    exact asked
  · rw [ran] at asked fails
    rcases rest user reached fault fails with same | ⟨_, none, -⟩
    · rw [Lapsed, same]
      exact asked
    · cases none

end GridCommons.Site.Action

namespace GridCommons.Web

open Site Form Account

variable {r : Request} {user : User} {id : Nat}

section Guards

variable {lost : World → Option Nat} {next : User → Action Reply} {action other : Action Reply}

theorem signedIn_lapses (rest : ∀ user, (next user).Lapses fun _ => none) :
    (Guard.signedIn r next).Lapses (outdated? r.visitor) := by
  refine Action.currentUser_lapses_bind fun user => ?_
  cases user with
  | none => exact Action.Keeps.pure.lapses
  | some user => exact rest user

theorem staff_lapses (rest : ∀ user, (next user).Lapses fun _ => none) :
    (Guard.staff r next).Lapses (outdated? r.visitor) := by
  refine Action.currentUser_lapses_bind fun user => ?_
  cases user with
  | none => exact Action.Keeps.pure.lapses
  | some user => exact .ite (rest user) Action.Keeps.pure.lapses

theorem staffOrForbidden_lapses (rest : ∀ user, (next user).Lapses fun _ => none) :
    (Guard.staffOrForbidden r next).Lapses (outdated? r.visitor) := by
  refine Action.currentUser_lapses_bind fun user => ?_
  cases user with
  | none => exact Action.Keeps.fail.lapses
  | some user => exact .ite (rest user) Action.Keeps.fail.lapses

theorem submission_lapses (rest : ∀ user, (next user).Lapses fun _ => none) :
    (submission r next).Lapses (outdated? r.visitor) :=
  .ite (signedIn_lapses rest) Action.Keeps.pure.lapses

theorem unlessSignedIn_lapses (rest : action.Lapses fun _ => none) :
    (unlessSignedIn r action).Lapses (outdated? r.visitor) := by
  refine Action.currentUser_lapses_bind fun user => ?_
  cases user with
  | none => exact rest
  | some user => exact .ite Action.Keeps.fail.lapses Action.Keeps.pure.lapses

theorem dispatch_lapses {m : Methods} (method : String)
    (each : ∀ action, m.get = some action ∨ m.post = some action ∨ m.put = some action →
      action.Lapses lost) : (m.dispatch method).Lapses lost := by
  rcases dispatch_cases m method with chosen | ⟨reply, -, refused⟩
  · exact each _ (chosen.imp_right (.imp_left And.left))
  · rw [refused]
    exact Action.Keeps.pure.lapses

theorem reading_lapses (method : String) (shows : action.Lapses lost) :
    ((Methods.reading action).dispatch method).Lapses lost := by
  apply dispatch_lapses
  rintro action (found | found | found) <;> cases found
  exact shows

theorem form_lapses (method : String) (shows : action.Lapses lost) (takes : other.Lapses lost) :
    ((Methods.form action other).dispatch method).Lapses lost := by
  apply dispatch_lapses
  rintro action (found | found | found) <;> cases found
  · exact shows
  · exact takes
  · exact takes

theorem settled_lapses (rest : action.Lapses lost) : (settled r action).Lapses lost := by
  intro w fault fails
  obtain ⟨failure, ended⟩ := fails_of_settled fails
  rw [state_settled]
  exact rest w failure ended

end Guards

/-! ## Accounts -/

theorem registrationPage_lapses (submitted : Option Submission) (complaints : Complaints) :
    (registrationPage r submitted complaints).Lapses (outdated? r.visitor) :=
  Action.currentUser_lapses_bind fun _ => Action.Keeps.pure.lapses

theorem register_lapses : (register r).Lapses (outdated? r.visitor) := by
  refine (Registration.check_reads_name _).lapses_bind (Registration.check_keeps _) ?_
  intro form w fault free fails
  cases valid : form.valid? with
  | none =>
      simp only [valid] at fails ⊢
      exact registrationPage_lapses _ _ w fault fails
  | some v =>
      simp only [valid] at fails ⊢
      by_cases stores : w.mode = .ok ∧ inRange w.database.users.next = true
      · obtain ⟨reached, ends⟩ := stored_registration_answers (r := r) stores.1 stores.2 (free v valid)
        rw [ends] at fails
        cases fails
      · -- the first write is refused, and nothing follows it
        obtain ⟨failure, refused⟩ := Registration.save_refused (v := v) stores
        have kept : (Registration.save v).Keeps World.visits := Registration.save_keeps v
        rw [Action.state_bind_of_error refused]
        exact .inl (congrArg Prod.fst (kept w))

theorem login_lapses : (login r).Lapses fun _ => none := by
  unfold login
  dsimp only
  split
  · refine (knownUser_keeps _ _).lapses_bind fun found => ?_
    cases found with
    | none => exact (refuseLogin_keeps r _).lapses
    | some user =>
        exact (signIn_undone _ _).lapses.then_sure fun _ => (Action.notify_sure _ _ _).bind fun _ => .pure
  · exact (refuseLogin_keeps r _).lapses

theorem changePassword_lapses (done : String) : (changePassword r user done).Lapses fun _ => none := by
  refine Action.platform_keeps.lapses_bind fun platform => ?_
  split
  · exact (plainPage_keeps _).lapses
  refine (Action.load_keeps _ _ _).lapses_bind fun owner => ?_
  exact (storedPassword_keeps _).lapses_bind fun password =>
    (storePassword_undone _ _).lapses

/-- Where the session cannot be ended, nothing was changed. -/
theorem signOut_lapses (visitor : Visitor) : (signOut visitor).Lapses (outdated? visitor) := by
  refine Action.currentUser_lapses_bind fun _ => ?_
  cases visitor with
  | direct _ => exact Action.Keeps.pure.lapses
  | browser name =>
      intro w fault fails
      simp only [Action.run_bind, Action.run_get] at fails ⊢
      cases held : heldBy name w with
      | none => exact .inl rfl
      | some key =>
          simp only [held, endSession, Action.run_bind, Action.run_writable] at fails ⊢
          cases mode : w.mode with
          | ok =>
              rw [mode] at fails
              cases fails
          | readOnly | offline => exact .inl rfl

theorem serveAccount_lapses (page : AccountPage) :
    (serveAccount r page).Lapses (outdated? r.visitor) := by
  have still : ∀ name, (serveAccount.still r name).Keeps World.visits :=
    fun name => reading_keeps _ (plainPage_keeps name)
  cases page with
  | login => exact unlessSignedIn_lapses (form_lapses _ Action.Keeps.pure.lapses login_lapses)
  | logout =>
      apply dispatch_lapses
      rintro action (found | found | found) <;> cases found
      exact (signOut_lapses _).then_sure fun _ => .pure
  | passwordChange =>
      exact signedIn_lapses fun _ => form_lapses _ (plainPage_keeps _).lapses (changePassword_lapses _)
  | passwordChangeDone => exact signedIn_lapses fun _ => (still _).lapses
  | passwordReset => exact (form_keeps _ (plainPage_keeps _) (askForReset_keeps r)).lapses
  | passwordResetConfirm _ _ => exact (plainPage_keeps _).lapses
  | passwordResetDone | passwordResetComplete => exact (still _).lapses

/-! ## Cards -/

theorem showCard_lapses : (showCard r id).Lapses (outdated? r.visitor) := by
  have shows : ∀ card, (showFilled r id card).Lapses (outdated? r.visitor) := fun card =>
    Action.currentUser_lapses_bind fun _ => (Action.Keeps.bind (commentsOn_keeps id) fun _ => .pure).lapses
  refine (openCard_reads id).silent.lapses_bind (openCard_keeps id) fun card => ?_
  refine (Cells.present_reads id).silent.lapses_bind (present_keeps id) fun present => ?_
  refine .ite ?_ (shows card)
  show (Cells.fill card >>= fun _ => showFilled r id card).Lapses _
  unfold Cells.fill
  dsimp only
  split
  · exact (Action.commit_bind_undone fun w writes => showFilled_answers r id card writes).lapses
  · exact Action.Silent.pure.lapses_bind .pure fun _ => shows card

theorem profileCards_lapses : (profileCards r).Lapses (outdated? r.visitor) := by
  have owned : ∀ fault (next : User → Action Reply), (∀ user, (next user).Keeps World.visits) →
      (listOwner r fault >>= next).Lapses (outdated? r.visitor) := by
    intro fault next keeps
    rw [listOwner, bind_assoc]
    exact Action.currentUser_lapses_bind fun _ => (Action.Keeps.bind (.require _ _) keeps).lapses
  unfold profileCards
  dsimp only
  split
  · exact owned _ _ fun _ => .bind (Action.rows_keeps _) fun _ => .pure
  · exact owned _ _ fun _ => .bind (Action.rows_keeps _) fun _ => .pure
  · exact owned _ _ fun _ => .bind (Action.rows_keeps _) fun _ => .pure
  · exact Action.Keeps.pure.lapses

/-! ## Serving -/

/-- At every address of the site, a fault opens no session and ends none but an outdated one. -/
theorem serveAddress_lapses {address : Address} (site : ∀ page, address ≠ .admin page) :
    (serveAddress r address).Lapses (outdated? r.visitor) := by
  cases address with
  | admin page => exact absurd rfl (site page)
  | index =>
      exact reading_lapses _ (Action.currentUser_lapses_bind fun _ =>
        (Action.Keeps.bind (Action.rows_keeps _) fun _ => .pure).lapses)
  | registration => exact form_lapses _ (registrationPage_lapses _ _) register_lapses
  | login => exact serveAccount_lapses .login
  | account page => exact serveAccount_lapses page
  | card id => exact reading_lapses _ showCard_lapses
  | logout => exact (signOut_lapses _).then_sure fun _ => .pure
  | profileCards => exact reading_lapses _ profileCards_lapses
  | search | cardState | about | goals | download | docs | unblock =>
      refine Action.Keeps.lapses ?_
      grind [serveAddress, dispatch_keeps]
  | profileUpdate | reportCard | ownProfile | profile | addProfileNote | deleteProfileNote | createCard =>
      refine signedIn_lapses fun _ => Action.Keeps.lapses ?_
      grind [newCard]
  | toggleLike | toggleFavorite | toggleCommentLike | reportComment | addComment | addWall | removeWall =>
      refine submission_lapses fun _ => Action.Keeps.lapses ?_
      grind
  | moderation | resolveCardReport | resolveCommentReport =>
      refine staffOrForbidden_lapses fun _ => Action.Keeps.lapses ?_
      grind [dispatch_keeps]
  | block | unblockAsStaff =>
      refine staff_lapses fun _ => Action.Keeps.lapses ?_
      grind [dispatch_keeps]

theorem serve_lapses (site : ∀ page, addressOf r.path ≠ some (.admin page)) :
    (serve r).Lapses (outdated? r.visitor) := by
  unfold serve
  split
  · exact (reading_keeps _ .pure).lapses
  · rename_i address there
    exact settled_lapses (serveAddress_lapses fun page same => site page (same ▸ there))

section Unlisted

variable {γ : Type} {part : World → γ} [Aside part]

theorem blockable?_keeps {content : String} {b : Blockable} (known : blockable? content = some b)
    (id : Nat) : (b.block id).Keeps part ∧
      ∀ unblock, b.unblock = some unblock → (unblock id).Keeps part := by
  unfold blockable? at known
  split at known <;> cases known
  · refine ⟨.fail, ?_⟩
    rintro _ ⟨⟩
    grind [Moderation.safeUnblockCard]
  · refine ⟨by grind [Moderation.safeBlockComment], ?_⟩
    rintro _ ⟨⟩
    exact .fail
  · refine ⟨by grind [Moderation.safeBan], ?_⟩
    rintro _ ⟨⟩

theorem moderateContent_keeps (r : Request) (content : String) (id : Nat) :
    (moderateContent r content id).Keeps part := by
  have tells : ∀ b operation done, operation.Keeps part → (tellingOutcome b operation done).Keeps part := by
    grind [tellingOutcome]
  unfold moderateContent
  cases known : blockable? content with
  | none => exact fun _ => rfl
  | some b =>
      obtain ⟨blocks, unblocks⟩ : (b.block id).Keeps part ∧ _ := blockable?_keeps known id
      simp only [Action.require, pure_bind]
      split
      · refine .bind Action.query_keeps fun _ => .bind (.require _ _) fun _ => ?_
        split
        · exact tells b _ _ blocks
        · rename_i unblock _ has
          exact tells b _ _ (unblocks unblock has)
        · grind [contentPanel]
      · exact fun _ => rfl

/-- Where the visitor is handed in, the sessions are never touched. -/
theorem callUnlisted_keeps {handed : Option User}
    (direct : r.visitor = .direct handed) (place : Unlisted) : (callUnlisted r place).Keeps part := by
  have asks : r.user.Keeps part := by
    rw [Request.user, direct]
    exact .pure
  cases place with
  | blockContent content id =>
      have moderates : (moderateContent r content id).Keeps part := moderateContent_keeps r content id
      refine staff_keeps r asks fun _ => .bind (.attempt moderates) fun outcome => ?_
      cases outcome <;> grind [contentPanel]
  | _ => grind [callUnlisted, showNotFound, pendingReports]

end Unlisted

end GridCommons.Web

namespace GridCommons

open Site Account Web

variable {step : Step} {w : World}

theorem Step.act_unlisted_spares {place : Unlisted} {username : Option String} {r : Request}
    {d : Database} (other : ∀ content id, place ≠ .blockContent content id) :
    (Step.unlisted place username r).act.Spares d :=
  (maybeUser_silent username).spares_bind fun _ =>
    (callUnlisted_spares other).then_sure fun _ => .pure

/-- What serving the request of a step comes to, if the step is not answered. -/
theorem Step.fails_of_unanswered {r arrived : Request} (sends : step.sent? = some r)
    (unanswered : step.reply? w = none)
    (delivers : step.delivered? (Step.nextSecond w) = some arrived) :
    ∃ body fault, arrived = { r with body } ∧
      ((serve arrived).run (Step.nextSecond w)).1 = .error fault := by
  obtain ⟨body, rfl⟩ := Step.delivered?_eq_some delivers sends
  have fails := Option.bind_eq_none_iff.mp unanswered _ delivers
  rcases ran : ((serve { r with body }).run (Step.nextSecond w)).1 with fault | reply
  · exact ⟨body, fault, rfl, rfl⟩
  · rw [ran] at fails
    cases fails

theorem Step.act_unlisted_keeps {γ : Type} {part : World → γ} [Aside part] (place : Unlisted)
    (username : Option String) (r : Request) : (Step.unlisted place username r).act.Keeps part := by
  have named : (Step.maybeUser username).Keeps part := by grind [Step.maybeUser, Step.userNamed]
  exact .bind named fun _ => .bind (callUnlisted_keeps rfl place) fun _ => .pure

/-- A request to the site that a fault ends has changed no row, and has stored none but the file of
a card for which no number was left.  It has opened no session, and has ended none but the one of
its own browser whose user has another password by now.  A direct call that a fault ends has
changed nothing, unless it was to block content, and it never touches a session. -/
theorem fault_leaves_no_half_write (sound : w.database.Referential) :
    (step.FromClient → step.ToSite → step.reply? w = none →
      (step.take w).2.database =
          w.database.putIf ((step.effect? strandedFile? w).map .attachment) ∧
        ((step.take w).2.sessions = w.sessions ∨
          ∃ key, step.effect? (fun r => outdated? r.visitor) w = some key ∧
            (step.take w).2.sessions = w.sessions.erase key)) ∧
      ∀ place username r fault, step = .unlisted place username r →
        (step.take w).1.answer = .error fault →
          ((step.take w).2.database = w.database ∨ ∃ content id, place = .blockContent content id) ∧
            (step.take w).2.sessions = w.sessions := by
  constructor
  · rintro ⟨r, sends, client⟩ ⟨_, sent, site⟩ unanswered
    cases sends.symm.trans sent
    constructor
    · apply Step.database_take_putIf_arrived sends
      intro arrived delivers
      obtain ⟨body, fault, rfl, fails⟩ := Step.fails_of_unanswered sends unanswered delivers
      exact serve_leaves sound client site fails
    · have seen : (step.take w).2.sessions = _ := Step.seen_take (fun _ _ => rfl) sends w
      rw [seen, Step.effect?]
      cases delivers : step.delivered? (Step.nextSecond w) with
      | none => exact .inl rfl
      | some arrived =>
          obtain ⟨body, fault, rfl, fails⟩ := Step.fails_of_unanswered sends unanswered delivers
          exact serve_lapses (r := { r with body }) site _ fault fails
  · rintro place username r fault rfl fails
    have kept : (Step.unlisted place username r).act.Keeps World.visits :=
      Step.act_unlisted_keeps place username r
    refine ⟨?_, congrArg Prod.fst (kept (Step.nextSecond w))⟩
    by_cases blocks : ∃ content id, place = .blockContent content id
    · exact .inr blocks
    · left
      exact Step.act_unlisted_spares (fun content id same => blocks ⟨content, id, same⟩)
        (Step.nextSecond w) rfl fault fails

/-! ### A site without a number for cards -/

/-- A member of the staff and a user, and a card with the largest number. -/
def fullSite : World :=
  { now := ⟨0⟩
    database :=
      [.user { id := 1, username := "ann", dateJoined := ⟨0⟩, password := .plain "", isStaff := true },
        .user { id := 2, username := "eve", dateJoined := ⟨0⟩, password := .plain "" },
        .card { id := 9223372036854775807, userId := 1, title := "", description := "",
                createdAt := ⟨0⟩, updatedAt := ⟨0⟩ }].foldl Database.put {}
    sessions := Table.put {} { key := 1, userId := 1, stamp := .plain "", expires := ⟨100⟩ }
    browsers := [("ann", 1)] }

def makesCard : Step :=
  .request { method := "POST", path := "/fields/create/", visitor := .browser "ann"
             body := .form
               { texts := [("title", ["m"]), ("description", ["n"]), ("cols", ["3"]), ("rows", ["3"])]
                 files := [("file", { name := "a.txt", data := [104, 105] })] } [] }

def blocksUser : Step :=
  .unlisted (.blockContent "user" 2) (some "ann") { method := "POST", path := "", visitor := .direct none }

/-- The site after the password of the staff was changed elsewhere. -/
def outdatedSite : World :=
  { fullSite with sessions := Table.put {} { key := 1, userId := 1, stamp := .plain "old", expires := ⟨100⟩ } }

def asksForOwn : Step :=
  .request { method := "GET", path := "/api/profile/fields/", visitor := .browser "ann" }

/-- The file is all that stays of the card.  An outdated session does not stay. -/
theorem fault_leaves_no_half_write_file :
    ((makesCard.reply? fullSite).isNone = true ∧
        (makesCard.take fullSite).2.database =
          fullSite.database.put (.attachment { id := 1, name := "a.txt", data := [104, 105], size := 2,
                                               contentType := "text/plain", createdAt := ⟨1⟩ }) ∧
        (makesCard.take fullSite).2.sessions = fullSite.sessions) ∧
      (asksForOwn.reply? outdatedSite).isNone = true ∧
        (asksForOwn.take outdatedSite).2.database = outdatedSite.database ∧
        (asksForOwn.take outdatedSite).2.sessions = outdatedSite.sessions.erase 1 := by
  have sound : ∀ row ∈ fullSite.database.allRows, fullSite.database.linksHold row = true := by
    decide +kernel
  have making : addressOf "/fields/create/" = some .createCard := by decide +kernel
  have asking : addressOf "/api/profile/fields/" = some .profileCards := by decide +kernel
  have uncarded : (makesCard.reply? fullSite).isNone = true := by decide +kernel
  have unlisted : (asksForOwn.reply? outdatedSite).isNone = true := by decide +kernel
  have made := (fault_leaves_no_half_write sound).1 ⟨_, rfl, rfl⟩ ⟨_, rfl, by simp [making]⟩
    (Option.isNone_iff_eq_none.mp uncarded)
  have asked := (fault_leaves_no_half_write (w := outdatedSite) sound).1 ⟨_, rfl, rfl⟩
    ⟨_, rfl, by simp [asking]⟩ (Option.isNone_iff_eq_none.mp unlisted)
  have stranded : makesCard.effect? strandedFile? fullSite =
      some { id := 1, name := "a.txt", data := [104, 105], size := 2, contentType := "text/plain",
             createdAt := ⟨1⟩ } := by decide +kernel
  have current : makesCard.effect? (fun r => outdated? r.visitor) fullSite = none := by decide +kernel
  have nothing : asksForOwn.effect? strandedFile? outdatedSite = none := by decide +kernel
  have outdated : asksForOwn.effect? (fun r => outdated? r.visitor) outdatedSite = some 1 := by
    decide +kernel
  rw [stranded, current] at made
  have ended : (asksForOwn.take outdatedSite).2.sessions.rows.length ≠ outdatedSite.sessions.rows.length := by
    decide +kernel
  rw [nothing, outdated] at asked
  obtain ⟨_, ⟨⟩, erased⟩ := asked.2.resolve_left fun same => ended (by rw [same])
  exact ⟨⟨uncarded, made.1, by simpa using made.2⟩, unlisted, asked.1, erased⟩

/-- A fault may leave a file that was stored, and a user who was blocked by a direct call. -/
theorem faults_leave_file_and_ban :
    ((makesCard.take fullSite).1.answer.isOk = false ∧
        fullSite.database.attachments.rows.length = 0 ∧
        (makesCard.take fullSite).2.database.attachments.rows.length = 1) ∧
      (blocksUser.take fullSite).1.answer.isOk = false ∧
        (fullSite.database.users.find? 2).map User.isActive = some true ∧
        ((blocksUser.take fullSite).2.database.users.find? 2).map User.isActive = some false := by
  decide +kernel

end GridCommons
