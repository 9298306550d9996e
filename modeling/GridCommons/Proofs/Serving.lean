import GridCommons.Proofs.Deed

/-!
Contract: every request is a run of deeds.

Owns:
- for each operation that writes, the deeds it is made of;
- the same for every address, with the user that its guards let pass;
- `serve_deeds`: whatever is requested, the database changes by deeds of the user that
  the request is served as, at the address that its path names.
-/

namespace GridCommons.Web

open Site Form Account

variable {r : Request} {actor : Option User} {before : Database → Prop}

theorem redirect_silent {path : Except Fault String} :
    (Action.ofExcept path >>= fun path => pure (Reply.redirect path)).Silent :=
  (Action.ofExcept_reads path).silent.bind fun _ => .pure

/-! ## Accounts -/

theorem register_deeds : (register r).Obeys (Deed r actor .registration) before fun _ _ => True := by
  refine (Registration.check_reads _).then fun form => ?_
  split
  · exact (registrationPage_silent _ _ _).obeys.forget
  rename_i v checked
  refine Action.Obeys.seq ?_ fun id => (Action.load_reads _ id).then fun user => ?_
  · exact Registration.save_obeys v fun d d' now salt start stored =>
      .registered v now salt (start.2 v checked) stored
  refine Action.Obeys.seq ?_ fun _ => (Action.load_reads _ id).then fun user => ?_
  · exact signIn_obeys r.visitor user fun d now found => .loginNoted user now rfl (Table.find?_self found.2)
  refine (Registration.storedPassword_reads _).silent.then fun password => ?_
  refine Action.Obeys.seq ?_ fun _ => .done
  exact .save fun d d' found stored => .passwordStored user password (Table.find?_self found.2) stored

theorem login_deeds {address : Address} (signsIn : address.signsIn = true) :
    (login r).Obeys (Deed r actor address) before fun _ _ => True := by
  unfold login
  dsimp only
  split
  · refine (knownUser_reads _ _).then fun found => ?_
    cases found with
    | none => exact (refuseLogin_silent _ _).obeys.forget
    | some user =>
        refine Action.Obeys.seq ?_ fun _ => ?_
        · exact signIn_obeys r.visitor user fun d now known =>
            .loginNoted user now signsIn (known.2 user rfl).1
        · exact (Action.notify_silent _ _ _).then fun _ => .done
  · exact (refuseLogin_silent _ _).obeys.forget

theorem updateProfile_deeds {user : User}
    (known : ∀ d, before d → r.visitor.isClient = true → d.users.find? user.id = some user) :
    (updateProfile r user).Obeys (Deed r (some user) .profileUpdate) before fun _ _ => True := by
  refine (Profile.check_silent _ _).then fun form => ?_
  split
  · exact .done
  rename_i v _
  dsimp only
  split
  · exact .done
  refine Action.Obeys.seq ?_ fun _ => .done
  unfold Profile.save
  exact .save fun d d' start stored => .profileChanged v (known d start) stored

theorem changePassword_deeds {user : User} {address : Address} (changes : address.changesPassword = true)
    (done : String) :
    (changePassword r user done).Obeys (Deed r (some user) address) before fun _ _ => True := by
  refine Action.platform_silent.then fun platform => ?_
  split
  · exact (plainPage_silent _).obeys.forget
  refine (Action.load_reads _ _).then fun owner => ?_
  refine (Registration.storedPassword_reads _).silent.then fun password => ?_
  refine Action.Obeys.seq (.save fun d d' start stored => ?_) fun _ => ?_
  · have same : owner.id = user.id := (Table.find?_eq_some_iff.mp start.2).2
    exact .passwordChanged owner password changes same (Table.find?_self start.2) stored
  · exact (giveSession_silent r.visitor _).then fun _ => .done

theorem passwordPage_deeds {user : User} {address : Address} (changes : address.changesPassword = true)
    (done : String) :
    (passwordPage r user done).Obeys (Deed r (some user) address) before fun _ _ => True :=
  form_obeys r.method (plainPage_silent _).obeys.forget (changePassword_deeds changes done)

theorem askForReset_silent : (askForReset r).Silent := by
  refine Action.platform_silent.bind fun platform => ?_
  dsimp only
  split
  · exact plainPage_silent _
  · exact Action.reachable_silent.bind fun _ => .pure

theorem addNote_deeds {user : User} {username : String} :
    (addNote r user username).Obeys (Deed r (some user) (.addProfileNote username)) before
      fun _ _ => True := by
  refine (userNamed_reads username).then fun profile => ?_
  refine .ite (fun _ => .ite (fun _ => ?_) fun _ => redirect_silent.obeys.forget) fun _ => redirect_silent.obeys.forget
  refine Action.now_silent.then fun now => Action.Obeys.seq (.insert fun d d' found stored => ?_) ?_
  · exact .noteAdded profile _ now found.2 stored
  · exact fun _ => (Action.notify_silent _ _ _).then fun _ => redirect_silent.obeys.forget

theorem deleteNote_deeds {user : User} {id : Nat} :
    (deleteNote user id).Obeys (Deed r (some user) (.deleteProfileNote id)) before fun _ _ => True := by
  refine (Action.load_reads _ id).then fun note => ?_
  refine .ite (fun allowed => ?_) fun _ => .done
  refine Action.Obeys.seq (.mutate fun d found => ?_) fun _ => ?_
  · exact .noteRemoved note found.2 allowed
  · exact (Action.notify_silent _ _ _).then fun _ => .done

/-! ## Cards -/

theorem showCard_deeds {id : Nat} :
    (showCard r id).Obeys (Deed r actor (.card id)) before fun _ _ => True := by
  have shown : ∀ (card : Card) (start : Database → Prop), (do
      let user ← r.user
      let among (members : Members) : Bool := (user.map fun u => members.contains u.id).getD false
      return .ofPage (Page.card card (← commentsOn id) (among card.likes) (among card.favorites)) :
      Action Reply).Obeys (Deed r actor (.card id)) start fun _ _ => True :=
    fun card _ => (user_silent r).then fun _ => (commentsOn_silent id).then fun _ =>
      .done
  refine (openCard_reads id).then fun card => (Cells.present_reads id).then fun present => ?_
  refine .ite (fun missing => ?_) fun _ => shown card _
  refine Action.Obeys.seq ?_ fun _ => shown card _
  refine .ite (fun _ => .commit fun d d' start filled => ?_) fun _ => .done
  obtain ⟨⟨-, found, unblocked⟩, absent⟩ := start
  have empty : present = false := by simpa using missing
  exact .cellsFilled card found unblocked (absent.trans empty) filled

theorem storeCard_deeds {user : User} {v : CardForm.Valid} :
    (storeCard user v).Obeys (Deed r (some user) .createCard) before fun _ _ => True := by
  refine Action.now_silent.then fun now => ?_
  have made : ∀ (fileId : Option Nat) (start : Database → Prop), (Action.insertTwice .card fun id =>
      .card { id, userId := user.id, title := v.title, description := v.description,
              cols := v.cols, rows := v.rows, fileId, createdAt := now, updatedAt := now }).Obeys
      (Deed r (some user) .createCard) start fun _ _ => True :=
    fun fileId _ => .insertTwice fun d d' _ stored => .cardMade v fileId now stored
  cases v.file with
  | none => exact made none _
  | some file =>
      refine Action.Obeys.seq ?_ fun fileId => made fileId _
      refine Action.Obeys.seq ?_ fun fileId => .done
      exact .insert fun d d' _ stored => .fileStored file now stored

theorem makeCard_deeds {user : User} :
    (makeCard r user).Obeys (Deed r (some user) .createCard) before fun _ _ => True := by
  unfold makeCard
  dsimp only
  split
  · exact .done
  · exact Action.Obeys.seq storeCard_deeds fun _ => .done

theorem makeReport_deeds {user : User} {id : Nat} :
    (makeReport r user id).Obeys (Deed r (some user) (.reportCard id)) before fun _ _ => True := by
  unfold makeReport
  dsimp only
  split
  · exact (reportPage_silent _ _ _ _).obeys.forget
  rename_i v _
  refine Action.Obeys.seq ?_ fun _ => .done
  refine (checkReport_reads user id _).then fun _ => (Action.load_reads _ id).then fun card => ?_
  refine Action.now_silent.then fun now => .insertTwice fun d d' start stored => ?_
  obtain ⟨⟨-, settled⟩, found⟩ := start
  have same : card.id = id := (Table.find?_eq_some_iff.mp found).2
  rw [same] at stored
  exact .reported v now settled stored

/-! ## Members, comments and walls -/

theorem recovering_obeys {moves : Database → Database → Prop} {action : Action Reply}
    {recover : Fault → Reply} (obeys : action.Obeys moves before fun _ _ => True) :
    (recovering action recover).Obeys moves before fun _ _ => True := by
  refine obeys.attempt.seq fun outcome => ?_
  cases outcome <;> exact .done

theorem join_deeds {user : User} {address : Address} (relation : Relation) (id : Nat)
    (changes : address.relation? = some (relation, id)) :
    (Action.join relation id [user.id]).Obeys (Deed r (some user) address) before
      fun _ _ => True := by
  refine (Action.members_silent relation id).then fun present => ?_
  by_cases fresh : present.contains user.id = true
  · refine .ite (fun some => ?_) fun _ => .done
    simp [fresh] at some
  · refine .ite (fun _ => ?_) fun _ => .done
    refine .changeMembers fun d d' row _ found stored => ?_
    simp only [fresh, List.filter_cons, List.filter_nil] at stored
    exact .joined row changes found stored

theorem toggle_deeds {user : User} {address : Address} (relation : Relation) (id : Nat)
    (changes : address.relation? = some (relation, id)) (toggles : relation ≠ .commentReports) :
    (toggle relation id user).Obeys (Deed r (some user) address) before fun _ _ => True := by
  refine (Action.members_silent relation id).then fun present => ?_
  refine .ite (fun _ => ?_) fun _ => ?_
  · refine Action.Obeys.seq ?_ fun _ => .done
    exact .changeMembers fun d d' row _ found stored => .left row changes toggles found stored
  · exact (join_deeds relation id changes).seq fun _ => .done

theorem toggleLike_deeds {user : User} {id : Nat} :
    (toggleLike user id).Obeys (Deed r (some user) (.toggleLike id)) before fun _ _ => True := by
  refine recovering_obeys ((Action.load_reads _ id).then fun _ => ?_)
  refine (toggle_deeds .cardLikes id rfl (by decide)).seq fun _ => ?_
  exact (Action.members_silent _ id).then fun _ => .done

theorem toggleFavorite_deeds {user : User} {id : Nat} :
    (toggleFavorite user id).Obeys (Deed r (some user) (.toggleFavorite id)) before
      fun _ _ => True := by
  refine (Action.load_reads _ id).then fun _ => ?_
  exact (toggle_deeds .cardFavorites id rfl (by decide)).seq fun _ => .done

theorem toggleCommentLike_deeds {user : User} {id : Nat} :
    (toggleCommentLike user id).Obeys (Deed r (some user) (.toggleCommentLike id)) before
      fun _ _ => True := by
  refine (Action.lookup_reads id).then fun found => ?_
  cases found with
  | none => exact .done
  | some comment =>
      refine (toggle_deeds .commentLikes id rfl (by decide)).seq fun _ => ?_
      exact (Action.members_silent _ id).then fun _ => .done

theorem reportComment_deeds {user : User} {id : Nat} :
    (reportComment user id).Obeys (Deed r (some user) (.reportComment id)) before
      fun _ _ => True := by
  refine (Action.lookup_reads id).then fun found => ?_
  cases found with
  | none => exact .done
  | some comment =>
      refine (join_deeds .commentReports id rfl).seq fun _ => ?_
      exact (Action.members_silent _ id).then fun _ => .done

theorem addComment_deeds {user : User} {id : Nat} :
    (addComment r user id).Obeys (Deed r (some user) (.addComment id)) before fun _ _ => True := by
  refine recovering_obeys (Action.platform_silent.then fun platform => ?_)
  refine (Action.ofExcept_reads _).then fun text => ?_
  refine .ite (fun _ => .done) fun _ => ?_
  refine .ite (fun _ => .done) fun _ => ?_
  refine (Action.load_reads _ id).then fun card => ?_
  cases text with
  | broken _ => exact .fail
  | whole s =>
      refine Action.now_silent.then fun now => ?_
      refine Action.Obeys.seq (.insert fun d d' start stored => ?_) fun _ => .done
      have same : card.id = id := (Table.find?_eq_some_iff.mp start.2).2
      rw [same] at stored
      exact .commented s now stored

theorem wallCard_reads (v : Json.Value) :
    (wallCard v).Reads fun found d =>
      ∀ card, found = some card → d.cards.find? card.id = some card := by
  refine (Action.ofExcept_reads _).then fun number => ?_
  split
  · refine (Action.lookup_reads _).obeys.weaken (fun _ start => start) fun found d known card here => ?_
    exact Table.find?_self (known.2 card here)
  · exact .pure fun _ _ _ absent => nomatch absent

theorem addWall_deeds {user : User} :
    (addWall r user).Obeys (Deed r (some user) .addWall) before fun _ _ => True := by
  refine recovering_obeys (Action.platform_silent.then fun platform => ?_)
  refine (Action.ofExcept_reads _).then fun w => (wallCard_reads _).then fun found => ?_
  cases found with
  | none => exact .done
  | some card =>
      refine .ite (fun _ => .done) fun inside => ?_
      refine .ite (fun _ => Action.writable_silent.then fun _ => .fail_bind) fun _ => ?_
      refine Action.Obeys.seq (.insert fun d d' start stored => ?_) fun _ => .done
      obtain ⟨⟨-, read⟩, known⟩ := start
      exact .wallAdded w card read (known card rfl) (by simpa using inside) stored

theorem removeWall_deeds {user : User} {id : Nat} :
    (removeWall user id).Obeys (Deed r (some user) (.removeWall id)) before fun _ _ => True := by
  refine (Action.lookup_reads id).then fun found => ?_
  cases found with
  | none => exact .done
  | some wall =>
      refine .ite (fun _ => .done) fun allowed => ?_
      refine Action.Obeys.seq (.mutate fun d start => ?_) fun _ => .done
      refine .wallRemoved wall (start.2 wall rfl) ?_
      by_cases own : wall.createdById = user.id
      · exact .inl own
      · exact .inr (by simpa [own] using allowed)

/-! ## Moderation -/

theorem resolveReport_deeds {user : User} {id : Nat} (staff : user.isStaff = true) :
    (resolveReport r id).Obeys (Deed r (some user) (.resolveCardReport id)) before
      fun _ _ => True := by
  refine (Action.load_reads _ id).then fun report => ?_
  have resolved : ∀ status, status = "approved" ∨ status = "rejected" ∨
      status = report.status ∧ decisionOf r = .other →
      (do
        Action.save (.cardReport { report with status, isResolved := true })
        return Reply.redirect moderationPath : Action Reply).Obeys
        (Deed r (some user) (.resolveCardReport id))
        (fun d => d.cardReports.find? id = some report) fun _ _ => True := by
    intro status decided
    refine Action.Obeys.seq (.save fun d d' found stored => ?_) fun _ => .done
    exact .reportResolved report status staff found decided stored
  cases decided : decisionOf r with
  | block =>
      simp only [pure_bind]
      refine (Action.load_reads _ report.cardId).then fun card => ?_
      -- the complaint is still what was read once the card is stored
      have blocked : (Moderation.blockCard card).Obeys (Deed r (some user) (.resolveCardReport id))
          (fun d => (before d ∧ d.cardReports.find? id = some report) ∧
            d.cards.find? report.cardId = some card)
          fun _ d => d.cardReports.find? id = some report := by
        refine Action.now_silent.then fun now => .commit_ensuring fun d d' known stored => ?_
        refine ⟨.cardBlocked card now staff (Table.find?_self known.2) stored, ?_⟩
        obtain ⟨-, rfl⟩ := Database.store_eq_ok_iff.mp stored
        exact known.1.2
      exact blocked.bind fun _ => (Action.notify_silent _ _ _).then fun _ => resolved _ (.inl rfl)
  | ignore =>
      simp only [pure_bind]
      refine Action.Silent.then (Action.notify_silent _ _ _) fun _ => ?_
      exact (resolved _ (.inr (.inl rfl))).weaken (fun _ known => known.2) fun _ _ _ => trivial
  | other =>
      simp only [pure_bind]
      exact (resolved _ (.inr (.inr ⟨rfl, decided⟩))).weaken (fun _ known => known.2) fun _ _ _ => trivial

theorem resolveCommentFlag_deeds {user : User} {id : Nat} (staff : user.isStaff = true) :
    (resolveCommentFlag r id).Obeys (Deed r (some user) (.resolveCommentReport id)) before
      fun _ _ => True := by
  refine (Action.load_reads _ id).then fun flag => ?_
  have stored : (do
      Action.save (.commentFlag flag)
      return Reply.redirect moderationPath : Action Reply).Obeys
      (Deed r (some user) (.resolveCommentReport id))
      (fun d => before d ∧ d.commentFlags.find? id = some flag) fun _ _ => True := by
    refine Action.Obeys.seq (.save fun d d' known stored => ?_) fun _ => .done
    exact .flagStored flag staff known.2 stored
  cases decisionOf r with
  | block => exact .fail_bind
  | ignore => exact Action.Silent.then (Action.notify_silent _ _ _) fun _ => stored
  | other => exact stored

theorem tellingFaults_obeys {moves : Database → Database → Prop} {action : Action Unit}
    (obeys : action.Obeys moves before fun _ _ => True) :
    (tellingFaults action).Obeys moves before fun _ _ => True := by
  refine obeys.attempt.seq fun outcome => ?_
  cases outcome with
  | ok _ => exact .done
  | error fault => exact (Action.notify_silent _ _ _).then fun _ => .done

theorem blockContent_deeds {user : User} {content : String} {id : Nat}
    (staff : user.isStaff = true) :
    (blockContent content id).Obeys (Deed r (some user) (.block content id)) before
      fun _ _ => True := by
  refine tellingFaults_obeys ?_
  split
  · exact (Action.load_reads _ id).then fun _ => (Action.notify_silent _ _ _).obeys.forget
  · refine (Action.load_reads _ id).then fun _ => Action.Obeys.seq ?_ fun _ =>
      (Action.notify_silent _ _ _).obeys.forget
    exact Moderation.safeBlockComment_obeys fun d comment found => .commentBlocked comment staff found
  · refine (Action.load_reads _ id).then fun _ => Action.Obeys.seq ?_ fun _ =>
      (Action.notify_silent _ _ _).obeys.forget
    exact Moderation.safeBan_obeys (fun d banned found => .userBanned banned staff found)
      (fun d => .cardsOfBanned staff) fun d => .commentsOfBanned staff
  · exact .fail

/-- Unblocking unblocks a card and nothing else, behind whichever address it stands. -/
theorem unblockContent_obeys {moves : Database → Database → Prop} {content : String} {id : Nat}
    (moved : ∀ d card, content = "field" → d.cards.find? id = some card →
      moves d (d.put (.card { card with isBlocked := false }))) :
    (unblockContent content id).Obeys moves before fun _ _ => True := by
  refine tellingFaults_obeys ?_
  split
  · refine (Action.load_reads _ id).then fun _ => Action.Obeys.seq ?_ fun _ =>
      (Action.notify_silent _ _ _).obeys.forget
    exact Moderation.safeUnblockCard_obeys fun d card found => moved d card rfl found
  · exact (Action.load_reads _ id).then fun _ => (Action.notify_silent _ _ _).obeys.forget
  · exact .fail

/-! ## Administration -/

theorem givenReport_reads (number : Json.Value) :
    (givenReport number).Reads fun found d =>
      ∀ report, found = some report → d.cardReports.find? report.id = some report := by
  refine (Action.ofExcept_reads _).then fun id => ?_
  split
  · refine (Action.lookup_reads _).obeys.weaken (fun _ start => start) fun found d known report here => ?_
    exact Table.find?_self (known.2 report here)
  · exact .pure fun _ _ _ absent => nomatch absent

section Status

variable {moves : Database → Database → Prop}
  (moved : ∀ d d' report settled, d.cardReports.find? report.id = some report →
    settled = report ∨ (∃ verdict : Verdict, settled = verdict.settle report) →
    d.store (.cardReport settled) = .ok d' → moves d d')

include moved

/-- A complaint's status changes by a verdict, or its row is stored as it was. -/
theorem changeStatus_obeys (number : Json.Value) (action : Option String) :
    (changeStatus r number action).Obeys moves before fun _ _ => True := by
  refine (givenReport_reads number).then fun found => ?_
  cases found with
  | none => exact (Action.notify_silent _ _ _).then fun _ => redirect_silent.obeys.forget
  | some report =>
      dsimp only
      split
      · rename_i verdict _
        refine (Action.notify_silent _ _ _).then fun _ => Action.Obeys.seq ?_ fun _ => redirect_silent.obeys.forget
        exact .save fun d d' known stored =>
          moved d d' report _ (known.2 report rfl) (.inr ⟨verdict, rfl⟩) stored
      · refine Action.Obeys.seq ?_ fun _ => redirect_silent.obeys.forget
        exact .save fun d d' known stored =>
          moved d d' report _ (known.2 report rfl) (.inl rfl) stored

theorem moderateReports_obeys : (moderateReports r).Obeys moves before fun _ _ => True := by
  unfold moderateReports
  split
  · refine .ite (fun _ => showAdminPanel_silent.obeys.forget) fun _ => ?_
    exact changeStatus_obeys moved _ _
  · exact showAdminPanel_silent.obeys.forget

end Status

theorem ListAction.run_deeds {user : User} {area : AdminSection} (staff : user.isStaff = true)
    (kind : Kind) (ids : List Nat) (action : ListAction) :
    (action.run kind ids r).Obeys (Deed r (some user) (.admin (.list area))) before
      fun _ _ => True := by
  cases action with
  | settle verdict =>
      refine Action.Obeys.seq (.mutate fun d _ => .listSettled verdict ids staff) fun _ => ?_
      exact Action.Silent.then (Action.notify_silent _ _ _) fun _ => .done
  | delete =>
      refine .ite (fun _ => .done) fun _ => ?_
      refine .ite (fun _ => ?_) fun _ => .done
      refine Action.Obeys.seq (.mutate fun d _ => .adminDeleted _ staff rfl) fun _ => ?_
      exact (Action.notify_silent _ _ _).then fun _ => .done

theorem ListAction.submit_deeds {user : User} {area : AdminSection} (staff : user.isStaff = true)
    (kind : Kind) (shown : List Nat) :
    (submit kind shown r).Obeys (Deed r (some user) (.admin (.list area))) before
      fun _ _ => True := by
  have refused : (submit.refuse r).Obeys (Deed r (some user) (.admin (.list area))) before
      fun _ _ => True :=
    (Action.notify_silent _ _ _).then fun _ => .done
  unfold submit
  split
  · refine .ite (fun _ => ?_) fun _ => refused
    refine .ite (fun _ => run_deeds staff _ _ _) fun _ => ?_
    exact (Action.ofExcept_reads _).then fun _ => run_deeds staff _ _ _
  · exact refused

theorem exists_of_namedRow? {α : Type} [Numbered α] {t : Table α} {submitted : Option String} {row : α}
    (named : namedRow? t submitted = some row) : ∃ id, t.find? id = some row := by
  obtain ⟨text, -, named⟩ := Option.bind_eq_some_iff.mp named
  obtain ⟨number, -, named⟩ := Option.bind_eq_some_iff.mp named
  cases number with
  | ofNat id => exact ⟨id, named⟩
  | negSucc => cases named

/-- The rows of a list that are read from it are those of the database. -/
theorem ReportEdit.has_of_readAll {d : Database} {s : Submission} {edits : List ReportEdit}
    (read : readAll d s = some edits) :
    ∀ edit ∈ edits, ∀ report ∈ edit.report, d.cardReports.has report.id = true := by
  simp only [readAll, Option.bind_eq_bind, Option.bind_eq_some_iff] at read
  obtain ⟨_, -, _, -, ⟨⟩⟩ := read
  intro edit listed report read
  obtain ⟨place, -, rfl⟩ := List.mem_map.mp listed
  simp only [ReportEdit.read, Option.mem_def] at read
  split at read
  · obtain ⟨id, found⟩ := exists_of_namedRow? read
    exact Table.has_iff.mpr ⟨report, Table.find?_self found⟩
  · cases read

theorem ReportEdit.submit_deeds {user : User} {area : AdminSection} (staff : user.isStaff = true)
    (saving : (r.submitted.text? "_save").isSome = true) :
    (submit r).Obeys (Deed r (some user) (.admin (.list area))) before fun _ _ => True := by
  -- the rows that were read stay there while they are stored one after another
  have stored : ∀ (known : Database) (edits : List ReportEdit),
      (∀ edit ∈ edits, ∀ report ∈ edit.report, known.cardReports.has report.id = true) →
      (Action.whole (edits.forM store)).Obeys (Deed r (some user) (.admin (.list area)))
        (fun d => ∀ id, known.cardReports.has id = true → d.cardReports.has id = true)
        fun _ d => ∀ id, known.cardReports.has id = true → d.cardReports.has id = true := by
    intro known edits there
    refine .whole (.forM fun edit listed => ?_)
    unfold store
    split
    · rename_i report read
      refine .commit_ensuring fun d d' stay stored => ?_
      refine ⟨.listEdited _ staff saving ?_ stored, ?_⟩
      · exact stay report.id (there edit listed report read)
      · obtain ⟨-, rfl⟩ := Database.store_eq_ok_iff.mp stored
        intro id had
        obtain ⟨row, found⟩ := Table.has_iff.mp (stay id had)
        refine Table.has_iff.mpr ?_
        rw [show (d.put (.cardReport _)).cardReports = d.cardReports.put _ from rfl, Table.find?_put,
          found]
        split <;> exact ⟨_, rfl⟩
    · exact .commit_ensuring fun d d' _ absent => nomatch absent
  refine Action.query_reads.then fun d => ?_
  split
  · exact .done
  rename_i edits read
  refine .ite (fun _ => ?_) fun _ => .done
  have changes := stored d (edits.filter changed) fun edit listed =>
    has_of_readAll read edit (List.mem_filter.mp listed).1
  refine Action.Obeys.seq (changes.weaken (fun _ start => ?_) fun _ _ _ => trivial) fun _ => ?_
  · exact fun _ had => start.2 ▸ had
  refine .ite (fun _ => ?_) fun _ => .done
  exact (Action.notify_silent _ _ _).then fun _ => .done

theorem Listing.serve_deeds {α : Type} [Numbered α] {user : User} {area : AdminSection}
    (staff : user.isStaff = true) (l : Listing α) :
    (l.serve r).Obeys (Deed r (some user) (.admin (.list area))) before fun _ _ => True := by
  unfold serve
  split
  · exact .done
  dsimp only
  refine .ite (fun _ => (Action.notify_silent _ _ _).then fun _ => ?_) fun _ => ?_
  all_goals
    refine .ite (fun _ => ListAction.submit_deeds staff _ _) fun _ => ?_
    refine .ite (fun _ => ?_) fun _ => ?_
    · exact (Action.notify_silent _ _ _).then fun _ => .done
    refine .ite (fun saves => ?_) fun _ => .done
    have saving : (r.submitted.text? "_save").isSome = true := by simp_all
    refine (ReportEdit.submit_deeds staff saving).seq fun stored => ?_
    exact .ite (fun _ => .done) fun _ => .done

theorem serveList_deeds {user : User} (staff : user.isStaff = true) (area : AdminSection) :
    (serveList r area).Obeys (Deed r (some user) (.admin (.list area))) before fun _ _ => True := by
  cases area with
  | cards => exact Action.query_reads.then fun d => Listing.serve_deeds staff _
  | reports => exact Action.query_reads.then fun d => Listing.serve_deeds staff _
  | groups => exact .done

theorem withObject_obeys {moves : Database → Database → Prop} {next : Row → Action Reply}
    (area : AdminSection) (object : String)
    (rest : ∀ row, (next row).Obeys moves before fun _ _ => True) :
    (withObject area object next).Obeys moves before fun _ _ => True := by
  refine (adminRow_silent area _).then fun found => ?_
  cases found with
  | none => exact (objectMissing_silent area _).obeys.forget
  | some row => exact rest row

theorem deleteObject_deeds {user : User} {page : AdminPage} (staff : user.isStaff = true)
    (apart : page.entersRow = false) (area : AdminSection) (row : Row) :
    (deleteObject r area row).Obeys (Deed r (some user) (.admin page)) before fun _ _ => True := by
  refine .ite (fun _ => (plainPage_silent _).obeys.forget) fun _ => ?_
  refine (Draft.describe_silent _).then fun shown => ?_
  refine Action.Obeys.seq (.mutate fun d _ => .adminDeleted _ staff apart) fun _ => ?_
  exact (Action.notify_silent _ _ _).then fun _ => .done

/-- A card that is entered keeps its number, or gets the next one. -/
theorem id_of_enteredCard {d : Database} {s : Submission} {now : Instant} {old : Option Nat} {card : Card}
    (enters : enteredCard d s now old = .ok (some card)) :
    card.id = ((old.bind d.cards.find?).map Card.id).getD d.cards.next := by
  obtain ⟨likes, -, enters⟩ := bind_eq_ok enters
  obtain ⟨favorites, -, enters⟩ := bind_eq_ok enters
  have enters := Except.ok.inj enters
  simp only [Option.bind_eq_bind, Option.bind_eq_some_iff] at enters
  obtain ⟨_, -, _, -, _, -, _, -, _, -, _, -, _, -, _, -, ⟨⟩⟩ := enters
  rfl

/-- A complaint that is entered keeps its number, or gets the next one. -/
theorem id_of_enteredReport {d : Database} {s : Submission} {now : Instant} {old : Option Nat}
    {report : CardReport} (enters : enteredReport d s now old = some report) :
    report.id = ((old.bind d.cardReports.find?).map CardReport.id).getD d.cardReports.next := by
  simp only [enteredReport, Option.bind_eq_bind, Option.bind_eq_some_iff] at enters
  obtain ⟨_, -, _, -, _, -, _, -, _, -, ⟨⟩⟩ := enters
  rfl

/-- A number that is an old one, if that is a row's, or else the next, is a row's or new. -/
theorem has_or_next {α : Type} [Numbered α] {t : Table α} {old : Option Nat} {id : Nat}
    (same : id = ((old.bind t.find?).map Numbered.id).getD t.next) : t.has id = true ∨ id = t.next := by
  cases found : old.bind t.find? with
  | none =>
      rw [found] at same
      exact .inr same
  | some row =>
      rw [found] at same
      obtain ⟨number, -, found⟩ := Option.bind_eq_some_iff.mp found
      rw [same]
      exact .inl (Table.has_iff.mpr ⟨row, Table.find?_self found⟩)

/-- What a form says is a card or a complaint, one that is there or the next new one. -/
theorem entered_cases {area : AdminSection} {d : Database} {s : Submission} {now : Instant}
    {old : Option Nat} {row : Row} (enters : entered area d s now old = .ok (some row)) :
    (∃ card, row = .card card ∧ (d.cards.has card.id = true ∨ card.id = d.cards.next)) ∨
      ∃ report, row = .cardReport report ∧
        (d.cardReports.has report.id = true ∨ report.id = d.cardReports.next) := by
  cases area with
  | groups => cases enters
  | cards =>
      obtain ⟨checked, read, enters⟩ := bind_eq_ok enters
      obtain ⟨card, rfl, rfl⟩ := Option.map_eq_some_iff.mp (Except.ok.inj enters)
      exact .inl ⟨card, rfl, has_or_next (id_of_enteredCard read)⟩
  | reports =>
      obtain ⟨report, read, rfl⟩ := Option.map_eq_some_iff.mp (Except.ok.inj enters)
      exact .inr ⟨report, rfl, has_or_next (id_of_enteredReport read)⟩

theorem tellStored_silent (area : AdminSection) (row : Row) (path verb : String) :
    (tellStored r area row path verb).Silent := by
  refine .ite (fun _ => plainPage_silent _) fun _ => ?_
  refine (Draft.describe_silent _).bind fun shown => ?_
  refine .ite (fun _ => ?_) fun _ => .ite (fun _ => ?_) fun _ => ?_
  all_goals exact (Action.notify_silent _ _ _).bind fun _ => .pure

theorem serveObject_deeds {user : User} {page : AdminPage} (staff : user.isStaff = true)
    (enters : page.entersRow = true) (area : AdminSection) (old : Option Nat) :
    (serveObject r area old).Obeys (Deed r (some user) (.admin page)) before fun _ _ => True := by
  refine .ite (fun posted => .whole ?_) fun _ => (plainPage_silent _).obeys.forget
  refine Action.query_reads.then fun d => Action.now_silent.then fun now => ?_
  refine (Action.ofExcept_reads _).then fun said => ?_
  cases said with
  | none => exact (plainPage_silent _).obeys.forget
  | some row =>
      refine Action.Obeys.seq (.save fun d d' known stored => ?_) fun _ => ?_
      · obtain ⟨⟨-, rfl⟩, told⟩ := known
        rcases entered_cases told with ⟨card, rfl, place⟩ | ⟨report, rfl, place⟩
        · exact .cardEntered card staff posted enters place stored
        · exact .reportEntered report staff posted enters place stored
      · cases old <;> exact (tellStored_silent area row _ _).obeys.forget

theorem byNumber_obeys {moves : Database → Database → Prop} {next : Action Reply}
    (obeys : next.Obeys moves before fun _ _ => True) :
    (byNumber r next).Obeys moves before fun _ _ => True :=
  .ite (fun _ => obeys) fun _ => .done

theorem refuseNameless_obeys {moves : Database → Database → Prop} {next : Action Reply}
    (area : AdminSection) (obeys : next.Obeys moves before fun _ _ => True) :
    (refuseNameless r area next).Obeys moves before fun _ _ => True :=
  .ite (fun _ => .fail) fun _ => obeys

theorem superuserOnly_obeys {moves : Database → Database → Prop} {next : Action Reply} (user : User)
    (obeys : next.Obeys moves before fun _ _ => True) :
    (superuserOnly user next).Obeys moves before fun _ _ => True :=
  .ite (fun _ => obeys) fun _ => .fail

theorem adminLogin_deeds : (adminLogin r).Obeys (Deed r actor (.admin .login)) before
    fun _ _ => True := by
  unfold adminLogin
  dsimp only
  split
  · refine (knownUser_reads _ _).then fun found => ?_
    split
    · rename_i user passed
      have same : found = some user := (Option.filter_eq_some_iff.mp passed).1
      refine Action.Obeys.seq ?_ fun _ => .done
      exact signIn_obeys r.visitor user fun d now known =>
        .loginNoted user now rfl (known.2 user same).1
    · exact (plainPage_silent _).obeys.forget
  · simp only [pure_bind]
    exact (plainPage_silent _).obeys.forget

theorem adminLoginPage_deeds : (adminLoginPage r).Obeys (Deed r actor (.admin .login)) before
    fun _ _ => True := by
  have shown : ∀ user : Option User, (if (user.map User.isStaff).getD false then
      return .redirect adminPath
      else (Methods.form (plainPage "admin/login.html") (adminLogin r)).dispatch r.method :
      Action Reply).Obeys (Deed r actor (.admin .login)) before fun _ _ => True := by
    refine fun user => .ite (fun _ => .done) fun _ => ?_
    exact form_obeys r.method (plainPage_silent _).obeys.forget adminLogin_deeds
  refine .ite (fun _ => (user_silent r).then shown) fun _ => ?_
  exact Action.Silent.pure.then shown

theorem signOutPage_silent : (signOutPage r).Silent :=
  submission_obeys r.method fun _ => (signOut_silent r.visitor).then fun _ => .done

theorem adminLogout_silent : (adminLogout r).Silent := by
  refine (user_silent r).bind fun user => ?_
  exact .ite (fun _ => signOutPage_silent) fun _ => .pure

/-- Behind the guard of the administration, what each page does. -/
theorem administer_deeds (r : Request) (page : AdminPage) (w : World) :
    Follows (Deed r (servedAs r.visitor w) (.admin page)) (administer r page) w := by
  have guarded : ∀ {next : User → Action Reply},
      (∀ user, user.isStaff = true → (next user).Obeys (Deed r (some user) (.admin page))
        (fun _ => True) fun _ _ => True) →
      Follows (Deed r (servedAs r.visitor w) (.admin page)) (Guard.staff r next) w := by
    intro next obeys
    refine follows_staff fun user served staff => ?_
    rw [served]
    exact (obeys user staff).weaken (fun _ _ => trivial) fun _ _ _ => trivial
  cases page with
  | login => exact .of_obeys adminLoginPage_deeds
  | logout => exact .of_obeys adminLogout_silent.obeys.forget
  | panel =>
      exact guarded fun user staff => moderateReports_obeys fun d d' report settled found how stored =>
        .statusChanged report settled staff found how stored
  | changeStatus id =>
      exact guarded fun user staff => changeStatus_obeys (fun d d' report settled found how stored =>
        .statusChanged report settled staff found how stored) _ _
  | list area => exact guarded fun user staff => superuserOnly_obeys user (serveList_deeds staff area)
  | add area =>
      refine guarded fun user staff => byNumber_obeys (superuserOnly_obeys user ?_)
      exact serveObject_deeds staff rfl area none
  | change area object =>
      refine guarded fun user staff => byNumber_obeys (.ite (fun _ => ?_) fun _ => ?_)
      · exact superuserOnly_obeys user (serveObject_deeds staff rfl area none)
      · refine refuseNameless_obeys area (superuserOnly_obeys user ?_)
        exact withObject_obeys area object fun row => serveObject_deeds staff rfl area (some row.id)
  | delete area object =>
      refine guarded fun user staff => byNumber_obeys (refuseNameless_obeys area ?_)
      exact superuserOnly_obeys user
        (withObject_obeys area object fun row => deleteObject_deeds staff rfl area row)
  | history area object =>
      exact guarded fun user _ => withObject_obeys area object fun _ =>
        superuserOnly_obeys user (plainPage_silent _).obeys.forget
  | object area object => exact guarded fun _ _ => redirect_silent.obeys.forget
  | unknown path => exact guarded fun _ _ => (appendSlash_silent r).obeys.forget
  | applications _ | index => exact guarded fun _ _ => (plainPage_silent _).obeys.forget
  | passwordChange => exact guarded fun _ _ => passwordPage_deeds rfl _
  | passwordChangeDone =>
      exact guarded fun _ _ => reading_obeys r.method (plainPage_silent _).obeys.forget
  | autocomplete | translations | viewOnSite _ _ => exact guarded fun _ _ => .fail

/-! ## Addresses -/

theorem serveAccount_deeds (r : Request) (page : AccountPage) {address : Address} (w : World)
    (signsIn : page = .login → address.signsIn = true)
    (changes : page = .passwordChange → address.changesPassword = true) :
    Follows (Deed r (servedAs r.visitor w) address) (serveAccount r page) w := by
  cases page with
  | login =>
      refine follows_user ?_
      cases servedAs r.visitor w with
      | none => exact form_obeys r.method (.done) (login_deeds (signsIn rfl))
      | some user => exact .ite (fun _ => .fail) fun _ => .done
  | logout => exact .of_obeys signOutPage_silent.obeys.forget
  | passwordChange =>
      refine follows_signedIn fun user served => ?_
      rw [served]
      exact passwordPage_deeds (changes rfl) _
  | passwordChangeDone =>
      exact follows_signedIn fun _ _ => reading_obeys r.method (plainPage_silent _).obeys.forget
  | passwordReset =>
      exact .of_obeys (form_obeys r.method (plainPage_silent _).obeys.forget
        askForReset_silent.obeys.forget)
  | passwordResetDone | passwordResetComplete =>
      exact .of_obeys (reading_obeys r.method (plainPage_silent _).obeys.forget)
  | passwordResetConfirm _ _ => exact .of_obeys (plainPage_silent _).obeys.forget

/-- Only submissions of signed-in users pass. -/
theorem follows_submission {moves : Database → Database → Prop} {next : User → Action Reply}
    {w : World} (rest : ∀ user, servedAs r.visitor w = some user →
      (next user).Obeys moves (· = w.database) fun _ _ => True) :
    Follows moves (submission r next) w := by
  unfold submission Guard.postOnly
  split
  · exact follows_signedIn rest
  · exact .refl

theorem serveAddress_deeds (r : Request) (address : Address) (w : World) :
    Follows (Deed r (servedAs r.visitor w) address) (serveAddress r address) w := by
  have signedIn : ∀ {next : User → Action Reply},
      (∀ user, (next user).Obeys (Deed r (some user) address) (fun _ => True) fun _ _ => True) →
      Follows (Deed r (servedAs r.visitor w) address) (Guard.signedIn r next) w := by
    intro next obeys
    refine follows_signedIn fun user served => ?_
    rw [served]
    exact (obeys user).weaken (fun _ _ => trivial) fun _ _ _ => trivial
  have submitted : ∀ {next : User → Action Reply},
      (∀ user, (next user).Obeys (Deed r (some user) address) (fun _ => True) fun _ _ => True) →
      Follows (Deed r (servedAs r.visitor w) address) (submission r next) w := by
    intro next obeys
    refine follows_submission fun user served => ?_
    rw [served]
    exact (obeys user).weaken (fun _ _ => trivial) fun _ _ _ => trivial
  have moderated : ∀ {next : User → Action Reply},
      (∀ user, user.isStaff = true →
        (next user).Obeys (Deed r (some user) address) (fun _ => True) fun _ _ => True) →
      Follows (Deed r (servedAs r.visitor w) address) (Guard.staffOrForbidden r next) w := by
    intro next obeys
    refine follows_staffOrForbidden fun user served staff => ?_
    rw [served]
    exact (obeys user staff).weaken (fun _ _ => trivial) fun _ _ _ => trivial
  cases address with
  | admin page => exact administer_deeds r page w
  | index => exact .of_obeys (reading_obeys r.method (showIndex_silent r).obeys.forget)
  | profileUpdate =>
      refine follows_signedIn fun user served => ?_
      rw [served]
      refine form_obeys r.method (.done) (updateProfile_deeds ?_)
      rintro d rfl client
      exact (find?_of_servedAs client served).1
  | registration =>
      exact .of_obeys (form_obeys r.method (registrationPage_silent _ _ _).obeys.forget register_deeds)
  | login => exact serveAccount_deeds r .login w (fun _ => rfl) nofun
  | account page =>
      refine serveAccount_deeds r page w ?_ ?_
      all_goals
        rintro rfl
        rfl
  | card id => exact .of_obeys (reading_obeys r.method showCard_deeds)
  | toggleLike id => exact submitted fun _ => toggleLike_deeds
  | toggleFavorite id => exact submitted fun _ => toggleFavorite_deeds
  | search => exact .of_obeys (searchCards_silent r).obeys.forget
  | reportCard id =>
      exact signedIn fun user => form_obeys r.method (reportPage_silent _ _ _ _).obeys.forget
        makeReport_deeds
  | addComment id => exact submitted fun _ => addComment_deeds
  | toggleCommentLike id => exact submitted fun _ => toggleCommentLike_deeds
  | reportComment id => exact submitted fun _ => reportComment_deeds
  | cardState id => exact .of_obeys (cardState_silent id).obeys.forget
  | addWall => exact submitted fun _ => addWall_deeds
  | removeWall id => exact submitted fun _ => removeWall_deeds
  | logout =>
      exact .of_obeys ((signOut_silent r.visitor).then fun _ => .done)
  | about | goals => exact .of_obeys (reading_obeys r.method (.done))
  | ownProfile =>
      exact signedIn fun _ => reading_obeys r.method (showProfile_silent _ _).obeys.forget
  | profile username =>
      exact signedIn fun _ => reading_obeys r.method
        ((userNamed_reads username).then fun _ => (showProfile_silent _ _).obeys.forget)
  | addProfileNote username => exact signedIn fun _ => addNote_deeds
  | deleteProfileNote id => exact signedIn fun _ => deleteNote_deeds
  | createCard =>
      exact signedIn fun _ => form_obeys r.method newCard_silent.obeys.forget makeCard_deeds
  | download id => exact .of_obeys (downloadFile_silent id).obeys.forget
  | moderation =>
      exact moderated fun _ _ => reading_obeys r.method showPanel_silent.obeys.forget
  | resolveCardReport id =>
      refine moderated fun user staff => dispatch_obeys r.method fun action chosen => ?_
      rcases chosen with here | ⟨here, -⟩ | absent
      · cases here
        exact (showReport_silent id).obeys.forget
      · cases here
        exact resolveReport_deeds staff
      · cases absent
  | resolveCommentReport id =>
      refine moderated fun user staff => dispatch_obeys r.method fun action chosen => ?_
      rcases chosen with here | ⟨here, -⟩ | absent
      · cases here
        exact (showCommentFlag_silent id).obeys.forget
      · cases here
        exact resolveCommentFlag_deeds staff
      · cases absent
  | unblock content id =>
      refine .of_obeys (submission_obeys r.method fun posted => ?_)
      refine unblockContent_obeys fun d card field found => ?_
      subst field
      exact .cardUnblocked card posted found
  | block content id =>
      refine follows_staff fun user served staff => ?_
      rw [served]
      exact submission_obeys r.method fun _ => blockContent_deeds staff
  | unblockAsStaff content id =>
      refine follows_staff fun user served staff => ?_
      rw [served]
      refine submission_obeys r.method fun _ => unblockContent_obeys fun d card field found => ?_
      subst field
      exact .cardUnblockedByStaff card staff found
  | profileCards => exact .of_obeys (reading_obeys r.method (profileCards_silent r).obeys.forget)
  | docs =>
      exact .of_obeys (.ite (fun _ => .done) fun _ => .done)

theorem settled_follows {moves : Database → Database → Prop} {action : Action Reply} {w : World}
    (follows : Follows moves action w) : Follows moves (settled r action) w := by
  refine follows.attempt.then_silent fun outcome => ?_
  split
  · exact .pure
  · exact showNotFound_silent r
  · exact showNotFound_silent r
  · exact .pure
  · exact .fail

/-- Whatever is requested, the database changes by deeds of the user that the request is
served as, at the address that its path names. -/
theorem serve_deeds (r : Request) (w : World) :
    Follows (fun d d' => ∃ address, addressOf r.path = some address ∧
      Deed r (servedAs r.visitor w) address d d') (serve r) w := by
  unfold serve
  cases named : addressOf r.path with
  | none => exact .of_obeys (showNotFound_silent r).obeys.forget
  | some address =>
      have follows := settled_follows (r := r) (serveAddress_deeds r address w)
      refine Relation.ReflTransGen.mono (fun d d' deed => ?_) _ _ follows
      exact ⟨address, rfl, deed⟩

end GridCommons.Web
