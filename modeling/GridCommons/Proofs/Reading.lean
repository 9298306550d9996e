import GridCommons.Proofs.Visitor
import GridCommons.Web.Site

/-!
Contract: the operations that only read the database.

Owns: for each check of a form and each page, that it leaves the database alone; and what
a read row or an empty answer says about the database, where an operation goes on to
write.
-/

namespace GridCommons.Form

open Site

/-! ## Checks of forms -/

theorem Registration.anyUser_reads (test : User → Bool) :
    (anyUser test).Reads fun found d => found = d.users.rows.any test := by
  refine Action.rows_reads.then fun users => .pure fun d start => ?_
  rw [start.2]

theorem Registration.freeName_silent (name : Cleaned String) : (freeName name).Silent := by
  cases name with
  | error => exact .pure
  | ok name =>
      refine (anyUser_reads _).silent.bind fun taken => ?_
      split <;> exact .pure

/-- An address that passes is the address of nobody. -/
theorem Registration.freeEmail_reads (email : Cleaned String) :
    (freeEmail email).Reads fun free d =>
      ∀ address, free.value? = some address → ∀ user ∈ d.users.rows, user.email ≠ address := by
  cases email with
  | error => exact .pure fun _ _ _ told => nomatch told
  | ok email =>
      refine (anyUser_reads _).then fun taken => ?_
      split
      · exact .pure fun _ _ _ told => nomatch told
      · rename_i free
        refine .pure fun d start address told user member same => free ?_
        cases told
        rw [start.2]
        exact List.any_eq_true.mpr ⟨user, member, by simpa using same⟩

theorem Registration.storableName_silent (name : Cleaned String) : (storableName name).Silent := by
  cases name with
  | error => exact .pure
  | ok name =>
      dsimp only [storableName]
      split
      · exact .pure
      refine (anyUser_reads _).silent.bind fun taken => ?_
      split <;> exact .pure

/-- A valid registration asks for an address that nobody has. -/
theorem Registration.check_reads (s : Submission) :
    (check s).Reads fun form d =>
      ∀ v, form.valid? = some v → ∀ user ∈ d.users.rows, user.email ≠ v.email := by
  refine Action.platform_silent.then fun platform => ?_
  refine (freeName_silent _).then fun typedName => (freeEmail_reads _).then fun email => ?_
  refine (storableName_silent _).then fun username => .pure fun d start v told => ?_
  simp only [valid?, Option.bind_eq_bind, Option.bind_eq_some_iff] at told
  obtain ⟨_, _, address, cleaned, _, _, _, _, ⟨⟩⟩ := told
  exact start.2 address cleaned

theorem Registration.check_silent (s : Submission) : (check s).Silent :=
  (check_reads s).silent

theorem Profile.freeEmail_silent (owner : Option Nat) (email : Cleaned String) :
    (freeEmail owner email).Silent := by
  cases email with
  | error => exact .pure
  | ok email =>
      refine Action.rows_reads.silent.bind fun users => ?_
      split <;> exact .pure

theorem Profile.check_silent (owner : Option Nat) (s : Submission) : (check owner s).Silent :=
  Action.platform_silent.bind fun _ => (freeEmail_silent owner _).bind fun _ => .pure

end GridCommons.Form

namespace GridCommons.Site

theorem Draft.linkTo_silent (draft : Draft) (relation : String) : (draft.linkTo relation).Silent := by
  unfold linkTo
  split
  · exact .pure
  · exact .fail

theorem Draft.userAt_silent (draft : Draft) (relation : String) : (draft.userAt relation).Silent :=
  (draft.linkTo_silent relation).bind fun id => (Action.load_reads _ id).silent

theorem Draft.cardAt_silent (draft : Draft) (relation : String) : (draft.cardAt relation).Silent :=
  (draft.linkTo_silent relation).bind fun id => (Action.load_reads _ id).silent

theorem Draft.describe_silent (draft : Draft) : draft.describe.Silent := by
  unfold describe
  split
  · exact .pure
  · exact (draft.userAt_silent _).bind fun _ => (draft.userAt_silent _).bind fun _ => .pure
  · exact .pure
  · exact .pure
  · exact (draft.cardAt_silent _).bind fun _ => .pure
  · exact (draft.cardAt_silent _).bind fun _ => .pure
  · exact (draft.userAt_silent _).bind fun _ => (draft.cardAt_silent _).bind fun _ => .pure
  · exact (draft.userAt_silent _).bind fun _ => (draft.cardAt_silent _).bind fun _ => .pure
  · exact (draft.userAt_silent _).bind fun _ => (draft.cardAt_silent _).bind fun _ => .pure
  · exact (draft.userAt_silent _).bind fun _ => (draft.linkTo_silent _).bind fun id =>
      (Action.load_reads _ id).silent.bind fun _ => .pure
  · exact .pure
  · exact (draft.cardAt_silent _).bind fun _ => .pure

/-- Squares that are not there. -/
theorem Cells.present_reads (cardId : Nat) :
    (present cardId).Reads fun found d =>
      (d.cells.rows.any fun cell => cell.cardId == cardId) = found := by
  refine Action.rows_reads.then fun cells => .pure fun d start => ?_
  rw [start.2]

end GridCommons.Site

namespace GridCommons.Web

open Site

/-! ## Pages -/

theorem registrationPage_silent (r : Request) (submitted : Option Form.Submission)
    (complaints : Form.Complaints) : (registrationPage r submitted complaints).Silent :=
  (user_silent r).bind fun _ => .pure

/-- Only an active user gets known by name and password. -/
theorem knownUser_reads (username password : String) :
    (knownUser username password).Reads fun found d =>
      ∀ user, found = some user → d.users.find? user.id = some user ∧ user.isActive = true := by
  refine Action.rows_reads.then fun users => .pure fun d start user found => ?_
  have passed := List.find?_some found
  simp only [Bool.and_eq_true] at passed
  have member := List.mem_of_find?_eq_some found
  rw [start.2] at member
  exact ⟨Table.find?_eq_some_iff.mpr ⟨member, rfl⟩, passed.1.2⟩

theorem refuseLogin_silent (r : Request) (complaints : Form.Complaints) :
    (refuseLogin r complaints).Silent :=
  (Action.notify_silent _ _ _).bind fun _ => .pure

theorem notesOn_silent (user : User) : (notesOn user).Silent :=
  Action.query_reads.silent.bind fun _ => .pure

theorem showProfile_silent (visitor user : User) : (showProfile visitor user).Silent :=
  (notesOn_silent user).bind fun _ => (Action.ofExcept_reads _).silent.bind fun _ => .pure

theorem userNamed_reads (username : String) :
    (userNamed username).Reads fun user d => d.users.find? user.id = some user := by
  refine Action.rows_reads.then fun users => ?_
  refine (Action.require_reads _ _).obeys.weaken (fun _ start => start) fun user d known => ?_
  have member := List.mem_of_find?_eq_some known.2
  rw [known.1.2] at member
  exact Table.find?_eq_some_iff.mpr ⟨member, rfl⟩

theorem showIndex_silent (r : Request) : (showIndex r).Silent :=
  (user_silent r).bind fun _ => Action.rows_reads.silent.bind fun _ => .pure

/-- Only a card that is not blocked is opened. -/
theorem openCard_reads (id : Nat) :
    (openCard id).Reads fun card d => d.cards.find? id = some card ∧ card.isBlocked = false := by
  refine (Action.lookup_reads id).then fun found => ?_
  cases found with
  | none => exact .fail
  | some card =>
      refine .ite (fun _ => .fail) fun unblocked => .pure fun d start => ?_
      exact ⟨start.2 card rfl, by simpa using unblocked⟩

theorem commentsOn_silent (cardId : Nat) : (commentsOn cardId).Silent :=
  Action.query_reads.silent.bind fun _ => .pure

theorem findCards_silent (query : String) : (findCards query).Silent :=
  Action.rows_reads.silent.bind fun _ => .ite (fun _ => .fail) fun _ => .pure

theorem searchCards_silent (r : Request) : (searchCards r).Silent := by
  unfold searchCards
  dsimp only
  refine .ite (fun _ => ?_) fun _ => ?_
  · exact Action.Silent.pure.bind fun _ => .pure
  · exact (findCards_silent _).bind fun _ => .pure

theorem cardState_silent (id : Nat) : (cardState id).Silent := by
  refine (Action.lookup_reads id).silent.bind fun found => ?_
  cases found with
  | none => exact .pure
  | some card => exact Action.rows_reads.silent.bind fun _ => .pure

theorem downloadFile_silent (id : Nat) : (downloadFile id).Silent :=
  (Action.load_reads _ id).silent.bind fun _ => (Action.ofExcept_reads _).silent.bind fun _ =>
    (Action.ofExcept_reads _).silent.bind fun _ => .pure

theorem newCard_silent : newCard.Silent :=
  .pure

/-- The user has no open complaint about the card where none is found. -/
theorem openReports_reads (user : User) (cardId : Nat) :
    (openReports user cardId).Reads fun found d =>
      found = d.cardReports.rows.filter fun report =>
        report.cardId == cardId && report.userId == some user.id && !report.isResolved := by
  have filtered : (do
      let reports ← Action.rows Database.cardReports
      return reports.filter fun report =>
        report.cardId == cardId && report.userId == some user.id && !report.isResolved :
      Action (List CardReport)).Reads fun found d =>
      found = d.cardReports.rows.filter fun report =>
        report.cardId == cardId && report.userId == some user.id && !report.isResolved := by
    refine Action.rows_reads.then fun reports => .pure fun d start => ?_
    rw [start.2]
  refine Action.Obeys.ite (fun _ => ?_) fun _ => filtered
  exact Action.reachable_silent.then fun _ => .fail_bind

/-- A complaint passes only if the user has none about the card that is still open. -/
theorem checkReport_reads (user : User) (cardId : Nat) (g : Grievance) :
    (checkReport user cardId g).Reads fun _ d =>
      ∀ report ∈ d.cardReports.rows, report.cardId = cardId → report.userId = some user.id →
        report.isResolved = true := by
  have none : (do
      if !(← openReports user cardId).isEmpty then
        Action.fail (.invalid ["Вы уже отправляли жалобу на это поле."]) : Action Unit).Reads
      fun _ d => ∀ report ∈ d.cardReports.rows, report.cardId = cardId →
        report.userId = some user.id → report.isResolved = true := by
    refine (openReports_reads user cardId).then fun found => .ite (fun _ => .fail) fun empty => ?_
    refine .pure fun d start report member about from_ => ?_
    have absent : found = [] := by simpa using empty
    rw [absent] at start
    have passed := List.filter_eq_nil_iff.mp start.2.symm report member
    simpa [about, from_] using passed
  unfold checkReport
  dsimp only
  exact Action.Obeys.ite (fun _ => .fail_bind) fun _ => .ite (fun _ => .fail_bind) fun _ => none

theorem reportPage_silent (user : User) (cardId : Nat) (submitted : Option Form.Submission)
    (complaints : Form.Complaints) : (reportPage user cardId submitted complaints).Silent :=
  (Action.load_reads _ _).silent.bind fun _ => (openReports_reads user cardId).silent.bind fun _ =>
    .pure

theorem listOwner_silent (r : Request) (fault : Fault) : (listOwner r fault).Silent :=
  (user_silent r).bind fun _ => (Action.require_reads _ _).silent

theorem profileCards_silent (r : Request) : (profileCards r).Silent := by
  unfold profileCards
  dsimp only
  split
  · exact (listOwner_silent r _).bind fun _ => Action.rows_reads.silent.bind fun _ =>
      Action.Silent.pure.bind fun _ => .pure
  · exact (listOwner_silent r _).bind fun _ => Action.rows_reads.silent.bind fun _ =>
      Action.Silent.pure.bind fun _ => .pure
  · exact (listOwner_silent r _).bind fun _ => Action.rows_reads.silent.bind fun _ =>
      Action.Silent.pure.bind fun _ => .pure
  · exact Action.Silent.pure.bind fun _ => .pure

theorem showPanel_silent : showPanel.Silent :=
  Action.query_reads.silent.bind fun _ => .pure

theorem showReport_silent (id : Nat) : (showReport id).Silent :=
  (Action.load_reads _ id).silent.bind fun _ => Action.query_reads.silent.bind fun _ =>
    (Action.require_reads _ _).silent.bind fun _ => .pure

theorem showCommentFlag_silent (id : Nat) : (showCommentFlag id).Silent :=
  (Action.load_reads _ id).silent.bind fun _ => .fail

theorem pendingReports_silent : pendingReports.Silent :=
  Action.rows_reads.silent.bind fun _ => .pure

theorem showAdminPanel_silent : showAdminPanel.Silent :=
  pendingReports_silent.bind fun _ => .pure

theorem plainPage_silent (name : String) : (plainPage name).Silent :=
  .pure

theorem objectMissing_silent (area : AdminSection) (object : String) :
    (objectMissing area object).Silent :=
  (Action.notify_silent _ _ _).bind fun _ => .pure

theorem adminRow_silent (area : AdminSection) (object : String) : (adminRow area object).Silent := by
  unfold adminRow
  split
  · exact Action.query_reads.silent.bind fun _ => .pure
  · exact .pure

theorem appendSlash_silent (r : Request) : (appendSlash r).Silent := by
  unfold appendSlash
  dsimp only
  split
  · exact .fail
  · exact .fail
  · exact .fail
  · exact .pure

theorem showNotFound_silent (r : Request) : (showNotFound r).Silent :=
  reading_obeys r.method .done

end GridCommons.Web
