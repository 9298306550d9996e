import GridCommons.Proofs.Marks
import GridCommons.Proofs.Paths
import GridCommons.Proofs.Registering
import GridCommons.Proofs.Settling
import GridCommons.Proofs.Tiling

/-!
Contract: what stays written when a fault ends a request.

Owns:
- actions that never end with a fault, and actions that leave the database as it was if one
  ends them;
- for each operation of the site, that it spares the database, whatever it stores before the
  fault could come;
- the one operation that does not: making a card with a file leaves the file behind when no
  number is left for the card.

Does not own: sessions, and direct calls that block content, which have no page to go on to.

An operation that stores several rows stores the first only when the later ones can no longer
be refused: the database can be written then, and references hold.
-/

namespace GridCommons.Site.Action

variable {α β : Type} {action : Action α} {next : α → Action β} {d : Database}

/-- The action never ends with a fault. -/
def Sure (action : Action α) : Prop :=
  ∀ w, ∃ a reached, action.run w = (.ok a, reached)

/-- If a fault ends the action, everything is as it was. -/
def Undone (action : Action α) : Prop :=
  ∀ w fault, (action.run w).1 = .error fault → (action.run w).2 = w

/-- If a fault ends the action, the database is as it was. -/
def Spares (action : Action α) (d : Database) : Prop :=
  action.Ends d fun outcome d' => ∀ fault, outcome = .error fault → d' = d

/-- Nothing follows a fault. -/
theorem state_bind_of_error {w : World} {fault : Fault} (fails : (action.run w).1 = .error fault) :
    ((action >>= next).run w).2 = (action.run w).2 := by
  rw [run_bind]
  rcases ran : action.run w with ⟨_ | a, reached⟩
  · rfl
  · rw [ran] at fails
    cases fails

theorem Sure.pure {a : α} : (Pure.pure a : Action α).Sure :=
  fun w => ⟨a, w, rfl⟩

theorem Sure.bind (first : action.Sure) (rest : ∀ a, (next a).Sure) : (action >>= next).Sure := by
  intro w
  obtain ⟨a, reached, ends⟩ := first w
  rw [run_bind, ends]
  exact rest a reached

theorem Sure.ofExcept {result : Except Fault α} {a : α} (known : result = .ok a) :
    (Action.ofExcept result).Sure := by
  subst known
  exact .pure

theorem notify_sure (level : NoticeLevel) (text tags : String) : (notify level text tags).Sure :=
  fun _ => ⟨(), _, rfl⟩

theorem attempt_sure (action : Action α) : (attempt action).Sure :=
  fun _ => ⟨_, _, rfl⟩

theorem Sure.spares (sure : action.Sure) : action.Spares d := by
  intro w _ fault fails
  obtain ⟨a, reached, ends⟩ := sure w
  rw [ends] at fails
  cases fails

theorem Undone.spares (undone : action.Undone) : action.Spares d := by
  rintro w rfl fault fails
  rw [undone w fault fails]

theorem Silent.spares (silent : action.Silent) : action.Spares d := by
  rintro w rfl _ _
  exact silent.unchanged w

/-- What follows a read may rely on it. -/
theorem Reads.spares_bind {fact : α → Database → Prop} (reads : action.Reads fact)
    (rest : ∀ a, fact a d → (next a).Spares d) : (action >>= next).Spares d :=
  reads.ends_bind (fun _ _ _ => rfl) rest

theorem Silent.spares_bind (silent : action.Silent) (rest : ∀ a, (next a).Spares d) :
    (action >>= next).Spares d :=
  Reads.spares_bind silent fun a _ => rest a

/-- Nothing follows a fault. -/
theorem Spares.fail_bind {fault : Fault} : ((fail fault : Action α) >>= next).Spares d :=
  Ends.fail_bind fun _ _ => rfl

/-- Nothing that follows can fail any more. -/
theorem Spares.then_sure (spares : action.Spares d) (rest : ∀ a, (next a).Sure) :
    (action >>= next).Spares d := by
  refine Ends.bind spares (fun fault _ left _ _ => left fault rfl) fun a _ _ w _ fault fails => ?_
  obtain ⟨b, reached, ends⟩ := rest a w
  rw [ends] at fails
  cases fails

theorem Spares.ite {condition : Prop} [Decidable condition] {other : Action α}
    (holds : condition → action.Spares d) (fails : ¬condition → other.Spares d) :
    (if condition then action else other).Spares d :=
  Ends.ite holds fails

section Commits

variable {change : Database → Except Database.Violation Database} {next : Unit → Action β}

/-- A change is undone by a fault if what follows it answers wherever it was made. -/
theorem state_commit_bind {w : World} {fault : Fault}
    (rest : ∀ d', w.mode = .ok → change w.database = .ok d' →
      ∃ b reached, (next ()).run { w with database := d' } = (.ok b, reached))
    (fails : ((commit change >>= next).run w).1 = .error fault) :
    ((commit change >>= next).run w).2 = w := by
  rw [run_bind, run_commit] at fails ⊢
  cases mode : w.mode with
  | ok =>
      cases changed : change w.database with
      | ok d' =>
          obtain ⟨b, reached, ends⟩ := rest d' mode changed
          simp only [mode] at ends
          simp [mode, changed, ends] at fails
      | error violation => rfl
  | readOnly | offline => rfl

/-- What follows a change may rely on the database: it can be written. -/
theorem commit_bind_undone
    (rest : ∀ w, w.mode = .ok → ∃ b reached, (next ()).run w = (.ok b, reached)) :
    (commit change >>= next).Undone :=
  fun _ _ fails => state_commit_bind (fun _ writes _ => rest _ writes) fails

/-- What follows a change may rely on the database: it can be written, and was. -/
theorem commit_spares_bind
    (rest : ∀ w d', w.mode = .ok → change d = .ok d' → w.database = d' →
      ∃ b reached, (next ()).run w = (.ok b, reached)) :
    (commit change >>= next).Spares d := by
  rintro w rfl fault fails
  rw [state_commit_bind (fun d' writes changed => rest _ d' writes changed rfl) fails]

end Commits

theorem commit_spares (change : Database → Except Database.Violation Database) :
    (commit change).Spares d := by
  rintro w rfl fault fails
  rw [run_commit] at fails ⊢
  cases mode : w.mode with
  | ok =>
      cases changed : change w.database with
      | ok d' =>
          rw [mode, changed] at fails
          cases fails
      | error violation => rfl
  | readOnly | offline => rfl

theorem mutate_spares (change : Database → Database) : (mutate change).Spares d := by
  rintro w rfl fault fails
  rw [run_mutate] at fails ⊢
  cases mode : w.mode with
  | ok =>
      rw [mode] at fails
      cases fails
  | readOnly | offline => rfl

theorem save_spares (row : Row) : (save row).Spares d :=
  commit_spares _

theorem insert_spares (kind : Kind) (build : Nat → Row) : (insert kind build).Spares d :=
  get_reads.spares_bind fun _ _ => (commit_spares _).then_sure fun _ => .pure

/-- A row that no constraint forbids is inserted under the next number. -/
theorem run_insert (kind : Kind) (build : Nat → Row) {w : World} (writes : w.mode = .ok)
    (allowed : w.database.violation? (build (w.database.next kind)) = none) :
    (insert kind build).run w =
      (.ok (w.database.next kind),
        { w with database := w.database.put (build (w.database.next kind)) }) := by
  have stored := Database.store_eq_ok_iff.mpr ⟨allowed, rfl⟩
  simp only [insert, run_bind, run_get, run_commit, writes, stored, run_pure]

/-- A row that is refused changes nothing. -/
theorem run_insert_refused (kind : Kind) (build : Nat → Row) {w : World}
    (refused : ¬(w.mode = .ok ∧ w.database.violation? (build (w.database.next kind)) = none)) :
    ∃ fault, (insert kind build).run w = (.error fault, w) := by
  simp only [insert, run_bind, run_get, run_commit]
  cases mode : w.mode with
  | ok =>
      cases stored : w.database.store (build (w.database.next kind)) with
      | ok d' => exact absurd ⟨mode, (Database.store_eq_ok_iff.mp stored).1⟩ refused
      | error violation => exact ⟨_, rfl⟩
  | readOnly | offline => exact ⟨_, rfl⟩

theorem insertTwice_spares (kind : Kind) (build : Nat → Row) : (insertTwice kind build).Spares d :=
  Ends.insertTwice (fun _ _ _ => rfl) fun _ fails => nomatch fails

end GridCommons.Site.Action

/-! ## Accounts -/

namespace GridCommons.Account

open Site

variable {visitor : Visitor} {user : User} {w : World} {d : Database}

/-- While the database can be written, the user of a visitor can be asked for. -/
theorem currentUser_answers (visitor : Visitor) (writes : w.mode = .ok) :
    ∃ user reached, (currentUser visitor).run w = (.ok user, reached) ∧ reached.mode = .ok := by
  cases visitor with
  | direct user => exact ⟨user, w, rfl, writes⟩
  | browser name =>
      have online : w.mode ≠ .offline := by simp [writes]
      simp only [currentUser, Action.run_bind, Action.run_get]
      split
      · exact ⟨none, w, rfl, writes⟩
      simp only [Action.run_bind, Action.run_reachable, online, ↓reduceIte, Action.run_get]
      split
      · exact ⟨none, _, rfl, writes⟩
      split
      · exact ⟨none, w, rfl, writes⟩
      split
      · exact ⟨_, w, rfl, writes⟩
      · rw [Action.run_bind, run_endSession writes]
        exact ⟨none, _, rfl, writes⟩

/-- While the database can be written, a user can sign in. -/
theorem signIn_answers (visitor : Visitor) (user : User) (writes : w.mode = .ok) :
    ∃ reached, (signIn visitor user).run w = (.ok (), reached) ∧ reached.mode = .ok ∧
      reached.database = noteLogin user.id w.now w.database := by
  cases visitor with
  | direct handed =>
      refine ⟨{ w with database := noteLogin user.id w.now w.database }, ?_, writes, rfl⟩
      rw [signIn, Action.run_bind, Action.run_writable_of_ok writes]
      exact Action.run_mutate_of_ok writes _
  | browser name => exact ⟨_, run_signIn writes, writes, rfl⟩

/-- While the database can be written, a session can be given. -/
theorem giveSession_answers (visitor : Visitor) (user : User) (writes : w.mode = .ok) :
    ∃ reached, (giveSession visitor user).run w = (.ok (), reached) := by
  cases visitor with
  | direct handed => exact ⟨w, rfl⟩
  | browser name => exact ⟨_, run_openSession writes⟩

theorem signIn_undone (visitor : Visitor) (user : User) : (signIn visitor user).Undone := by
  intro w fault fails
  by_cases writes : w.mode = .ok
  · obtain ⟨reached, signs, -⟩ := signIn_answers visitor user writes
    rw [signs] at fails
    cases fails
  · rw [signIn, Action.run_bind, Action.run_writable]
    cases mode : w.mode with
    | ok => exact absurd mode writes
    | readOnly | offline => rfl

end GridCommons.Account

namespace GridCommons.Site.Draft

theorem insertAs_spares (password : Option Password) (draft : Draft) (d : Database) :
    (draft.insertAs password).Spares d := by
  refine Action.now_silent.spares_bind fun now => (Action.ofExcept_reads _).silent.spares_bind fun r => ?_
  refine Action.get_reads.silent.spares_bind fun w => .ite (fun _ => ?_) fun _ => ?_
  · exact Action.writable_silent.spares_bind fun _ => .fail_bind
  refine Action.Spares.then_sure ?_ fun _ => .pure
  unfold storeValues
  refine Action.writable_silent.spares_bind fun _ => .ite (fun _ => ?_) fun _ => ?_
  · exact .fail_bind
  split
  · exact Action.Silent.fail.spares
  split
  · exact Action.commit_spares _
  · exact Action.Silent.fail.spares

end GridCommons.Site.Draft

namespace GridCommons.Form.Registration

open Site Account

variable {v : Valid} {w : World}

/-- A name that passes is the name of nobody in its stored form. -/
theorem storableName_reads (name : Cleaned String) :
    (storableName name).Reads fun free d =>
      ∀ typed, free.value? = some typed → ∀ user ∈ d.users.rows, user.username ≠ Username.stored typed := by
  cases name with
  | error => exact .pure fun _ _ _ told => nomatch told
  | ok name =>
      dsimp only [storableName]
      split
      · exact .pure fun _ _ _ told => nomatch told
      refine (anyUser_reads _).then fun taken => ?_
      split
      · exact .pure fun _ _ _ told => nomatch told
      · rename_i free
        refine .pure fun d start typed told user member same => free ?_
        cases told
        rw [start.2]
        exact List.any_eq_true.mpr ⟨user, member, by simpa using same⟩

/-- A valid registration asks for a name that nobody has in its stored form. -/
theorem check_reads_name (s : Submission) :
    (check s).Reads fun form d =>
      ∀ v, form.valid? = some v → ∀ user ∈ d.users.rows, user.username ≠ Username.stored v.username := by
  refine Action.platform_silent.then fun platform => ?_
  refine (freeName_silent _).then fun typed => (freeEmail_reads _).silent.then fun email => ?_
  refine (storableName_reads typed).then fun name => .pure fun d known v valid => ?_
  simp only [valid?, Option.bind_eq_bind, Option.bind_eq_some_iff] at valid
  obtain ⟨stored, told, _, _, _, _, _, _, ⟨⟩⟩ := valid
  exact known.2 stored told

theorem save_spares (v : Valid) (d : Database) : (save v).Spares d :=
  (storedPassword_reads _).silent.spares_bind fun _ => Action.now_silent.spares_bind fun _ =>
    Draft.insertAs_spares _ _ _

/-- A user is stored only in a database that can be written and has a number left. -/
theorem save_refused (refused : ¬(w.mode = .ok ∧ inRange w.database.users.next = true)) :
    ∃ fault, ((save v).run w).1 = .error fault := by
  have taken : ((draft v w.now).stamp w.now true).taken = .ok (("id", .null) :: newValues v w.now) :=
    taken_draft v w.now w.now
  have small : (List.any (("id", Datum.null) :: newValues v w.now) fun entry => entry.2.outOfRange) =
      false := rfl
  have numbered : (Record.get (("id", .null) :: newValues v w.now) "id").asId?.getD
      (w.database.next (draft v w.now).kind) = w.database.users.next := rfl
  rw [run_save_eq]
  simp only [Draft.insertAs, Action.run_bind, Action.run_now, Action.run_get, taken, Action.ofExcept,
    Action.run_pure, small, numbered]
  cases room : inRange w.database.users.next with
  | false =>
      simp only [Bool.not_false, Bool.and_self, ↓reduceIte, Action.run_bind, Action.run_writable]
      cases w.mode <;> exact ⟨_, rfl⟩
  | true =>
      have closed : w.mode ≠ .ok := fun writes => refused ⟨writes, room⟩
      simp only [Bool.not_true, Bool.false_and, Bool.false_eq_true, ↓reduceIte, Draft.storeValues,
        Action.run_bind, Action.run_writable]
      cases mode : w.mode with
      | ok => exact absurd mode closed
      | readOnly | offline => exact ⟨_, rfl⟩

end GridCommons.Form.Registration

namespace GridCommons.Web

open Site Form Account

variable {r : Request} {user : User} {id : Nat} {w : World} {d : Database}

/-- Once a registration is stored, nothing is in the way of signing the user in and of storing
the password again. -/
theorem stored_registration_answers {v : Registration.Valid} (writes : w.mode = .ok)
    (room : inRange w.database.users.next = true)
    (free : ∀ user ∈ w.database.users.rows, user.username ≠ Username.stored v.username) :
    ∃ reached, (do
      let id ← Registration.save v
      signIn r.visitor (← Action.load Database.users (.noRow .user) id)
      let user ← Action.load Database.users (.noRow .user) id
      Action.save (.user { user with password := ← storedPassword (some v.password) })
      return .redirect loginPath : Action Reply).run w = (.ok (.redirect loginPath), reached) := by
  have online : w.mode ≠ .offline := by simp [writes]
  have stored : (Registration.save v).run w = (.ok w.database.users.next, afterStoring v w) :=
    Registration.run_save writes room free
  have loaded : (Action.load Database.users (.noRow .user) w.database.users.next).run (afterStoring v w) =
      (.ok (firstStored v w), afterStoring v w) :=
    Action.run_load online room find?_firstStored
  obtain ⟨signed, signs, stillWrites, noted⟩ :=
    signIn_answers (w := afterStoring v w) r.visitor (firstStored v w) writes
  have found : signed.database.users.find? w.database.users.next = some (whenSignedIn v w) := by
    rw [noted]
    exact @find?_whenSignedIn "" v w
  have loadedAgain : (Action.load Database.users (.noRow .user) w.database.users.next).run signed =
      (.ok (whenSignedIn v w), signed) :=
    Action.run_load (by simp [stillWrites]) room found
  have drawn : (storedPassword (some v.password)).run signed =
      (.ok (.salted v.password signed.nextSalt), { signed with nextSalt := signed.nextSalt + 1 }) := rfl
  have allowed : signed.database.violation? (.user { whenSignedIn v w with
      password := .salted v.password signed.nextSalt }) = none := by
    rw [noted]
    exact @violation?_lastStored "" v w room free
  have saved := Action.run_save (w := { signed with nextSalt := signed.nextSalt + 1 }) stillWrites allowed
  simp only [Action.run_bind, stored, loaded, signs, loadedAgain, drawn, saved, Action.run_pure,
    Prod.mk.injEq, true_and, exists_eq']

theorem register_spares : (register r).Spares d := by
  refine (Registration.check_reads_name _).spares_bind fun form free => ?_
  split
  · exact (registrationPage_silent _ _ _).spares
  rename_i v valid
  -- the later writes cannot be refused where the first is not, so the first decides
  rintro w rfl fault fails
  by_cases stores : w.mode = .ok ∧ inRange w.database.users.next = true
  · obtain ⟨reached, ends⟩ := stored_registration_answers (r := r) stores.1 stores.2 (free v valid)
    rw [ends] at fails
    cases fails
  · obtain ⟨fault, refused⟩ := Registration.save_refused (v := v) stores
    rw [Action.state_bind_of_error refused]
    exact Registration.save_spares v w.database w rfl fault refused

theorem login_spares : (login r).Spares d := by
  unfold login
  dsimp only
  split
  · refine (knownUser_reads _ _).silent.spares_bind fun found => ?_
    cases found with
    | none => exact (refuseLogin_silent _ _).spares
    | some user =>
        exact (signIn_undone _ _).spares.then_sure fun _ => (Action.notify_sure _ _ _).bind fun _ => .pure
  · exact (refuseLogin_silent _ _).spares

/-- Once the password is stored, nothing is in the way of a new session. -/
theorem storePassword_undone (changed : User) (done : String) :
    (Action.save (.user changed) >>= fun _ => do
      giveSession r.visitor changed
      return Reply.redirect done).Undone := by
  refine Action.commit_bind_undone fun w writes => ?_
  obtain ⟨reached, gives⟩ := giveSession_answers r.visitor changed writes
  rw [Action.run_bind, gives]
  exact ⟨_, _, rfl⟩

theorem changePassword_spares (done : String) : (changePassword r user done).Spares d := by
  refine Action.platform_silent.spares_bind fun platform => ?_
  split
  · exact (plainPage_silent _).spares
  refine (Action.load_reads _ _).silent.spares_bind fun owner => ?_
  exact (Registration.storedPassword_reads _).silent.spares_bind fun password => (storePassword_undone _ _).spares

theorem updateProfile_spares : (updateProfile r user).Spares d := by
  refine (Profile.check_silent _ _).spares_bind fun form => ?_
  split
  · exact Action.Sure.pure.spares
  dsimp only
  split
  · exact Action.Sure.pure.spares
  unfold Profile.save
  exact (Action.save_spares _).then_sure fun _ => .pure

theorem addNote_spares {username path : String} (leads : reverse "profile_view" [.text username] = .ok path) :
    (addNote r user username).Spares d := by
  have goesOn : (Action.ofExcept (reverse "profile_view" [.text username]) >>= fun path =>
      pure (Reply.redirect path)).Sure := (Action.Sure.ofExcept leads).bind fun _ => .pure
  refine (userNamed_reads username).silent.spares_bind fun profile => ?_
  refine .ite (fun _ => .ite (fun _ => ?_) fun _ => goesOn.spares) fun _ => goesOn.spares
  refine Action.now_silent.spares_bind fun now => (Action.insert_spares _ _).then_sure fun _ => ?_
  exact (Action.notify_sure _ _ _).bind fun _ => goesOn

theorem deleteNote_spares : (deleteNote user id).Spares d := by
  refine (Action.load_reads _ id).silent.spares_bind fun note => ?_
  refine .ite (fun _ => ?_) fun _ => Action.Sure.pure.spares
  exact (Action.mutate_spares _).then_sure fun _ => (Action.notify_sure _ _ _).bind fun _ => .pure

/-! ## Cards, members and walls -/

/-- While the database can be written, a card with squares can be shown. -/
theorem showFilled_answers (r : Request) (id : Nat) (card : Card) (writes : w.mode = .ok) :
    ∃ reply reached, (showFilled r id card).run w = (.ok reply, reached) := by
  obtain ⟨user, reached, asked, online⟩ := currentUser_answers r.visitor writes
  have asked : r.user.run w = (.ok user, reached) := asked
  have read : Action.query.run reached = (.ok reached.database, reached) :=
    Action.run_query_of_online (by simp [online])
  simp only [showFilled, commentsOn, Action.run_bind, asked, read, Action.run_pure]
  exact ⟨_, _, rfl⟩

theorem showCard_spares : (showCard r id).Spares d := by
  refine (openCard_reads id).silent.spares_bind fun card => ?_
  refine (Cells.present_reads id).silent.spares_bind fun present => ?_
  refine .ite (fun _ => ?_) fun _ => (showFilled_silent r id card).spares
  show (Cells.fill card >>= fun _ => showFilled r id card).Spares d
  unfold Cells.fill
  dsimp only
  split
  · exact Action.commit_spares_bind fun w _ writes _ _ => showFilled_answers r id card writes
  · exact Action.Silent.spares (.bind .pure fun _ => showFilled_silent r id card)

theorem makeReport_spares : (makeReport r user id).Spares d := by
  unfold makeReport
  dsimp only
  split
  · exact (reportPage_silent _ _ _ _).spares
  refine Action.Spares.then_sure ?_ fun _ => .pure
  refine (checkReport_reads user id _).silent.spares_bind fun _ => ?_
  refine (Action.load_reads _ id).silent.spares_bind fun card => ?_
  exact Action.now_silent.spares_bind fun now => Action.insertTwice_spares _ _

theorem recovering_sure (action : Action Reply) (recover : Fault → Reply) :
    (recovering action recover).Sure := by
  refine (Action.attempt_sure action).bind fun outcome => ?_
  cases outcome <;> exact .pure

theorem marking_spares (relation : Relation) : (marking user id relation).Spares d := by
  intro w here fault fails
  rcases marking_marks user id relation d w here with ⟨_, _, _, told⟩ | ⟨-, same⟩
  · rw [told] at fails
    cases fails
  · exact same

theorem removeWall_spares : (removeWall user id).Spares d := by
  refine (Action.lookup_reads id).silent.spares_bind fun found => ?_
  cases found with
  | none => exact Action.Sure.pure.spares
  | some wall =>
      refine .ite (fun _ => Action.Sure.pure.spares) fun _ => ?_
      exact (Action.mutate_spares _).then_sure fun _ => .pure

/-! ## Moderation -/

theorem tellingFaults_sure (action : Action Unit) : (tellingFaults action).Sure := by
  refine (Action.attempt_sure action).bind fun outcome => ?_
  cases outcome with
  | ok _ => exact .pure
  | error fault => exact (Action.notify_sure _ _ _).bind fun _ => .pure

/-- A complaint can still be stored once its card is. -/
theorem violation?_resolved {report : CardReport} (status : String) (row : Row) (sound : d.Referential)
    (found : d.cardReports.find? id = some report) :
    (d.put row).violation? (.cardReport { report with status, isResolved := true }) = none := by
  have here : d.find? ⟨.cardReport, report.id⟩ = some (.cardReport report) :=
    Database.Slot.cardReport.find?_inject (Table.find?_self found)
  have present : (d.put row).has ⟨.cardReport, report.id⟩ = true :=
    Database.has_put_of_has (Database.has_iff.mpr ⟨_, here⟩)
  have holds : d.linksHold (.cardReport report) = true :=
    Database.referential_iff_find?.mp sound _ _ here
  apply (violation?_cardReport present).mpr
  exact Database.linksHold_mono (fun _ => Database.has_put_of_has) holds

theorem resolveReport_spares (sound : d.Referential) : (resolveReport r id).Spares d := by
  refine (Action.load_reads _ id).spares_bind fun report found => ?_
  cases decisionOf r with
  | block =>
      simp only [pure_bind]
      refine (Action.load_reads _ report.cardId).silent.spares_bind fun card => ?_
      unfold Moderation.blockCard
      simp only [bind_assoc]
      -- after the card, the complaint is stored too
      refine Action.now_silent.spares_bind fun now => Action.commit_spares_bind ?_
      intro w d' writes stored here
      obtain ⟨-, rfl⟩ := Database.store_eq_ok_iff.mp stored
      have allowed := violation?_resolved "approved"
        (.card { card with isBlocked := true, updatedAt := now }) sound found
      rw [← here] at allowed
      have saved := Action.run_save (w := { w with notices := w.notices ++ [⟨.success, "Карта заблокирована", ""⟩] })
        writes allowed
      simp only [Action.run_bind, Action.notify, Action.run_modify, saved, Action.run_pure]
      exact ⟨_, _, rfl⟩
  | ignore =>
      simp only [pure_bind]
      refine Action.Silent.spares_bind (Action.notify_silent _ _ _) fun _ => ?_
      exact (Action.save_spares _).then_sure fun _ => .pure
  | other =>
      simp only [pure_bind]
      exact (Action.save_spares _).then_sure fun _ => .pure

theorem resolveCommentFlag_spares : (resolveCommentFlag r id).Spares d := by
  refine (Action.load_reads _ id).silent.spares_bind fun flag => ?_
  have stored : (do
      Action.save (.commentFlag flag)
      return Reply.redirect moderationPath : Action Reply).Spares d :=
    (Action.save_spares _).then_sure fun _ => .pure
  cases decisionOf r with
  | block => exact .fail_bind
  | ignore => exact Action.Silent.spares_bind (Action.notify_silent _ _ _) fun _ => stored
  | other => exact stored

/-! ## Making a card -/

/-- The file of a card, as it is stored. -/
def keptFile (file : Upload) (now : Instant) (id : Nat) : Attachment :=
  { id, name := file.name, contentType := file.contentType, data := file.data,
    size := file.data.length, createdAt := now }

/-- The card that a valid form makes. -/
def madeCard (user : User) (v : CardForm.Valid) (fileId : Option Nat) (now : Instant) (id : Nat) : Card :=
  { id, userId := user.id, title := v.title, description := v.description, cols := v.cols,
    rows := v.rows, fileId, createdAt := now, updatedAt := now }

/-- The file that stays behind without its card: it is stored, and no number is left for the
card. -/
def strandedBy? (s : Submission) (w : World) : Option Attachment := do
  let v ← (CardForm.check s).valid?
  let file ← v.file
  if w.mode = .ok ∧ inRange w.database.attachments.next = true ∧
      inRange w.database.cards.next = false then
    some (keptFile file w.now w.database.attachments.next)
  else none

/-- The file that a request leaves behind without its card. -/
def strandedFile? (r : Request) (w : World) : Option Attachment :=
  if r.method ∈ ["POST", "PUT"] ∧ addressOf r.path = some .createCard then
    (servedAs r.visitor w).bind fun _ => strandedBy? r.submitted w
  else none

/-- A file is refused only if no number is left for it. -/
theorem violation?_keptFile (file : Upload) (now : Instant) :
    d.violation? (.attachment (keptFile file now d.attachments.next)) = none ↔
      inRange d.attachments.next = true := by
  have sized : ¬(keptFile file now d.attachments.next).size < 0 :=
    Int.not_lt.mpr (Int.natCast_nonneg file.data.length)
  refine Database.violation?_new (Database.has_next d .attachment) ?_ rfl rfl
  simp [Database.outOfRange?, sized]

/-- No card has the file that is stored next, where references hold. -/
theorem fileId_ne_next {card : Card} (sound : d.Referential) (member : card ∈ d.cards.rows) :
    card.fileId ≠ some d.attachments.next := by
  intro keeps
  have holds := (Database.linksHold_iff.mp (sound (.card card) ((Database.Slot.card.mem_allRows).mpr member))).1
  have present := holds ⟨⟨.attachment, d.attachments.next⟩, .forget⟩ (by simp [Row.links, keeps])
  obtain ⟨row, found⟩ := Database.has_iff.mp present
  cases (Database.find?_next d .attachment).symm.trans found

/-- A card with a new file is refused only if no number is left for it. -/
theorem violation?_madeCard (sound : d.Referential) (known : d.users.find? user.id = some user)
    (v : CardForm.Valid) (file : Upload) (now : Instant) :
    (d.put (.attachment (keptFile file now d.attachments.next))).violation?
        (.card (madeCard user v (some d.attachments.next) now d.cards.next)) = none ↔
      inRange d.cards.next = true := by
  refine Database.violation?_new (Database.has_next _ .card) rfl ?_ ?_
  · apply Database.sharedKey?_eq_none_iff.mpr
    intro key mine other member _ shared
    obtain ⟨theirs, among, rfl⟩ := List.mem_map.mp member
    obtain rfl : key = ⟨["file_id"], [.number d.attachments.next]⟩ := by
      simpa [Row.uniqueKeys, madeCard] using mine
    exact fileId_ne_next sound among (by simpa [Row.uniqueKeys] using shared)
  · have author : d.has ⟨.user, user.id⟩ = true := Database.Slot.user.has_of_find? known
    have file : (d.put (.attachment (keptFile file now d.attachments.next))).has
        ⟨.attachment, d.attachments.next⟩ = true :=
      Database.has_iff.mpr ⟨_, (Database.find?_put ..).trans (if_pos rfl)⟩
    simp [Database.linksHold, Row.links, Row.members, madeCard, file, Database.has_put_of_has author]

/-- Without a file there is only the card to store. -/
theorem storeCard_spares {v : CardForm.Valid} (bare : v.file = none) : (storeCard user v).Spares d := by
  refine Action.now_silent.spares_bind fun now => ?_
  rw [bare, Option.mapM_none, pure_bind]
  exact Action.insertTwice_spares _ _

/-- With a file, there are two rows to store, the file first. -/
theorem storeCard_attached {v : CardForm.Valid} {file : Upload} (attached : v.file = some file) :
    storeCard user v = (do
      let now ← Action.now
      let fileId ← Action.insert .attachment fun id => .attachment (keptFile file now id)
      Action.insertTwice .card fun id => .card (madeCard user v (some fileId) now id)) := by
  simp only [storeCard, attached, Option.mapM_some, bind_map_left]
  rfl

/-- With a file, the file stays if the card cannot be stored. -/
theorem storeCard_leaves {v : CardForm.Valid} {file : Upload} (sound : w.database.Referential)
    (known : w.database.users.find? user.id = some user) (attached : v.file = some file) :
    (∃ id reached, (storeCard user v).run w = (.ok id, reached)) ∨
      ∃ fault, (storeCard user v).run w = (.error fault, { w with
        database := w.database.putIf
          (if w.mode = .ok ∧ inRange w.database.attachments.next = true ∧
              inRange w.database.cards.next = false then
            some (.attachment (keptFile file w.now w.database.attachments.next))
          else none) }) := by
  rw [storeCard_attached attached, Action.run_bind, Action.run_now]
  simp only [Action.run_bind]
  by_cases writes : w.mode = .ok ∧ inRange w.database.attachments.next = true
  · let filed : World :=
      { w with database := w.database.put (.attachment (keptFile file w.now w.database.attachments.next)) }
    have stores : (Action.insert .attachment fun id => .attachment (keptFile file w.now id)).run w =
        (.ok w.database.attachments.next, filed) :=
      Action.run_insert .attachment _ writes.1 ((violation?_keptFile file w.now).mpr writes.2)
    have allowed := violation?_madeCard sound known v file w.now
    rw [stores]
    simp only [Action.run_insertTwice]
    by_cases room : inRange w.database.cards.next = true
    · left
      exact ⟨_, _, Action.run_insert (w := filed) .card _ writes.1 (allowed.mpr room)⟩
    · right
      rw [if_pos ⟨writes.1, writes.2, by simpa using room⟩]
      exact Action.run_insert_refused (w := filed) .card _ fun both => room (allowed.mp both.2)
  · right
    obtain ⟨fault, ends⟩ := Action.run_insert_refused (w := w) .attachment
      (fun id => .attachment (keptFile file w.now id))
      fun allowed => writes ⟨allowed.1, (violation?_keptFile file w.now).mp allowed.2⟩
    rw [ends, if_neg fun all => writes ⟨all.1, all.2.1⟩]
    exact ⟨fault, rfl⟩

-- the form is kept apart below: the checks of a card are slow to unfold
theorem makeCard_of_valid {v : CardForm.Valid} (valid : (CardForm.check r.submitted).valid? = some v) :
    makeCard r user = (do let _ ← storeCard user v; return .redirect "/") := by
  unfold makeCard
  generalize CardForm.check r.submitted = form at valid ⊢
  dsimp only
  rw [valid]

theorem makeCard_of_invalid (user : User) (invalid : (CardForm.check r.submitted).valid? = none) :
    ∃ page, makeCard r user = pure (.ofPage page) := by
  unfold makeCard
  generalize CardForm.check r.submitted = form at invalid ⊢
  dsimp only
  rw [invalid]
  exact ⟨_, rfl⟩

/-- A fault that ends the making of a card leaves its file behind, if that was stored. -/
theorem makeCard_leaves {fault : Fault} (sound : w.database.Referential)
    (known : w.database.users.find? user.id = some user)
    (fails : ((makeCard r user).run w).1 = .error fault) :
    ((makeCard r user).run w).2.database =
      w.database.putIf ((strandedBy? r.submitted w).map .attachment) := by
  cases valid : (CardForm.check r.submitted).valid? with
  | none =>
      obtain ⟨page, shows⟩ := makeCard_of_invalid user valid
      rw [shows] at fails
      cases fails
  | some v =>
      rw [makeCard_of_valid valid] at fails ⊢
      cases attached : v.file with
      | none =>
          have bare : strandedBy? r.submitted w = none := by simp [strandedBy?, valid, attached]
          rw [bare]
          exact (storeCard_spares attached).then_sure (fun _ => .pure) w rfl fault fails
      | some file =>
          rw [Action.run_bind] at fails ⊢
          rcases storeCard_leaves sound known attached with ⟨id, reached, ends⟩ | ⟨failure, ends⟩
          · rw [ends] at fails
            cases fails
          · rw [ends]
            simp only [strandedBy?, valid, attached, Option.bind_eq_bind, Option.bind_some]
            split <;> rfl

/-! ## Serving -/

section Guards

variable {next : User → Action Reply}

theorem signedIn_spares (rest : ∀ user, (next user).Spares d) : (Guard.signedIn r next).Spares d := by
  refine (user_silent r).spares_bind fun user => ?_
  cases user with
  | none => exact Action.Sure.pure.spares
  | some user => exact rest user

theorem staff_spares (rest : ∀ user, (next user).Spares d) : (Guard.staff r next).Spares d := by
  refine (user_silent r).spares_bind fun user => ?_
  cases user with
  | none => exact Action.Sure.pure.spares
  | some user => exact .ite (fun _ => rest user) fun _ => Action.Sure.pure.spares

theorem staffOrForbidden_spares (rest : ∀ user, (next user).Spares d) :
    (Guard.staffOrForbidden r next).Spares d := by
  refine (user_silent r).spares_bind fun user => ?_
  cases user with
  | none => exact Action.Silent.fail.spares
  | some user => exact .ite (fun _ => rest user) fun _ => Action.Silent.fail.spares

theorem submission_spares (rest : ∀ user, (next user).Spares d) : (submission r next).Spares d :=
  .ite (fun _ => signedIn_spares rest) fun _ => Action.Sure.pure.spares

theorem unlessSignedIn_spares {action : Action Reply} (rest : action.Spares d) :
    (unlessSignedIn r action).Spares d := by
  refine (user_silent r).spares_bind fun user => ?_
  cases user with
  | none => exact rest
  | some user => exact .ite (fun _ => Action.Silent.fail.spares) fun _ => Action.Sure.pure.spares

theorem dispatch_spares {m : Methods} (method : String)
    (each : ∀ action, m.get = some action ∨ m.post = some action ∨ m.put = some action →
      action.Spares d) : (m.dispatch method).Spares d :=
  ends_dispatch method each fun _ _ _ told => nomatch told

theorem reading_spares {page : Action Reply} (method : String) (shows : page.Spares d) :
    ((Methods.reading page).dispatch method).Spares d := by
  apply dispatch_spares
  rintro action (found | found | found) <;> cases found
  exact shows

theorem form_spares {page submit : Action Reply} (method : String) (shows : page.Spares d)
    (takes : submit.Spares d) : ((Methods.form page submit).dispatch method).Spares d := by
  apply dispatch_spares
  rintro action (found | found | found) <;> cases found
  · exact shows
  · exact takes
  · exact takes

theorem submit_spares {submit : Action Reply} (method : String) (takes : submit.Spares d) :
    (Methods.dispatch { post := some submit } method).Spares d := by
  apply dispatch_spares
  rintro action (found | found | found) <;> cases found
  exact takes

theorem both_spares {page submit : Action Reply} (method : String) (shows : page.Spares d)
    (takes : submit.Spares d) :
    (Methods.dispatch { get := some page, post := some submit } method).Spares d := by
  apply dispatch_spares
  rintro action (found | found | found) <;> cases found
  · exact shows
  · exact takes

/-- A fault that is not answered is one of the operation. -/
theorem fails_of_settled {action : Action Reply} {fault : Fault}
    (fails : ((settled r action).run w).1 = .error fault) :
    ∃ failure, (action.run w).1 = .error failure := by
  rw [settled, Action.run_bind, Action.run_attempt] at fails
  rcases ran : (action.run w).1 with failure | reply
  · exact ⟨failure, rfl⟩
  · rw [ran] at fails
    cases fails

theorem settled_spares {action : Action Reply} (rest : action.Spares d) : (settled r action).Spares d := by
  intro w here fault fails
  obtain ⟨failure, ended⟩ := fails_of_settled fails
  rw [state_settled]
  exact rest w here failure ended

theorem form_submits {page submit : Action Reply} {method : String} (submits : method ∈ ["POST", "PUT"]) :
    (Methods.form page submit).dispatch method = submit := by
  rcases List.mem_pair.mp submits with rfl | rfl <;> rfl

end Guards

theorem serveAccount_spares (page : AccountPage) : (serveAccount r page).Spares d := by
  have still : ∀ name, (serveAccount.still r name).Spares d :=
    fun name => reading_spares _ (plainPage_silent name).spares
  cases page with
  | login => exact unlessSignedIn_spares (form_spares _ Action.Sure.pure.spares login_spares)
  | logout => exact signOutPage_silent.spares
  | passwordChange =>
      exact signedIn_spares fun _ => form_spares _ (plainPage_silent _).spares (changePassword_spares _)
  | passwordChangeDone => exact signedIn_spares fun _ => still _
  | passwordReset => exact form_spares _ (plainPage_silent _).spares askForReset_silent.spares
  | passwordResetConfirm _ _ => exact (plainPage_silent _).spares
  | passwordResetDone | passwordResetComplete => exact still _

/-- At every address of the site but the one for new cards, a fault leaves the database as it was. -/
theorem serveAddress_spares {address : Address} (sound : d.Referential)
    (there : addressOf r.path = some address) (site : ∀ page, address ≠ .admin page)
    (other : address ≠ .createCard) : (serveAddress r address).Spares d := by
  cases address with
  | admin page => exact absurd rfl (site page)
  | createCard => exact absurd rfl other
  | index => exact reading_spares _ (showIndex_silent r).spares
  | profileUpdate =>
      exact signedIn_spares fun _ => form_spares _ Action.Sure.pure.spares updateProfile_spares
  | registration => exact form_spares _ (registrationPage_silent _ _ _).spares register_spares
  | login => exact serveAccount_spares .login
  | account page => exact serveAccount_spares page
  | card id => exact reading_spares _ showCard_spares
  | toggleLike id => exact submission_spares fun _ => marking_spares .cardLikes
  | toggleFavorite id => exact submission_spares fun _ => marking_spares .cardFavorites
  | toggleCommentLike id => exact submission_spares fun _ => marking_spares .commentLikes
  | reportComment id => exact submission_spares fun _ => marking_spares .commentReports
  | search => exact (searchCards_silent r).spares
  | reportCard id =>
      exact signedIn_spares fun _ => form_spares _ (reportPage_silent _ _ _ _).spares makeReport_spares
  | addComment id => exact submission_spares fun _ => (recovering_sure _ _).spares
  | cardState id => exact (cardState_silent id).spares
  | addWall => exact submission_spares fun _ => (recovering_sure _ _).spares
  | removeWall id => exact submission_spares fun _ => removeWall_spares
  | logout => exact ((signOut_silent r.visitor).bind fun _ => .pure).spares
  | about | goals => exact reading_spares _ Action.Sure.pure.spares
  | ownProfile => exact signedIn_spares fun _ => reading_spares _ (showProfile_silent _ _).spares
  | profile username =>
      refine signedIn_spares fun _ => reading_spares _ ?_
      exact ((userNamed_reads username).silent.bind fun _ => showProfile_silent _ _).spares
  | addProfileNote username =>
      obtain ⟨path, leads⟩ := reverse_profile (isWord_of_addProfileNote there)
      exact signedIn_spares fun _ => addNote_spares leads
  | deleteProfileNote id => exact signedIn_spares fun _ => deleteNote_spares
  | download id => exact (downloadFile_silent id).spares
  | moderation => exact staffOrForbidden_spares fun _ => reading_spares _ showPanel_silent.spares
  | resolveCardReport id =>
      exact staffOrForbidden_spares fun _ =>
        both_spares _ (showReport_silent id).spares (resolveReport_spares sound)
  | resolveCommentReport id =>
      exact staffOrForbidden_spares fun _ =>
        both_spares _ (showCommentFlag_silent id).spares resolveCommentFlag_spares
  | unblock content id => exact submit_spares _ (tellingFaults_sure _).spares
  | block content id => exact staff_spares fun _ => submit_spares _ (tellingFaults_sure _).spares
  | unblockAsStaff content id =>
      exact staff_spares fun _ => submit_spares _ (tellingFaults_sure _).spares
  | profileCards => exact reading_spares _ (profileCards_silent r).spares
  | docs => exact .ite (fun _ => Action.Sure.pure.spares) fun _ => Action.Sure.pure.spares

/-- A fault at the address for new cards leaves at most the file of the card behind. -/
theorem serveAddress_createCard_leaves {fault : Fault} (sound : w.database.Referential)
    (client : r.visitor.isClient = true) (there : addressOf r.path = some .createCard)
    (fails : ((serveAddress r .createCard).run w).1 = .error fault) :
    ((serveAddress r .createCard).run w).2.database =
      w.database.putIf ((strandedFile? r w).map .attachment) := by
  simp only [serveAddress] at fails ⊢
  cases served : servedAs r.visitor w with
  | none =>
      rw [database_signedIn served]
      simp [strandedFile?, served, Database.putIf]
  | some user =>
      rw [run_signedIn served] at fails ⊢
      rw [database_form newCard_silent]
      by_cases submits : r.method ∈ ["POST", "PUT"]
      · rw [form_submits submits] at fails
        rw [if_pos submits, makeCard_leaves sound (find?_of_servedAs client served).1 fails, strandedFile?,
          if_pos ⟨submits, there⟩, served, Option.bind_some]
      · rw [if_neg submits, strandedFile?, if_neg fun both => submits both.1]
        rfl

/-- A fault that ends a request to the site leaves at most the file of a card behind. -/
theorem serve_leaves {fault : Fault} (sound : w.database.Referential)
    (client : r.visitor.isClient = true) (site : ∀ page, addressOf r.path ≠ some (.admin page))
    (fails : ((serve r).run w).1 = .error fault) :
    ((serve r).run w).2.database = w.database.putIf ((strandedFile? r w).map .attachment) := by
  have elsewhere : addressOf r.path ≠ some .createCard → strandedFile? r w = none :=
    fun other => if_neg fun both => other both.2
  cases there : addressOf r.path with
  | none =>
      rw [elsewhere (by simp [there]), serve, there]
      exact (showNotFound_silent r).unchanged w
  | some address =>
      rw [serve, there] at fails ⊢
      by_cases making : address = .createCard
      · subst making
        obtain ⟨failure, ended⟩ := fails_of_settled fails
        dsimp only
        rw [state_settled]
        exact serveAddress_createCard_leaves sound client there ended
      · have spares := serveAddress_spares sound there (fun page same => site page (same ▸ there)) making
        rw [elsewhere (by simp [there, making])]
        exact settled_spares spares w rfl fault fails

/-- A page or operation that is called directly leaves the database as it was if a fault ends it,
but for the one that blocks content. -/
theorem callUnlisted_spares {place : Unlisted} (other : ∀ content id, place ≠ .blockContent content id) :
    (callUnlisted r place).Spares d := by
  cases place with
  | blockContent content id => exact absurd rfl (other content id)
  | pendingPanel => exact staff_spares fun _ => (pendingReports_silent.bind fun _ => .pure).spares
  | cardDetail id => exact ((Action.load_reads _ id).silent.bind fun _ => .fail).spares
  | cardList => exact reading_spares _ (Action.rows_reads.silent.bind fun _ => .fail).spares
  | docs => exact reading_spares _ Action.Silent.fail.spares
  | notFound => exact (showNotFound_silent r).spares
  | panel => exact staffOrForbidden_spares fun _ => reading_spares _ showPanel_silent.spares

end GridCommons.Web
