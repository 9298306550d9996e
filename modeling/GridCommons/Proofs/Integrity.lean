import GridCommons.Proofs.DeletionCounts
import GridCommons.Proofs.Requests

/-!
Contract: references hold in every state that a run reaches.

Owns:
- that each step of a run, whether it ends with a fault or not, changes the database in
  the known ways only;
- `Database.Intact`: every reference of every table, column by column, names a row that
  is there;
- that every run from the empty site ends in an intact database.
-/

namespace GridCommons

open Site

/-! ## Requests -/

namespace Site.Cells

/-- Squares are added one after the other. -/
theorem proceeds_of_addAll {cardId : Nat} {places : List (Nat × Nat)} {d d' : Database}
    (added : addAll cardId places d = .ok d') : Relation.ReflTransGen Database.Proceeds d d' := by
  induction places generalizing d with
  | nil =>
      cases added
      exact .refl
  | cons place rest inductionHypothesis =>
      rw [addAll] at added
      split at added
      · rename_i stored
        exact .head (.next rfl stored) (inductionHypothesis added)
      · cases added

end Site.Cells

namespace Web

open Site.Database

/-- Every deed changes the database in the known ways. -/
theorem Deed.evolves {r : Request} {actor : Option User} {address : Address} {d d' : Database}
    (deed : Deed r actor address d d') : Relation.ReflTransGen Evolves d d' := by
  cases deed with
  | registered _ _ _ _ stored | passwordStored _ _ _ stored | profileChanged _ _ stored
  | joined _ _ _ stored | left _ _ _ _ stored | commented _ _ stored | reported _ _ _ stored
  | wallAdded _ _ _ _ _ stored | noteAdded _ _ _ _ stored | fileStored _ _ stored
  | cardMade _ _ _ stored | cardBlocked _ _ _ _ stored | reportResolved _ _ _ _ _ stored
  | flagStored _ _ _ stored | statusChanged _ _ _ _ _ stored | listEdited _ _ _ _ stored
  | passwordChanged _ _ _ _ _ stored | cardEntered _ _ _ _ _ stored | reportEntered _ _ _ _ _ stored =>
      exact .single (.stored stored)
  | cellsFilled _ _ _ _ added =>
      exact Relation.ReflTransGen.mono (fun _ _ => Proceeds.evolves) _ _ (Cells.proceeds_of_addAll added)
  | loginNoted user now => exact .single (.altered (alike_noteLogin user.id now))
  | cardsOfBanned => exact .single (.altered (alike_blockCardsOf _))
  | commentsOfBanned => exact .single (.altered (alike_blockCommentsOf _))
  | listSettled verdict ids => exact .single (.altered (alike_settleIn verdict ids))
  | cardUnblocked _ _ found | cardUnblockedByStaff _ _ found =>
      exact .single (.altered (Slot.card.alike_put found rfl rfl))
  | commentBlocked _ _ found => exact .single (.altered (Slot.comment.alike_put found rfl rfl))
  | userBanned _ _ found => exact .single (.altered (Slot.user.alike_put found rfl rfl))
  | wallRemoved => exact .single (.deleted _)
  | noteRemoved => exact .single (.deleted _)
  | adminDeleted roots => exact .single (.deleted roots)

end Web

/-! ## Direct operations -/

/-- The action changes the database in the known ways only. -/
abbrev Site.Action.Evolving {α : Type} (action : Action α) : Prop :=
  action.Obeys Database.Evolves (fun _ => True) fun _ _ => True

abbrev Site.Action.Proceeding {α : Type} (action : Action α) : Prop :=
  action.Obeys Database.Proceeds (fun _ => True) fun _ _ => True

theorem Site.Action.Proceeding.evolving {α : Type} {action : Action α} (proceeding : action.Proceeding) :
    action.Evolving :=
  proceeding.lift fun _ _ proceeds => .single proceeds.evolves

/-- Creating a user does to the database what inserting the draft does.  The draft has a number only
if one is handed in. -/
theorem Account.create_obeys {moves : Database → Database → Prop} (new : NewUser)
    (inserts : ∀ password now values, (new.others.get "id" = .null → values.get "id" = .null) →
      ((Draft.make .user now values).insertAs password).Obeys moves (fun _ => True) fun _ _ => True) :
    (create new).Obeys moves (fun _ => True) fun _ _ => True := by
  have stored : ∀ secret, (storedPassword secret).Silent := by
    intro secret
    refine Action.drawSalt_silent.bind fun salt => ?_
    cases secret <;> exact .pure
  unfold create
  dsimp only
  refine .ite (fun _ => .fail_bind) fun _ => ?_
  refine (stored _).then fun _ => Action.now_silent.then fun _ => inserts _ _ _ fun unnamed => ?_
  split <;> exact unnamed

namespace Site

open Database

theorem Action.join_proceeding (relation : Relation) (id : Nat) (users : List Nat) :
    (join relation id users).Proceeding := by
  refine (members_silent relation id).then fun present => ?_
  refine .ite (fun _ => ?_) fun _ => .done
  refine .changeMembers fun d d' row _ found stored => .replaced (has_iff.mpr ⟨row, ?_⟩) stored
  rw [Relation.ref_withMembers, (find?_eq_some_iff.mp found).2]
  exact found

theorem Cells.fill_proceeding (card : Card) : (fill card).Proceeding := by
  unfold fill
  dsimp only
  refine .ite (fun _ => ?_) fun _ => .done
  have added : (Action.commit (addAll card.id (places card.cols card.rows))).Obeys
      (Relation.ReflTransGen Proceeds) (fun _ => True) fun _ _ => True :=
    .commit fun d d' _ added => proceeds_of_addAll added
  exact added.lift fun _ _ run => run

section Altering

variable {moves : Database → Database → Prop}

theorem Moderation.safeBlockComment_alters (altered : ∀ {d d'}, Alike d d' → moves d d')
    (id : Option Nat) : (safeBlockComment id).Obeys moves (fun _ => True) fun _ _ => True := by
  cases id with
  | none => exact .succeeds .fail
  | some id =>
      exact safeBlockComment_obeys fun _ _ found => altered (Slot.comment.alike_put found rfl rfl)

theorem Moderation.safeUnblockCard_alters (altered : ∀ {d d'}, Alike d d' → moves d d')
    (id : Option Nat) : (safeUnblockCard id).Obeys moves (fun _ => True) fun _ _ => True := by
  cases id with
  | none => exact .succeeds .fail
  | some id =>
      exact safeUnblockCard_obeys fun _ _ found => altered (Slot.card.alike_put found rfl rfl)

theorem Moderation.safeBan_alters (altered : ∀ {d d'}, Alike d d' → moves d d') (id : Option Nat) :
    (safeBan id).Obeys moves (fun _ => True) fun _ _ => True := by
  cases id with
  | none => exact .succeeds .fail_bind
  | some id =>
      exact safeBan_obeys (fun _ _ found => altered (Slot.user.alike_put found rfl rfl))
        (fun _ => altered (alike_blockCardsOf id)) fun _ => altered (alike_blockCommentsOf id)

end Altering

theorem Draft.check_silent (draft : Draft) : draft.check.Silent := by
  refine Action.platform_silent.bind fun platform => Action.query_reads.silent.bind fun d => ?_
  exact .ite (fun _ => .fail) fun _ => .pure

theorem Draft.delete_evolving (draft : Draft) : draft.delete.Evolving := by
  unfold Draft.delete
  split
  · exact .fail
  refine Action.query_reads.silent.then fun d => Action.Obeys.seq ?_ fun _ => .done
  exact .mutate fun d _ => .deleted _

theorem Draft.memberCount_silent (relation : Relation) (draft : Draft) :
    (draft.memberCount relation).Silent := by
  unfold memberCount
  split
  · exact (Action.members_silent relation _).bind fun _ => .pure
  · exact draft.describe_silent.bind fun _ => .fail

/-- Whatever operation a row has, it marks rows, or saves or deletes the row. -/
theorem Draft.call_obeys {moves : Database → Database → Prop} {before : Database → Prop} {draft : Draft}
    {operation : Operation}
    (altered : ∀ {d d'}, Alike d d' → moves d d')
    (saves : ∀ flag, (draft.set "is_blocked" (.bool flag)).save.Obeys moves before fun _ _ => True)
    (deletes : operation = .delete → draft.delete.Obeys moves before fun _ _ => True) :
    (draft.call operation).Obeys moves before fun _ _ => True := by
  have anywhere : ∀ {α : Type} {action : Action α},
      action.Obeys moves (fun _ => True) (fun _ _ => True) → action.Obeys moves before fun _ _ => True :=
    fun obeys => obeys.weaken (fun _ _ => trivial) fun _ _ _ => trivial
  unfold call
  dsimp only
  split
  · exact draft.describe_silent.obeys.forget.then_pure
  · exact (deletes rfl).then_pure
  · split
    · refine (Action.lookup_reads _).silent.then fun found => ?_
      split <;> exact .done
    · exact .done
  · exact .done
  · exact (saves true).then_pure
  · exact (saves true).then_pure
  · exact (saves false).then_pure
  · exact (saves false).then_pure
  · exact (anywhere (Moderation.safeBlockComment_alters altered _)).then_pure
  · exact (anywhere (Moderation.safeUnblockCard_alters altered _)).then_pure
  · exact (anywhere (Moderation.safeBan_alters altered _)).then_pure
  · exact (draft.memberCount_silent _).obeys.forget.then_pure
  · exact (draft.memberCount_silent _).obeys.forget.then_pure
  · split
    · exact .done
    · exact .fail
  · exact .done
  · exact .done
  · exact .fail

end Site

namespace Form

open Database

theorem saveFresh_proceeding (kind : Kind) {values : Record} (save : Option Bool)
    (unnamed : values.get "id" = .null) : (saveFresh kind values save).Proceeding := by
  cases save with
  | none => exact .done
  | some asked =>
      cases asked with
      | false => exact .done
      | true =>
          refine Action.now_silent.then fun now => Action.Obeys.then_pure ?_
          exact Draft.insertAs_proceeds none (Draft.column_id_make now unnamed)

theorem Registration.save_proceeding (v : Registration.Valid) : (Registration.save v).Proceeding :=
  Registration.save_obeys v fun _ _ _ _ _ stored => .next rfl stored

/-- No form has a number among its values. -/
theorem get_id_cleaned {values : Record} (unnamed : ∀ entry ∈ values, entry.1 ≠ "id") :
    values.get "id" = .null := by
  have absent : values.lookup "id" = none :=
    List.lookup_eq_none_iff.mpr fun entry listed => by simpa using (unnamed entry listed).symm
  rw [Record.get, absent]
  rfl

theorem CommentForm.get_id (form : CommentForm) : form.cleaned.get "id" = .null := by
  apply get_id_cleaned
  cases told : form.text.value? <;> simp [cleaned, told]

theorem CardForm.get_id (form : CardForm) : form.cleaned.get "id" = .null := by
  apply get_id_cleaned
  intro entry listed
  simp only [cleaned, List.mem_append, Option.mem_toList, Option.map_eq_some_iff] at listed
  rcases listed with ((⟨_, _, rfl⟩ | ⟨_, _, rfl⟩) | ⟨_, _, rfl⟩) | ⟨_, _, rfl⟩ <;> simp

theorem ReportForm.get_id (form : ReportForm) : form.cleaned.get "id" = .null := by
  apply get_id_cleaned
  intro entry listed
  obtain ⟨⟨name, value⟩, column, told⟩ := List.mem_filterMap.mp listed
  obtain ⟨_, _, rfl⟩ := Option.map_eq_some_iff.mp told
  simp only [List.mem_cons, Prod.mk.injEq, List.not_mem_nil, or_false] at column
  grind

theorem Profile.get_id (form : Profile) : form.cleaned.get "id" = .null := by
  apply get_id_cleaned
  intro entry listed
  rcases List.mem_append.mp listed with text | date
  · obtain ⟨⟨name, value⟩, column, told⟩ := List.mem_filterMap.mp text
    obtain ⟨_, _, rfl⟩ := Option.map_eq_some_iff.mp told
    simp only [List.mem_cons, Prod.mk.injEq, List.not_mem_nil, or_false] at column
    grind
  · obtain ⟨_, _, rfl⟩ := Option.map_eq_some_iff.mp (Option.mem_toList.mp date)
    simp

/-- The profile form, once its owner is known. -/
theorem fillProfile_obeys {moves : Database → Database → Prop} {before : Database → Prop}
    {user? : Option User}
    (saves : ∀ v user, user? = some user → (Profile.save v user).Obeys moves before fun _ _ => True)
    (makes : ∀ values asked, values.get "id" = .null →
      (saveFresh .user values asked).Obeys moves before fun _ _ => True)
    (submitted : Submission) (save : Option Bool) :
    (do
      let form ← Profile.check (user?.map User.id) submitted
      let saved ←
        match form.valid?, user?, save with
        | some v, some user, some true => do
          Profile.save v user
          pure (some (some user.id))
        | some _, some user, some false => pure (some (some user.id))
        | some _, none, save => saveFresh .user form.cleaned save
        | _, _, _ => pure none
      return ⟨form.complaints, cleanedJson form.cleaned, saved⟩ : Action Report).Obeys moves before
        fun _ _ => True := by
  refine (Profile.check_silent _ _).then fun form => ?_
  dsimp only
  split
  · exact Action.Obeys.seq (saves _ _ rfl) fun _ => .done
  · exact .done
  · exact (makes _ _ form.get_id).then_pure
  · exact .done

/-- Filling in a form does to the database what registering a user, saving the profile of one and
saving a new row do. -/
theorem fill_obeys {moves : Database → Database → Prop}
    (registers : ∀ v, (Registration.save v).Obeys moves (fun _ => True) fun _ _ => True)
    (saves : ∀ v user, (Profile.save v user).Obeys moves
      (fun d => d.users.find? user.id = some user) fun _ _ => True)
    (makes : ∀ kind values asked, values.get "id" = .null →
      (saveFresh kind values asked).Obeys moves (fun _ => True) fun _ _ => True)
    (sheet : Sheet) (submitted : Submission) (owner : Option String) (save : Option Bool) :
    (fill sheet submitted owner save).Obeys moves (fun _ => True) fun _ _ => True := by
  unfold fill
  refine Action.Silent.then (.mapM fun file => ?_) fun files => ?_
  · exact (Step.kept_constant file.2).silent.bind fun _ => .pure
  cases sheet with
  | registration =>
      refine (Registration.check_silent _).then fun form => ?_
      dsimp only
      split
      · exact Action.Obeys.seq (registers _) fun _ => .done
      · exact .done
      · exact .done
  | profile =>
      dsimp only
      split
      · refine Action.rows_reads.then fun users => (Action.require_reads _ _).then fun user => ?_
        rw [pure_bind]
        refine fillProfile_obeys ?_ (fun _ _ unnamed => ?_) _ save
        · rintro v _ ⟨⟩
          refine (saves v user).weaken (fun d known => ?_) fun _ _ _ => trivial
          obtain ⟨⟨-, rfl⟩, found⟩ := known
          exact Table.find?_eq_some_iff.mpr ⟨List.mem_of_find?_eq_some found, rfl⟩
        · exact (makes _ _ _ unnamed).weaken (fun _ _ => trivial) fun _ _ _ => trivial
      · rw [pure_bind]
        refine fillProfile_obeys ?_ (fun _ _ => makes _ _ _) _ save
        rintro _ _ ⟨⟩
  | comment =>
      refine .ite (fun _ => ?_) fun _ => .done
      exact (makes _ _ _ (CommentForm.get_id _)).then_pure
  | card =>
      refine .ite (fun _ => ?_) fun _ => .done
      exact (makes _ _ _ (CardForm.get_id _)).then_pure
  | report =>
      refine .ite (fun _ => ?_) fun _ => .done
      exact (makes _ _ _ (ReportForm.get_id _)).then_pure

end Form

namespace Web

open Database

section Altering

variable {moves : Database → Database → Prop}

theorem tellingOutcome_obeys (b : Blockable) {operation : Action Bool} (done : String)
    (obeys : operation.Obeys moves (fun _ => True) fun _ _ => True) :
    (tellingOutcome b operation done).Obeys moves (fun _ => True) fun _ _ => True := by
  refine Action.Obeys.seq obeys fun worked => ?_
  exact .ite (fun _ => (Action.notify_silent _ _ _).obeys.forget) fun _ =>
    (Action.notify_silent _ _ _).obeys.forget

/-- Whatever content there is, blocking and unblocking it tie no rows together. -/
theorem blockable?_alters (altered : ∀ {d d'}, Alike d d' → moves d d') {content : String}
    {b : Blockable} (known : blockable? content = some b) (id : Nat) :
    (b.block id).Obeys moves (fun _ => True) (fun _ _ => True) ∧
      ∀ unblock, b.unblock = some unblock →
        (unblock id).Obeys moves (fun _ => True) fun _ _ => True := by
  unfold blockable? at known
  split at known
  · cases known
    refine ⟨.fail, ?_⟩
    rintro _ ⟨⟩
    exact Moderation.safeUnblockCard_alters altered _
  · cases known
    refine ⟨Moderation.safeBlockComment_alters altered _, ?_⟩
    rintro _ ⟨⟩
    exact .fail
  · cases known
    exact ⟨Moderation.safeBan_alters altered _, nofun⟩
  · cases known

theorem moderateContent_alters (altered : ∀ {d d'}, Alike d d' → moves d d') (r : Request)
    (content : String) (id : Nat) :
    (moderateContent r content id).Obeys moves (fun _ => True) fun _ _ => True := by
  unfold moderateContent
  cases known : blockable? content with
  | none => exact .fail_bind
  | some b =>
      obtain ⟨blocks, unblocks⟩ := blockable?_alters altered known id
      simp only [Action.require, pure_bind]
      refine .ite (fun _ => Action.query_reads.silent.then fun _ => ?_) fun _ => .fail_bind
      refine (Action.require_reads (.noMatch b.kind) _).silent.then fun _ => ?_
      split
      · exact tellingOutcome_obeys b _ blocks
      · rename_i unblock _ has
        exact tellingOutcome_obeys b _ (unblocks unblock has)
      · refine (Action.notify_silent _ _ _).then fun _ => ?_
        exact redirect_silent.then fun _ => .done

/-- What has no address ties no rows together. -/
theorem callUnlisted_alters (altered : ∀ {d d'}, Alike d d' → moves d d') (r : Request)
    (place : Unlisted) : (callUnlisted r place).Obeys moves (fun _ => True) fun _ _ => True := by
  cases place with
  | blockContent content id =>
      refine Follows.obeys fun w => follows_staff fun _ _ _ => ?_
      have moderated := (moderateContent_alters altered r content id).attempt
      refine Action.Obeys.seq (moderated.weaken (fun _ _ => trivial) fun _ _ _ => trivial) fun outcome => ?_
      dsimp only
      split
      · exact redirect_silent.obeys.forget
      · exact (Action.notify_silent _ _ _).then fun _ => redirect_silent.obeys.forget
  | pendingPanel =>
      refine Follows.obeys fun w => follows_staff fun _ _ _ => ?_
      exact pendingReports_silent.then fun _ => .done
  | cardDetail id => exact (Action.load_reads _ id).silent.then fun _ => .fail
  | cardList => exact reading_obeys r.method (Action.rows_reads.silent.then fun _ => .fail)
  | docs => exact reading_obeys r.method .fail
  | notFound => exact (showNotFound_silent r).obeys.forget
  | panel =>
      refine Follows.obeys fun w => follows_staffOrForbidden fun _ _ _ => ?_
      exact reading_obeys r.method showPanel_silent.obeys.forget

end Altering

end Web

/-- A report whose status is changed keeps its place. -/
theorem Site.Database.has_settled {d : Database} {report settled : CardReport}
    (found : d.cardReports.find? report.id = some report)
    (changed : settled = report ∨ ∃ verdict : Web.Verdict, settled = verdict.settle report) :
    d.has (Row.ref (.cardReport settled)) = true := by
  have same : Row.ref (.cardReport settled) = ⟨.cardReport, report.id⟩ := by
    rcases changed with rfl | ⟨verdict, rfl⟩ <;> rfl
  rw [same]
  exact Slot.cardReport.has_of_find? found

namespace Step

theorem userNamed_silent (username : String) : (userNamed username).Silent :=
  Action.rows_reads.silent.bind fun _ => (Action.require_reads _ _).silent

theorem maybeUser_silent (username : Option String) : (maybeUser username).Silent := by
  cases username with
  | none => exact .pure
  | some name => exact (userNamed_silent name).bind fun _ => .pure

theorem administration_proceeding (r : Web.Request) (task : AdminTask) :
    (administration r task).Proceeding := by
  cases task with
  | changeStatus number action =>
      refine (Web.changeStatus_obeys ?_ number action).then_pure
      exact fun _ _ _ _ found changed stored => .replaced (Database.has_settled found changed) stored
  | moderate =>
      refine (Web.moderateReports_obeys ?_).then_pure
      exact fun _ _ _ _ found changed stored => .replaced (Database.has_settled found changed) stored
  | settle verdict ids =>
      refine Action.Obeys.seq ?_ fun _ => .done
      unfold Web.settleReports
      have told : (do
          let reports := (← get).database.cardReports.rows.filter fun report => ids.contains report.id
          Web.tellSettled verdict reports.length : Action Unit).Proceeding :=
        Action.get_reads.silent.then fun _ => (Action.notify_silent _ _ _).obeys.forget
      refine .ite (fun _ => ?_) fun _ => told
      exact Action.Obeys.seq (.mutate fun _ _ => .altered (Database.alike_settleIn verdict ids)) fun _ => told

theorem registration_proceeding (submitted : Form.Submission) : (registration submitted).Proceeding := by
  refine (Form.Registration.check_silent _).then fun form => ?_
  split
  · exact .done
  · refine Action.Obeys.seq (Form.Registration.save_proceeding _) fun id => ?_
    exact (Action.load_reads _ id).silent.then fun _ => .done

end Step

namespace Command

theorem nameProblem?_silent (username : String) : (nameProblem? username).Silent := by
  unfold nameProblem?
  refine .ite (fun _ => .pure) fun _ => Action.rows_reads.silent.bind fun users => ?_
  refine .ite (fun _ => .pure) fun _ => Action.platform_silent.bind fun platform => ?_
  split <;> exact .pure

theorem makeSuperuser_proceeding (username email : Option String) :
    (makeSuperuser username email).Proceeding := by
  refine Action.reachable_silent.then fun _ => ?_
  cases username with
  | none => exact .done
  | some username =>
      refine (nameProblem?_silent username).then fun problem => ?_
      split
      · exact .done
      · exact .done
      · refine Action.platform_silent.then fun platform => ?_
        split
        · exact .done
        · refine (Account.create_obeys _ fun password now values unnamed => ?_).then_pure
          exact Draft.insertAs_proceeds password (Draft.column_id_make now (unnamed rfl))

theorem dumpRows_silent (labels keys : List String) : (dumpRows labels keys).Silent := by
  have dumped : ∀ kind, (dumpKind keys kind).Silent := fun kind =>
    (Action.ofExcept_reads _).silent.bind fun _ => Action.query_reads.silent.bind fun _ => .pure
  unfold dumpRows
  refine .ite (fun _ => .pure) fun _ => ?_
  dsimp only
  split
  · exact .pure
  · refine (Action.Silent.attempt (.mapM dumped)).bind fun outcome => ?_
    split <;> exact .pure

theorem run_proceeding (command : Command) : command.run.Proceeding := by
  cases command with
  | checkMigrations | showMigrations =>
      exact Action.reachable_silent.then fun _ => .done
  | createSuperuser username email => exact makeSuperuser_proceeding username email
  | dump labels keys => exact (dumpRows_silent labels keys).obeys.forget
  | _ => exact .done

end Command

namespace Step

/-- The step hands in the values of a row, or runs an operation of one. -/
def handsIn : Step → Bool
  | .createUser _ | .create .. | .update .. | .call .. => true
  | _ => false

/-- Whatever a step does but send a request and hand in values, it changes the database in ways that
proceed. -/
theorem act_proceeding {step : Step} (direct : step.sent? = none) (apart : step.handsIn = false) :
    step.act.Proceeding := by
  cases step with
  | request | arrive => cases direct
  | createUser | create | update | call => cases apart
  | setClock time =>
      have silent : (Step.setClock time).act.Silent := .of fun _ => rfl
      exact silent.obeys.forget
  | setMode mode =>
      have silent : (Step.setMode mode).act.Silent := .of fun _ => rfl
      exact silent.obeys.forget
  | join kind id relation users =>
      refine (Action.loadRow_reads _).silent.then fun _ => ?_
      refine (Action.require_reads _ _).silent.then fun relation => ?_
      refine Action.Obeys.seq (Action.join_proceeding relation id users) fun _ => ?_
      exact (Action.members_silent relation id).then fun _ => .done
  | signIn browser username =>
      refine (userNamed_silent username).then fun user => Action.Obeys.then_pure ?_
      exact Account.signIn_obeys _ user fun _ now _ => .altered (Database.alike_noteLogin user.id now)
  | check kind values =>
      exact Action.now_silent.then fun _ => (Draft.check_silent _).then fun _ => .done
  | fillCells id =>
      exact (Action.load_reads _ id).silent.then fun card => (Cells.fill_proceeding card).then_pure
  | listCards =>
      have silent : openCards.Silent := Action.rows_reads.silent.bind fun _ => .pure
      exact silent.obeys.forget.then_pure
  | form sheet submitted owner save =>
      refine (Form.fill_obeys Form.Registration.save_proceeding (fun _ _ => ?_) (fun _ _ _ unnamed => ?_)
        sheet submitted owner save).then_pure
      · exact .save fun d d' found stored => Database.Slot.user.proceeds_store found stored rfl
      · exact Form.saveFresh_proceeding _ _ unnamed
  | resolve => exact .done
  | reverse => exact (Action.ofExcept_reads _).silent.then fun _ => .done
  | unlisted place username r =>
      refine (maybeUser_silent username).then fun user => ?_
      exact (Web.callUnlisted_alters .altered _ place).then_pure
  | administer task username r =>
      exact (maybeUser_silent username).then fun user => administration_proceeding _ task
  | checkFacts facts =>
      have silent : facts.check.Silent := by
        unfold Web.ProfileFacts.check
        split
        · exact .fail
        · exact .pure
      exact silent.then fun _ => .done
  | checkReport username cardId grievance =>
      refine (userNamed_silent username).then fun user => ?_
      exact (Web.checkReport_reads user cardId grievance).silent.then fun _ => .done
  | register submitted => exact registration_proceeding submitted
  | command args => exact (Command.run_proceeding _).then_pure

/-- Whatever a step does but send a request, it changes the database in the known ways. -/
theorem act_evolving {step : Step} (direct : step.sent? = none) : step.act.Evolving := by
  cases apart : step.handsIn with
  | false => exact (act_proceeding direct apart).evolving
  | true =>
      have called : ∀ draft operation, (Draft.call draft operation).Evolving := fun draft operation =>
        Draft.call_obeys .altered (fun _ => Draft.save_evolves _) fun _ => draft.delete_evolving
      cases step with
      | createUser new =>
          exact (Account.create_obeys new fun _ _ _ _ => Draft.insertAs_evolves _ _).then_pure
      | create kind values =>
          exact Action.now_silent.then fun _ => (Draft.insertAs_evolves _ _).then_pure
      | update kind id values => exact (Draft.update_evolves kind id values).then_pure
      | call kind subject operation =>
          cases subject with
          | stored id =>
              refine (Action.loadRow_reads _).silent.then fun row => Action.Silent.pure.then fun draft => ?_
              exact (called draft operation).then_pure
          | unsaved values =>
              refine Action.now_silent.then fun now => Action.Silent.pure.then fun draft => ?_
              exact (called draft operation).then_pure
      | _ => cases apart

/-- Every step changes the database in the known ways. -/
theorem take_evolves (step : Step) (w : World) :
    Relation.ReflTransGen Database.Evolves w.database (step.take w).2.database := by
  cases sends : step.sent? with
  | none => exact (act_evolving sends (nextSecond w) trivial).1
  | some r =>
      obtain ⟨body, run⟩ := take_deeds sends w
      refine Relation.ReflTransGen.lift' id ?_ _ _ run
      rintro d d' ⟨address, -, deed⟩
      exact deed.evolves

end Step

/-! ## Runs -/

/-- Whatever steps are taken, the database changes only as `Evolves` allows. -/
theorem runSteps_evolves (steps : List Step) (w : World) :
    Relation.ReflTransGen Database.Evolves w.database (runSteps steps w).2.database := by
  induction steps generalizing w with
  | nil => exact .refl
  | cons step rest inductionHypothesis =>
      exact (step.take_evolves w).trans (inductionHypothesis (step.take w).2)

namespace Site.Database

variable {d d' : Database}

/-- References hold along every run if they held at its start. -/
theorem referential_of_evolves (run : Relation.ReflTransGen Evolves d d') (sound : d.Referential) :
    d'.Referential := by
  induction run with
  | refl => exact sound
  | tail _ evolves inductionHypothesis => exact evolves.referential inductionHypothesis

/-- Every reference of every table names a row that is there, and so does either side of every
pair of every relation. -/
structure Intact (d : Database) : Prop where
  profileNotes : ∀ note ∈ d.profileNotes.rows, d.users.has note.profileId ∧ d.users.has note.authorId
  cards : ∀ card ∈ d.cards.rows, d.users.has card.userId ∧ ∀ id ∈ card.fileId, d.attachments.has id
  cells : ∀ cell ∈ d.cells.rows, d.cards.has cell.cardId
  walls : ∀ wall ∈ d.walls.rows, d.cards.has wall.cardId ∧ d.users.has wall.createdById
  comments : ∀ comment ∈ d.comments.rows,
    d.cards.has comment.cardId ∧ d.users.has comment.authorId
  cardLikes : ∀ like ∈ d.cardLikes.rows, d.users.has like.userId ∧ d.cards.has like.cardId
  cardFavorites : ∀ favorite ∈ d.cardFavorites.rows,
    d.users.has favorite.userId ∧ d.cards.has favorite.cardId
  commentLikes : ∀ like ∈ d.commentLikes.rows,
    d.users.has like.userId ∧ d.comments.has like.commentId
  commentFlags : ∀ flag ∈ d.commentFlags.rows, d.users.has flag.userId
  cardReports : ∀ report ∈ d.cardReports.rows,
    d.cards.has report.cardId ∧ ∀ id ∈ report.userId, d.users.has id
  pairs : ∀ relation, ∀ pair ∈ d.pairs relation, d.has ⟨relation.kind, pair.1⟩ ∧ d.users.has pair.2

theorem referential_empty : ({} : Database).Referential := by
  intro row member
  cases (show row ∈ [] from member)

/-- Both ends of a pair are there. -/
theorem Referential.pairs (sound : d.Referential) {relation : Relation} {pair : Nat × Nat}
    (member : pair ∈ d.pairs relation) :
    d.has ⟨relation.kind, pair.1⟩ = true ∧ d.has ⟨.user, pair.2⟩ = true := by
  obtain ⟨row, present, kept⟩ := List.mem_flatMap.mp member
  obtain ⟨user, joined, rfl⟩ := List.mem_map.mp kept
  have kind := kind_of_mem_rowsOf present
  have among : row ∈ d.allRows := mem_allRows.mpr (kind ▸ present)
  have listed : ∃ entry ∈ row.members, entry.2 = (relation.members row).ids := by
    cases relation <;> cases row <;> simp_all [Row.kind, Relation.kind, Row.members, Relation.members]
  obtain ⟨entry, isMember, same⟩ := listed
  refine ⟨has_iff.mpr ⟨row, ?_⟩, ?_⟩
  · rw [← kind]
    exact find?_ref_of_mem among
  · exact (linksHold_iff.mp (sound row among)).2 entry isMember user (same ▸ joined)

theorem Referential.intact (sound : d.Referential) : d.Intact := by
  have user : ∀ id, d.has ⟨.user, id⟩ = d.users.has id := Slot.user.has_eq d
  have card : ∀ id, d.has ⟨.card, id⟩ = d.cards.has id := Slot.card.has_eq d
  have comment : ∀ id, d.has ⟨.comment, id⟩ = d.comments.has id := Slot.comment.has_eq d
  have file : ∀ id, d.has ⟨.attachment, id⟩ = d.attachments.has id := Slot.attachment.has_eq d
  have links : ∀ row ∈ d.allRows, ∀ link ∈ row.links, d.has link.target = true :=
    fun row member => (linksHold_iff.mp (sound row member)).1
  exact
    { profileNotes := fun note member => by
        simpa [Row.links, user] using links (.profileNote note) (Slot.profileNote.mem_allRows.mpr member)
      cards := fun part member => by
        simpa [Row.links, user, file] using links (.card part) (Slot.card.mem_allRows.mpr member)
      cells := fun part member => by
        simpa [Row.links, card] using links (.cell part) (Slot.cell.mem_allRows.mpr member)
      walls := fun wall member => by
        simpa [Row.links, card, user] using links (.wall wall) (Slot.wall.mem_allRows.mpr member)
      comments := fun part member => by
        simpa [Row.links, card, user] using links (.comment part) (Slot.comment.mem_allRows.mpr member)
      cardLikes := fun like member => by
        simpa [Row.links, card, user] using links (.cardLike like) (Slot.cardLike.mem_allRows.mpr member)
      cardFavorites := fun favorite member => by
        simpa [Row.links, card, user] using
          links (.cardFavorite favorite) (Slot.cardFavorite.mem_allRows.mpr member)
      commentLikes := fun like member => by
        simpa [Row.links, comment, user] using
          links (.commentLike like) (Slot.commentLike.mem_allRows.mpr member)
      commentFlags := fun flag member => by
        simpa [Row.links, user] using links (.commentFlag flag) (Slot.commentFlag.mem_allRows.mpr member)
      cardReports := fun report member => by
        simpa [Row.links, card, user] using
          links (.cardReport report) (Slot.cardReport.mem_allRows.mpr member)
      pairs := fun relation pair member => by
        simpa only [user] using sound.pairs member }

end Site.Database

/-- After any run of steps from the empty site, whatever they are and whether or not they end
with a fault, every reference names a row that is there. -/
theorem intact_after_every_run (steps : List Step) (now : Instant) :
    (runSteps steps { now }).2.database.Intact := by
  have run := runSteps_evolves steps { now }
  exact (Database.referential_of_evolves run Database.referential_empty).intact

end GridCommons
