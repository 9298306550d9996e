import GridCommons.Proofs.Answers
import GridCommons.Proofs.Outcome
import GridCommons.Proofs.Runs

/-!
Contract: complaints about cards, and how many of them are open.

Owns:
- `ReportChange`: what deeds do to the complaints, said once;
- that a user has at most one open complaint about a card, along every run of requests
  outside the administration;
- what a request to complain stores, and that it stores nothing unless it says so.

No constraint of the database keeps a user from complaining twice.  The complaints are
counted before a new one is stored, and no other request opens one.
-/

namespace GridCommons.Site

/-- A complaint that a user just made about a card. -/
structure CardReport.MadeBy (report : CardReport) (user : User) (cardId : Nat) : Prop where
  user : report.userId = some user.id
  card : report.cardId = cardId
  pending : report.status = "pending"
  unresolved : report.isResolved = false
  reason : report.reason ∈ CardReport.reasons.map Prod.fst
  explained : report.reason = "other" → ∃ text, report.description = some text ∧ text ≠ ""

namespace Database

variable {d d' d'' : Database}

/-- A user has at most one open complaint about a card. -/
def OneOpenReport (d : Database) : Prop :=
  ∀ report ∈ d.cardReports.rows, ∀ other ∈ d.cardReports.rows,
    report.isResolved = false → other.isResolved = false → report.cardId = other.cardId →
    report.userId = other.userId → report.userId.isSome = true → report = other

/-- Every open complaint of a user was open before. -/
def OpenReportsKept (d d' : Database) : Prop :=
  ∀ report ∈ d'.cardReports.rows, report.isResolved = false → report.userId.isSome = true →
    ∃ old ∈ d.cardReports.rows, old.isResolved = false ∧ old.id = report.id ∧
      old.cardId = report.cardId ∧ old.userId = report.userId

/-- No open complaint is made twice while open complaints are only kept or closed. -/
theorem OneOpenReport.of_kept (one : d.OneOpenReport) (kept : OpenReportsKept d d') :
    d'.OneOpenReport := by
  intro report member other memberOther isOpen otherOpen card user known
  obtain ⟨old, inOld, oldOpen, oldId, oldCard, oldUser⟩ := kept report member isOpen known
  obtain ⟨old', inOld', oldOpen', oldId', oldCard', oldUser'⟩ :=
    kept other memberOther otherOpen (user ▸ known)
  have same : old = old' := by
    apply one old inOld old' inOld' oldOpen oldOpen'
    · rw [oldCard, card, oldCard']
    · rw [oldUser, user, oldUser']
    · rw [oldUser]
      exact known
  apply Table.eq_of_id_eq d'.cardReports.ascending member memberOther
  show report.id = other.id
  rw [← oldId, ← oldId', same]

theorem OpenReportsKept.of_eq (same : d'.cardReports = d.cardReports) : OpenReportsKept d d' := by
  intro report member isOpen known
  rw [same] at member
  exact ⟨report, member, isOpen, rfl, rfl, rfl⟩

/-- A complaint that is resolved opens none. -/
theorem OpenReportsKept.put_resolved {report : CardReport} (resolved : report.isResolved = true) :
    OpenReportsKept d (d.put (.cardReport report)) := by
  intro other member isOpen known
  rcases Table.mem_put.mp member with rfl | ⟨before, -⟩
  · simp [resolved] at isOpen
  · exact ⟨other, before, isOpen, rfl, rfl, rfl⟩

/-- A complaint that stays loses at most its user. -/
theorem mem_cardReports_delete {roots : List Ref} {report : CardReport}
    (member : report ∈ (d.delete roots).cardReports.rows) :
    ∃ old ∈ d.cardReports.rows, report = { old with userId := report.userId } ∧
      (report.userId = old.userId ∨ report.userId = none) := by
  obtain ⟨old, found, -, bereft⟩ := Slot.cardReport.mem_delete member
  have before := (Table.find?_eq_some_iff.mp found).1
  have same := Row.cardReport.inj bereft
  refine ⟨old, before, ?_, ?_⟩
  · rw [← same]
  · rw [← same]
    dsimp only
    cases old.userId with
    | none => exact .inl rfl
    | some user =>
        rw [Option.filter_some]
        split
        · exact .inl rfl
        · exact .inr rfl

/-- Deleting rows makes no open complaint. -/
theorem OpenReportsKept.delete (d : Database) (roots : List Ref) :
    OpenReportsKept d (d.delete roots) := by
  intro report member isOpen known
  obtain ⟨old, before, same, user⟩ := mem_cardReports_delete member
  have kept : report.userId = old.userId := by
    rcases user with kept | lost
    · exact kept
    · simp [lost] at known
  rw [same] at isOpen
  exact ⟨old, before, isOpen, by rw [same], by rw [same], kept.symm⟩

/-- A complaint opens a second one of its user about the card only where the first is open. -/
theorem OneOpenReport.put_new (one : d.OneOpenReport) {report : CardReport}
    (settled : ∀ other ∈ d.cardReports.rows, other.cardId = report.cardId →
      other.userId = report.userId → other.isResolved = true) :
    (d.put (.cardReport report)).OneOpenReport := by
  intro first inFirst second inSecond firstOpen secondOpen card user known
  rcases Table.mem_put.mp inFirst with rfl | ⟨firstBefore, -⟩ <;>
    rcases Table.mem_put.mp inSecond with rfl | ⟨secondBefore, -⟩
  · rfl
  · simp [settled second secondBefore card.symm user.symm] at secondOpen
  · simp [settled first firstBefore card user] at firstOpen
  · exact one first firstBefore second secondBefore firstOpen secondOpen card user known

end Database

end GridCommons.Site

namespace GridCommons.Web

open Site Form Account

variable {r : Request} {actor : Option User} {address : Address} {d d' : Database}

/-! ## Deeds -/

/-- What a deed does to the complaints. -/
inductive ReportChange (r : Request) : Option User → Address → Database → Database → Prop where
  | untouched {actor : Option User} {address : Address} {d d' : Database} :
      d'.cardReports = d.cardReports → ReportChange r actor address d d'
  | made {user : User} {d : Database} {id : Nat} (v : ReportForm.Valid) (now : Instant) :
      (∀ report ∈ d.cardReports.rows, report.cardId = id → report.userId = some user.id →
        report.isResolved = true) →
      ReportChange r (some user) (.reportCard id) d
        (d.put (.cardReport { id := d.cardReports.next, cardId := id, userId := some user.id,
                              reason := v.reason, description := some v.description,
                              createdAt := now }))
  | resolved {actor : Option User} {d : Database} {id : Nat} (report : CardReport)
      (status : String) :
      status = "approved" ∨ status = "rejected" ∨ decisionOf r = .other →
      ReportChange r actor (.resolveCardReport id) d
        (d.put (.cardReport { report with status, isResolved := true }))
  | settled {actor : Option User} {page : AdminPage} {d : Database} (report : CardReport) :
      report ∈ d.cardReports.rows ∨ (∃ verdict old, report = Verdict.settle verdict old) →
      ReportChange r actor (.admin page) d (d.put (.cardReport report))
  | edited {actor : Option User} {area : AdminSection} {d : Database} (report : CardReport) :
      (r.submitted.text? "_save").isSome = true →
      ReportChange r actor (.admin (.list area)) d (d.put (.cardReport report))
  | entered {actor : Option User} {page : AdminPage} {d : Database} (report : CardReport) :
      r.method = "POST" → page.entersRow = true →
      ReportChange r actor (.admin page) d (d.put (.cardReport report))
  | settledMany {actor : Option User} {area : AdminSection} {d : Database} (verdict : Verdict)
      (ids : List Nat) : ReportChange r actor (.admin (.list area)) d (settleIn verdict ids d)
  | deleted {actor : Option User} {address : Address} {d : Database} (roots : List Ref) :
      ReportChange r actor address d (d.delete roots)

theorem cardReports_put_withMembers {relation : Relation} {id : Nat} {row : Row} {members : Members}
    (found : d.find? ⟨relation.kind, id⟩ = some row) :
    (d.put (relation.withMembers members row)).cardReports = d.cardReports := by
  rcases Database.withMembers_cases members found with
    ⟨card, _, _, -, stored⟩ | ⟨comment, _, _, -, stored⟩ <;> simp only [stored, Database.put]

/-- What a deed does to the complaints. -/
theorem Deed.reportChange (deed : Deed r actor address d d') : ReportChange r actor address d d' := by
  cases deed with
  | registered _ _ _ _ stored | passwordStored _ _ _ stored | profileChanged _ _ stored
  | commented _ _ stored | wallAdded _ _ _ _ _ stored | noteAdded _ _ _ _ stored
  | fileStored _ _ stored | cardMade _ _ _ stored | cardBlocked _ _ _ _ stored
  | flagStored _ _ _ stored | passwordChanged _ _ _ _ _ stored | cardEntered _ _ _ _ _ stored =>
      obtain ⟨-, rfl⟩ := Database.store_eq_ok_iff.mp stored
      exact .untouched rfl
  | loginNoted | cardUnblocked | commentBlocked | userBanned | cardsOfBanned | commentsOfBanned
  | cardUnblockedByStaff => exact .untouched rfl
  | cellsFilled _ _ _ _ added =>
      rw [Database.eq_of_addAll added]
      exact .untouched rfl
  | joined _ _ found stored | left _ _ _ found stored =>
      obtain ⟨-, rfl⟩ := Database.store_eq_ok_iff.mp stored
      exact .untouched (cardReports_put_withMembers found)
  | reported v now settled stored =>
      obtain ⟨-, rfl⟩ := Database.store_eq_ok_iff.mp stored
      exact .made v now settled
  | reportResolved report status _ _ decided stored =>
      obtain ⟨-, rfl⟩ := Database.store_eq_ok_iff.mp stored
      exact .resolved report status (decided.imp_right (Or.imp_right And.right))
  | statusChanged report settled _ found same stored =>
      obtain ⟨-, rfl⟩ := Database.store_eq_ok_iff.mp stored
      rcases same with rfl | ⟨verdict, rfl⟩
      · exact .settled _ (.inl (Table.find?_eq_some_iff.mp found).1)
      · exact .settled _ (.inr ⟨verdict, report, rfl⟩)
  | listEdited report _ saving _ stored =>
      obtain ⟨-, rfl⟩ := Database.store_eq_ok_iff.mp stored
      exact .edited report saving
  | reportEntered report _ posted enters _ stored =>
      obtain ⟨-, rfl⟩ := Database.store_eq_ok_iff.mp stored
      exact .entered report posted enters
  | listSettled verdict ids => exact .settledMany verdict ids
  | wallRemoved | noteRemoved | adminDeleted => exact .deleted _

/-- No request to the site makes a second open complaint of a user about a card. -/
theorem Deed.oneOpenReport (deed : Deed r actor address d d') (site : ∀ page, address ≠ .admin page)
    (one : d.OneOpenReport) : d'.OneOpenReport := by
  cases deed.reportChange with
  | untouched same => exact one.of_kept (.of_eq same)
  | made v now settled => exact one.put_new settled
  | resolved report status => exact one.of_kept (.put_resolved rfl)
  | deleted roots => exact one.of_kept (.delete d roots)
  | settled | edited | entered | settledMany => exact absurd rfl (site _)

/-! ## A request to complain -/

/-- The outcome sends the visitor to a path. -/
def LeadsTo (path : String) (outcome : Except Fault Reply) : Prop :=
  ∃ reply, outcome = .ok reply ∧ reply.location = some path

/-- A user made one complaint about a card, and nothing else was stored. -/
def AddsReport (user : User) (id : Nat) (d d' : Database) : Prop :=
  ∃ report : CardReport, report.MadeBy user id ∧ d' = d.put (.cardReport report) ∧
    d'.cardReports.rows = d.cardReports.rows ++ [report]

/-- A complaint was stored exactly if the visitor is sent to the first page, and otherwise
nothing was. -/
def Files (actor : Option User) (id : Nat) (d : Database) (outcome : Except Fault Reply)
    (d' : Database) : Prop :=
  (LeadsTo "/" outcome ∧ ∃ user ∈ actor, AddsReport user id d d') ∨ (¬LeadsTo "/" outcome ∧ d' = d)

theorem not_leadsTo_error {path : String} {fault : Fault} : ¬LeadsTo path (.error fault) :=
  nofun

theorem not_leadsTo_of_location {path : String} {reply : Reply} (stays : reply.location ≠ some path) :
    ¬LeadsTo path (.ok reply) := by
  rintro ⟨_, ⟨⟩, leads⟩
  exact stays leads

/-- A complaint whose form is valid has a reason of the list. -/
theorem reason_mem_of_valid? {s : Submission} {v : ReportForm.Valid}
    (valid : (ReportForm.check s).valid? = some v) : v.reason ∈ CardReport.reasons.map Prod.fst := by
  simp only [ReportForm.valid?, ReportForm.check, Option.bind_eq_bind, Option.bind_eq_some_iff] at valid
  obtain ⟨reason, chosen, description, -, made⟩ := valid
  cases made
  unfold cleanChoice at chosen
  split at chosen
  · cases chosen
  · split at chosen
    · rename_i listed
      cases chosen
      exact List.contains_iff_mem.mp listed
    · cases chosen

/-- A complaint for another reason passes only if something is said about it. -/
theorem checkReport_explained (user : User) (id : Nat) (g : Grievance) :
    (checkReport user id g).Reads fun _ _ => ¬(g.reason = some "other" ∧ unsaid g.description = true) := by
  unfold checkReport
  dsimp only
  refine .ite (fun _ => .fail_bind) fun _ => .ite (fun _ => .fail_bind) fun explained => ?_
  refine (openReports_reads user id).then fun _ => .ite (fun _ => .fail) fun _ => ?_
  exact .pure fun _ _ => explained

theorem storeReport_ends {s : Submission} {v : ReportForm.Valid}
    (valid : (ReportForm.check s).valid? = some v) (user : User) (id : Nat) (d : Database) :
    (storeReport user id v).Ends d fun outcome d' =>
      match outcome with
      | .ok _ => AddsReport user id d d'
      | .error _ => d' = d := by
  refine (checkReport_explained user id _).ends_bind (fun _ => rfl) fun _ explained => ?_
  refine (Action.load_reads _ id).ends_bind (fun _ => rfl) fun card found => ?_
  refine Action.now_silent.ends_bind (fun _ => rfl) fun now _ => ?_
  refine Action.Ends.insertTwice (fun _ => rfl) ⟨_, ?_, rfl, Table.rows_put_new rfl⟩
  have same : card.id = id := (Table.find?_eq_some_iff.mp found).2
  constructor
  · rfl
  · exact same
  · rfl
  · rfl
  · exact reason_mem_of_valid? valid
  · intro other
    refine ⟨v.description, rfl, fun empty => explained ⟨congrArg some other, ?_⟩⟩
    simp [unsaid, empty]

/-- Showing the form adds nothing. -/
theorem reportPage_ends (actor : Option User) (user : User) (id : Nat) (submitted : Option Submission)
    (complaints : Complaints) (d : Database) :
    (reportPage user id submitted complaints).Ends d (Files actor id d) := by
  have fails : ∀ fault, Files actor id d (.error fault) d :=
    fun _ => .inr ⟨not_leadsTo_error, rfl⟩
  refine (Action.load_reads _ id).ends_bind fails fun card _ => ?_
  refine (openReports_reads user id).ends_bind fails fun existing _ => ?_
  exact .pure (.inr ⟨not_leadsTo_of_location (by simp [Reply.ofPage]), rfl⟩)

/-- Complaining stores one complaint and leads on, or stores none and stays. -/
theorem makeReport_ends (r : Request) (user : User) (id : Nat) (d : Database) :
    (makeReport r user id).Ends d (Files (some user) id d) := by
  have fails : ∀ fault, Files (some user) id d (.error fault) d :=
    fun _ => .inr ⟨not_leadsTo_error, rfl⟩
  unfold makeReport
  dsimp only
  split
  · exact reportPage_ends _ user id _ _ d
  · rename_i v valid
    refine (storeReport_ends valid user id d).bind ?_ ?_
    · rintro fault _ rfl
      exact fails fault
    · intro number d' added
      exact .pure (.inl ⟨⟨_, rfl, rfl⟩, user, rfl, added⟩)

theorem serve_reportCard_ends {id : Nat} (there : addressOf r.path = some (.reportCard id)) (w : World) :
    Files (servedAs r.visitor w) id w.database ((serve r).run w).1 ((serve r).run w).2.database := by
  have fails : ∀ actor fault, Files actor id w.database (.error fault) w.database :=
    fun _ _ => .inr ⟨not_leadsTo_error, rfl⟩
  rw [serve, there]
  apply ends_settled
  · apply ends_signedIn
    · intro user served
      rw [served]
      apply ends_dispatch
      · rintro action (here | here | here)
        · cases here
          exact reportPage_ends _ user id _ _ w.database
        all_goals
          cases here
          exact makeReport_ends r user id w.database
      · intro reply stays
        exact .inr ⟨not_leadsTo_of_location (by simp [stays]), rfl⟩
    · exact fails _
    · refine .inr ⟨not_leadsTo_of_location fun same => ?_, rfl⟩
      have lengths := congrArg String.length (Option.some.inj same)
      have first : "/".length = 1 := rfl
      have longer : loginPath.length = 16 := rfl
      simp only [String.length_append, first, longer] at lengths
      omega
  · rintro fault reply d stays - (⟨leads, -⟩ | ⟨-, same⟩)
    · exact absurd leads not_leadsTo_error
    · exact .inr ⟨not_leadsTo_of_location (by simp [stays]), same⟩

end GridCommons.Web

namespace GridCommons

open Site Account Web

namespace Step

variable {step : Step} {r : Request} {w : World} {id : Nat}

theorem ToSite.oneOpenReport (toSite : step.ToSite) (one : w.database.OneOpenReport) :
    (step.take w).2.database.OneOpenReport := by
  obtain ⟨r, sent, site⟩ := toSite
  refine take_keeps (fun d d' => d.OneOpenReport → d'.OneOpenReport) (fun _ => fun same => same)
    (fun first second start => second (first start)) sent ?_ one
  intro body address there d d' deed
  exact deed.oneOpenReport fun page same => site page (there.trans (congrArg some same))

/-- A step that sends a complaint stores it exactly if it is answered by the way to the first
page. -/
theorem reportCard_take (sends : step.sent? = some r)
    (there : addressOf r.path = some (.reportCard id)) (w : World) :
    ((step.take w).1.target? = some "/" ∧ ∃ user ∈ servedAs r.visitor (nextSecond w),
        AddsReport user id w.database (step.take w).2.database) ∨
      ((step.take w).1.target? ≠ some "/" ∧ (step.take w).2.database = w.database) := by
  rw [ne_eq, target?_eq_some_iff sends, database_take sends, reply?]
  cases delivers : step.delivered? (nextSecond w) with
  | none => exact .inr ⟨by simp, rfl⟩
  | some arrived =>
      obtain ⟨body, rfl⟩ := delivered?_eq_some delivers sends
      have leads : (∃ reply, ((serve { r with body }).run (nextSecond w)).1.toOption = some reply ∧
          reply.location = some "/") ↔ LeadsTo "/" ((serve { r with body }).run (nextSecond w)).1 := by
        unfold LeadsTo
        rcases ((serve { r with body }).run (nextSecond w)).1 with fault | reply
        · simp [Except.toOption]
        · simp [Except.toOption]
      rw [Option.bind_some, leads]
      exact serve_reportCard_ends (r := { r with body }) there (nextSecond w)

end Step

/-- A user has at most one open complaint about a card, along every run of requests outside the
administration that starts so.  A request to complain that is answered by the way to the first
page adds one complaint of the user that it is served as, about the card of its address; every
other answer to it leaves the database alone. -/
theorem one_open_report_per_user_and_card {steps : List Step} {w : World}
    (toSite : ∀ step ∈ steps, step.ToSite) (one : w.database.OneOpenReport) :
    (runSteps steps w).2.database.OneOpenReport ∧
      ∀ (step : Step) (r : Request) (id : Nat) (reached : World), step.sent? = some r →
        addressOf r.path = some (.reportCard id) →
        ((step.take reached).1.target? = some "/" →
          ∃ user ∈ servedAs r.visitor (Step.nextSecond reached),
            AddsReport user id reached.database (step.take reached).2.database) ∧
        ((step.take reached).1.target? ≠ some "/" →
          (step.take reached).2.database = reached.database) := by
  constructor
  · exact holds_runSteps (fun w => w.database.OneOpenReport) (fun _ _ toSite => toSite.oneOpenReport)
      toSite one
  · intro step r id reached sends there
    rcases Step.reportCard_take sends there reached with ⟨leads, added⟩ | ⟨stays, same⟩
    · exact ⟨fun _ => added, fun elsewhere => absurd leads elsewhere⟩
    · exact ⟨fun leads => absurd leads stays, fun _ => same⟩

/-! ### A user complains twice -/

/-- A user with a card, signed in from a browser. -/
def complaintSite : World :=
  { now := ⟨0⟩
    database :=
      [.user { id := 1, username := "ann", dateJoined := ⟨0⟩, password := .plain "" },
        .card { id := 1, userId := 1, title := "", description := "", createdAt := ⟨0⟩,
                updatedAt := ⟨0⟩ }].foldl Database.put {}
    sessions := Table.put {} { key := 1, userId := 1, stamp := .plain "", expires := ⟨100⟩ }
    browsers := [("ann", 1)] }

def complains : Request :=
  { method := "POST", path := "/cards/1/report/", visitor := .browser "ann"
    body := .form { texts := [("reason", ["other"]), ("description", ["empty"])] } [] }

/-- The first complaint is stored, and the second one is not. -/
theorem one_open_report_per_user_and_card_twice :
    (∃ user, AddsReport user 1 complaintSite.database
        ((Step.request complains).take complaintSite).2.database) ∧
      ((Step.request complains).take ((Step.request complains).take complaintSite).2).1.target? ≠
        some "/" ∧
      (runSteps [.request complains, .request complains] complaintSite).2.database.OneOpenReport := by
  have there : addressOf complains.path = some (.reportCard 1) := by decide +kernel
  have toSite : (Step.request complains).ToSite :=
    ⟨complains, rfl, fun page same => nomatch there.symm.trans same⟩
  have both : ∀ step ∈ [Step.request complains, Step.request complains], step.ToSite := by
    simp [toSite]
  obtain ⟨one, exactly⟩ := one_open_report_per_user_and_card (w := complaintSite) both nofun
  obtain ⟨adds, -⟩ := exactly (.request complains) complains 1 complaintSite rfl there
  obtain ⟨user, -, added⟩ := adds (by decide +kernel)
  exact ⟨⟨user, added⟩, by decide +kernel, one⟩

end GridCommons
