import GridCommons.Proofs.Complaints
import GridCommons.Proofs.Integrity

/-!
Contract: the two marks of a settled complaint.

Owns:
- that a complaint is to be resolved exactly if it is no longer pending;
- the complaint that a request resolves without a decision, as a function of the state;
- which runs of requests and tasks keep the marks together;
- that the two panels list the same complaints exactly while they are together.

A verdict sets both marks.  A moderator's submission sets the first one whatever it says,
and the second one only if it says what to do.
-/

namespace GridCommons.Site

/-- The complaint is resolved exactly if it is no longer pending. -/
def CardReport.Coherent (report : CardReport) : Prop :=
  report.isResolved = true ↔ report.status ≠ "pending"

theorem coherent_settle (verdict : Web.Verdict) (report : CardReport) :
    (verdict.settle report).Coherent := by
  cases verdict <;> simp [CardReport.Coherent, Web.Verdict.settle, Web.Verdict.status]

namespace Table

variable {α : Type} [Numbered α]

/-- Two selections of a table have the same numbers exactly if they select the same rows. -/
theorem map_id_filter_eq_iff (t : Table α) (left right : α → Bool) :
    (t.rows.filter left).map Numbered.id = (t.rows.filter right).map Numbered.id ↔
      ∀ row ∈ t.rows, left row = right row := by
  have selected : ∀ (chosen : α → Bool) (row : α), row ∈ t.rows →
      (Numbered.id row ∈ (t.rows.filter chosen).map Numbered.id ↔ chosen row = true) := by
    intro chosen row member
    rw [List.mem_map]
    constructor
    · rintro ⟨other, inFilter, same⟩
      obtain ⟨memberOther, isChosen⟩ := List.mem_filter.mp inFilter
      rw [← eq_of_id_eq t.ascending memberOther member same]
      exact isChosen
    · intro isChosen
      exact ⟨row, List.mem_filter.mpr ⟨member, isChosen⟩, rfl⟩
  constructor
  · intro same row member
    rw [Bool.eq_iff_iff, ← selected left row member, same, selected right row member]
  · intro same
    rw [List.filter_congr same]

end Table

namespace Database

variable {d d' : Database}

/-- Every complaint is resolved exactly if it is no longer pending. -/
def ReportsCoherent (d : Database) : Prop :=
  ∀ report ∈ d.cardReports.rows, report.Coherent

/-- The complaints that are not resolved. -/
def unresolvedIds (d : Database) : List Nat :=
  (d.cardReports.rows.filter fun report => !report.isResolved).map CardReport.id

/-- The complaints that are pending. -/
def pendingIds (d : Database) : List Nat :=
  (d.cardReports.rows.filter fun report => report.status == "pending").map CardReport.id

/-- Both panels list the same complaints exactly if the marks of every complaint agree. -/
theorem pendingIds_eq_iff : d.pendingIds = d.unresolvedIds ↔ d.ReportsCoherent := by
  have marks : ∀ report : CardReport,
      (report.status == "pending") = !report.isResolved ↔ report.Coherent := by
    intro report
    unfold CardReport.Coherent
    by_cases pending : report.status = "pending" <;> cases report.isResolved <;> simp [pending]
  have listed := d.cardReports.map_id_filter_eq_iff (fun report => report.status == "pending")
    fun report => !report.isResolved
  rw [pendingIds, unresolvedIds]
  apply listed.trans
  simp only [marks, ReportsCoherent]

theorem ReportsCoherent.put (coherent : d.ReportsCoherent) {report : CardReport}
    (sound : report.Coherent) : (d.put (.cardReport report)).ReportsCoherent := by
  intro other member
  rcases Table.mem_put.mp member with rfl | ⟨before, -⟩
  · exact sound
  · exact coherent other before

theorem ReportsCoherent.delete (coherent : d.ReportsCoherent) (roots : List Ref) :
    (d.delete roots).ReportsCoherent := by
  intro report member
  obtain ⟨old, before, same, -⟩ := mem_cardReports_delete member
  have sound := coherent old before
  rw [same]
  exact sound

/-- A verdict sets both marks. -/
theorem ReportsCoherent.settleIn (coherent : d.ReportsCoherent) (verdict : Web.Verdict)
    (ids : List Nat) : (Web.settleIn verdict ids d).ReportsCoherent := by
  intro report member
  obtain ⟨old, before, rfl⟩ := List.mem_map.mp member
  split
  · exact coherent_settle verdict old
  · exact coherent old before

/-- A resolved complaint keeps the marks together exactly if it is not pending. -/
theorem reportsCoherent_put_resolved_iff (coherent : d.ReportsCoherent) {report : CardReport} :
    (d.put (.cardReport { report with isResolved := true })).ReportsCoherent ↔
      report.status ≠ "pending" := by
  constructor
  · intro after
    have stored := after { report with isResolved := true } (Table.mem_put.mpr (.inl rfl))
    exact stored.mp rfl
  · intro decided
    exact coherent.put (iff_of_true rfl decided)

end Database

end GridCommons.Site

namespace GridCommons.Web

open Site Account

variable {r : Request} {w : World} {id : Nat}

/-- A deed keeps the marks together unless it resolves a complaint without a decision, or
stores one as it was edited by hand. -/
theorem Deed.reportsCoherent {actor : Option User} {address : Address} {d d' : Database}
    (deed : Deed r actor address d d')
    (decides : ∀ id, address = .resolveCardReport id → decisionOf r ≠ .other)
    (unedited : ∀ area, address = .admin (.list area) → r.submitted.text? "_save" = none)
    (unentered : ∀ page, address = .admin page → page.entersRow = true → r.method ≠ "POST")
    (coherent : d.ReportsCoherent) : d'.ReportsCoherent := by
  cases deed.reportChange with
  | untouched same =>
      intro report member
      rw [same] at member
      exact coherent report member
  | made v now settled => exact coherent.put (by simp [CardReport.Coherent])
  | resolved report status decided =>
      rcases decided with rfl | rfl | undecided
      · exact coherent.put (by simp [CardReport.Coherent])
      · exact coherent.put (by simp [CardReport.Coherent])
      · exact absurd undecided (decides _ rfl)
  | settled report same =>
      rcases same with before | ⟨verdict, old, rfl⟩
      · exact coherent.put (coherent report before)
      · exact coherent.put (coherent_settle verdict old)
  | edited report saving => simp [unedited _ rfl] at saving
  | entered report posted enters => exact absurd posted (unentered _ rfl enters)
  | settledMany verdict ids => exact coherent.settleIn verdict ids
  | deleted roots => exact coherent.delete roots

/-! ## Resolving without a decision -/

/-- The complaint with a number, if it is there and can be stored again. -/
def storedAgain? (id : Nat) (w : World) : Option CardReport :=
  if w.mode = .ok ∧ inRange id = true then
    (w.database.cardReports.find? id).filter fun report => w.database.linksHold (.cardReport report)
  else none

theorem storedAgain?_eq_some_iff {report : CardReport} :
    storedAgain? id w = some report ↔ w.mode = .ok ∧ inRange id = true ∧
      w.database.cardReports.find? id = some report ∧
      w.database.linksHold (.cardReport report) = true := by
  unfold storedAgain?
  split
  · rename_i can
    simp [Option.filter_eq_some_iff, can]
  · rename_i cannot
    simp only [reduceCtorEq, false_iff]
    rintro ⟨writes, small, -⟩
    exact cannot ⟨writes, small⟩

/-- The complaint that a request resolves without a decision. -/
def undecided? (r : Request) (w : World) : Option CardReport :=
  match addressOf r.path with
  | some (.resolveCardReport id) =>
    if r.method = "POST" ∧ decisionOf r = .other ∧ (servedAs r.visitor w).any User.isStaff = true then
      storedAgain? id w
    else none
  | _ => none

theorem violation?_cardReport {d : Database} {report : CardReport}
    (present : d.has ⟨.cardReport, report.id⟩ = true) :
    d.violation? (.cardReport report) = none ↔ d.linksHold (.cardReport report) = true := by
  have roomy : d.isFull (.cardReport report) = false := Database.isFull_of_has present
  simp [Database.violation?_eq_none_iff, roomy, Database.outOfRange?, Database.sharedKey?, Row.uniqueKeys]

/-- A complaint is stored again if the database can be written and its references hold. -/
theorem putIf_storedAgain? {report : CardReport} {row : CardReport → Row} (small : inRange id = true)
    (found : w.database.cardReports.find? id = some report) :
    w.database.putIf ((storedAgain? id w).map row) =
      if w.mode = .ok ∧ w.database.linksHold (.cardReport report) = true then
        w.database.put (row report)
      else w.database := by
  unfold storedAgain?
  by_cases writes : w.mode = .ok <;>
    by_cases holds : w.database.linksHold (.cardReport report) = true <;>
    simp [small, found, writes, holds, Database.putIf, Option.filter]

/-- A submission without a decision marks the complaint as resolved, and changes nothing else. -/
theorem database_resolveReport (undecided : decisionOf r = .other) (online : w.mode ≠ .offline) :
    ((resolveReport r id).run w).2.database =
      w.database.putIf ((storedAgain? id w).map fun report =>
        .cardReport { report with isResolved := true }) := by
  have read : (Action.lookup Database.cardReports id).run w = _ := Action.run_lookup online id
  rw [resolveReport, Action.run_bind, Action.load, Action.run_bind, read]
  by_cases small : inRange id = true
  · cases found : w.database.cardReports.find? id with
    | none => simp [small, found, storedAgain?, Action.require, Database.putIf]
    | some report =>
        have present : w.database.has ⟨.cardReport, report.id⟩ = true :=
          Database.Slot.cardReport.has_of_find? (Table.find?_self found)
        have allowed : w.database.violation? (.cardReport { report with isResolved := true }) = none ↔
            w.database.linksHold (.cardReport report) = true := violation?_cardReport present
        have stored := Action.database_save (.cardReport { report with isResolved := true }) w
        simp only [allowed] at stored
        rw [putIf_storedAgain? small found]
        simp only [small, ↓reduceIte, Action.require, Action.run_pure, undecided, pure_bind,
          Action.run_bind_pure, stored]
  · simp [small, storedAgain?, Action.require, Database.putIf]

/-- A page beside submissions writes only what a submission writes. -/
theorem database_dispatch {page submit : Action Reply} (shows : page.Silent) (method : String)
    (w : World) :
    ((Methods.dispatch { get := some page, post := some submit } method).run w).2.database =
      if method = "POST" then (submit.run w).2.database else w.database := by
  unfold Methods.dispatch
  split
  · exact shows.unchanged w
  · exact shows.unchanged w
  · rfl
  · rfl
  · rfl
  · rename_i notPost _ _
    rw [if_neg notPost]
    rfl

theorem database_serve_resolveReport (client : r.visitor.isClient = true)
    (there : addressOf r.path = some (.resolveCardReport id)) (undecided : decisionOf r = .other) :
    ((serve r).run w).2.database =
      w.database.putIf ((undecided? r w).map fun report =>
        .cardReport { report with isResolved := true }) := by
  have chosen : serveAddress r (.resolveCardReport id) = Guard.staffOrForbidden r fun _ =>
      Methods.dispatch { get := some (showReport id), post := some (resolveReport r id) } r.method := rfl
  rw [database_serve there, chosen, undecided?, there]
  dsimp only
  by_cases staff : (servedAs r.visitor w).any User.isStaff = true
  · obtain ⟨user, served, isStaff⟩ := (Option.any_eq_true _ _).mp staff
    rw [run_staffOrForbidden served isStaff, database_dispatch (showReport_silent id)]
    by_cases posted : r.method = "POST"
    · rw [if_pos posted, if_pos ⟨posted, undecided, staff⟩]
      exact database_resolveReport undecided (online_of_servedAs client served)
    · rw [if_neg posted, if_neg fun asks => posted asks.1]
      rfl
  · rw [if_neg fun asks => staff asks.2.2, database_staffOrForbidden (by simpa using staff)]
    rfl

/-! ## Panels -/

/-- Where references hold, every complaint can be shown. -/
theorem map_shownReport? {d : Database} (sound : d.Referential) {reports : List CardReport}
    (stored : ∀ report ∈ reports, report ∈ d.cardReports.rows) :
    (reports.filterMap (shownReport? d)).map (fun shown => shown.report.id) =
      reports.map CardReport.id := by
  induction reports with
  | nil => rfl
  | cons report rest inductionHypothesis =>
      obtain ⟨here, later⟩ := List.forall_mem_cons.mp stored
      obtain ⟨card, found⟩ := Table.has_iff.mp (sound.intact.cardReports report here).1
      have shows : shownReport? d report = some
          { report, card
            author := report.userId.bind fun id => (d.users.find? id).map User.username } := by
        simp [shownReport?, found]
      rw [List.filterMap_cons_some shows, List.map_cons, List.map_cons, inductionHypothesis later]

theorem run_showPanel (online : w.mode ≠ .offline) (sound : w.database.Referential) :
    ∃ page : Page, showPanel.run w = (.ok (.ofPage page), w) ∧
      page.data.lookup "field_reports" = some (Page.numbers w.database.unresolvedIds) := by
  have listed : _ = (w.database.cardReports.rows.filter fun report => !report.isResolved).map _ :=
    map_shownReport? sound fun report member => (List.mem_filter.mp member).1
  rw [showPanel, Action.run_bind, Action.run_query_of_online online]
  refine ⟨_, rfl, ?_⟩
  rw [Database.unresolvedIds, ← listed]
  rfl

theorem run_showAdminPanel (online : w.mode ≠ .offline) :
    ∃ page : Page, showAdminPanel.run w = (.ok (.ofPage page), w) ∧
      page.data.lookup "reports" = some (Page.numbers w.database.pendingIds) := by
  have read : pendingReports.run w =
      (.ok (w.database.cardReports.rows.filter fun report => report.status == "pending"), w) := by
    rw [pendingReports, Action.run_bind, Action.run_rows online]
    rfl
  rw [showAdminPanel, Action.run_bind, read]
  exact ⟨_, rfl, rfl⟩

theorem numbers_injective : Function.Injective Page.numbers := by
  intro left right same
  have entries : left.map Json.Value.nat = right.map Json.Value.nat := by
    simpa [Page.numbers] using same
  apply List.map_injective_iff.mpr _ entries
  intro first second equal
  exact Int.ofNat_inj.mp (Json.Value.int.inj equal)

end GridCommons.Web

namespace GridCommons

open Site Account Web

namespace Step

variable {step : Step} {r : Request} {w : World}

/-- The complaint that a step resolves without a decision, if it sends a request that does. -/
def undecided? : Step → World → Option CardReport :=
  effect? Web.undecided?

/-- The step leaves no complaint pending that it resolves. -/
def Decides (step : Step) (w : World) : Prop :=
  ∀ report ∈ step.undecided? w, report.status ≠ "pending"

/-- The step sends a request of a client, but edits nothing of the administration by hand: it
saves no list as it was edited, and submits no form of a single row. -/
def EditsNothing (step : Step) : Prop :=
  ∃ r, step.sent? = some r ∧ r.visitor.isClient = true ∧
    (∀ area, addressOf r.path = some (.admin (.list area)) → r.submitted.text? "_save" = none) ∧
    ∀ page, addressOf r.path = some (.admin page) → page.entersRow = true → r.method ≠ "POST"

/-- The step is such a request, or a task of the administration. -/
def HandlesReports (step : Step) : Prop :=
  step.EditsNothing ∨ ∃ task username r, step = .administer task username r

theorem decisionOf_delivered {arrived : Request} (delivers : step.delivered? w = some arrived)
    (sends : step.sent? = some r) : decisionOf arrived = decisionOf r := by
  unfold decisionOf
  rw [text?_delivered delivers sends]

/-- A request either resolves a complaint without a decision and does nothing else, or it keeps
the marks together. -/
theorem reports_take (edits : step.EditsNothing) :
    (∃ report, step.undecided? w = some report ∧ (step.take w).2.database =
        w.database.put (.cardReport { report with isResolved := true })) ∨
      (step.undecided? w = none ∧
        (w.database.ReportsCoherent → (step.take w).2.database.ReportsCoherent)) := by
  obtain ⟨r, sent, client, unedited, unentered⟩ := edits
  by_cases undecided : (∃ id, addressOf r.path = some (.resolveCardReport id)) ∧ decisionOf r = .other
  · obtain ⟨⟨id, there⟩, other⟩ := undecided
    have written : (step.take w).2.database = w.database.putIf ((step.undecided? w).map fun report =>
        .cardReport { report with isResolved := true }) := by
      apply database_take_putIf_arrived sent
      intro arrived delivers
      have same := decisionOf_delivered delivers sent
      obtain ⟨body, rfl⟩ := delivered?_eq_some delivers sent
      exact database_serve_resolveReport (r := { r with body }) client there (same.trans other)
    rw [written]
    cases step.undecided? w with
    | none => exact .inr ⟨rfl, fun coherent => coherent⟩
    | some report => exact .inl ⟨report, rfl, rfl⟩
  · right
    constructor
    · apply Option.bind_eq_none_iff.mpr
      intro arrived delivers
      have same := decisionOf_delivered delivers sent
      obtain ⟨body, rfl⟩ := delivered?_eq_some delivers sent
      unfold Web.undecided?
      split
      · rename_i id there
        apply if_neg
        rintro ⟨-, other, -⟩
        exact undecided ⟨⟨id, there⟩, same.symm.trans other⟩
      · rfl
    · refine take_keeps_arrived (fun d d' => d.ReportsCoherent → d'.ReportsCoherent) (fun _ same => same)
        (fun first second start => second (first start)) sent ?_
      intro arrived delivers address there d d' deed
      apply deed.reportsCoherent
      · rintro id rfl other
        exact undecided ⟨⟨id, there⟩, (decisionOf_delivered delivers sent).symm.trans other⟩
      · rintro area rfl
        rw [text?_delivered delivers sent]
        exact unedited area there
      · rintro page rfl
        obtain ⟨body, rfl⟩ := delivered?_eq_some delivers sent
        exact unentered page there

/-- The tasks of the administration keep the marks together. -/
theorem administer_reportsCoherent (task : AdminTask) (username : Option String) (r : Request)
    (coherent : w.database.ReportsCoherent) :
    ((Step.administer task username r).take w).2.database.ReportsCoherent := by
  have changed : ∀ (d d' : Database) (report settled : CardReport),
      d.cardReports.find? report.id = some report →
      settled = report ∨ (∃ verdict : Verdict, settled = verdict.settle report) →
      d.store (.cardReport settled) = .ok d' → d.ReportsCoherent → d'.ReportsCoherent := by
    intro d d' report settled found same stored start
    obtain ⟨-, rfl⟩ := Database.store_eq_ok_iff.mp stored
    rcases same with rfl | ⟨verdict, rfl⟩
    · exact start.put (start _ (Table.find?_eq_some_iff.mp found).1)
    · exact start.put (coherent_settle verdict report)
  have keeps : (Step.administer task username r).act.Obeys
      (fun d d' => d.ReportsCoherent → d'.ReportsCoherent) (fun _ => True) fun _ _ => True := by
    refine (maybeUser_silent username).then fun user => ?_
    cases task with
    | changeStatus number action => exact (changeStatus_obeys changed number action).then_pure
    | moderate => exact (moderateReports_obeys changed).then_pure
    | settle verdict ids =>
        have told : (do
            let reports := (← get).database.cardReports.rows.filter fun report => ids.contains report.id
            tellSettled verdict reports.length : Action Unit).Silent :=
          Action.get_reads.silent.bind fun _ => Action.notify_silent _ _ _
        refine Action.Obeys.seq ?_ fun _ => .done
        refine .ite (fun _ => ?_) fun _ => told.obeys.forget
        refine Action.Obeys.seq (.mutate fun d _ start => ?_) fun _ => told.obeys.forget
        exact start.settleIn verdict ids
  have run := (keeps (nextSecond w) trivial).1
  have after : ∀ d, Relation.ReflTransGen (fun d d' : Database => d.ReportsCoherent → d'.ReportsCoherent)
      w.database d → d.ReportsCoherent := by
    intro d path
    induction path with
    | refl => exact coherent
    | tail _ kept inductionHypothesis => exact kept inductionHypothesis
  exact after _ run

/-- The marks go on agreeing exactly if the step decides what it resolves. -/
theorem reportsCoherent_take_iff (handles : step.HandlesReports) (coherent : w.database.ReportsCoherent) :
    (step.take w).2.database.ReportsCoherent ↔ step.Decides w := by
  unfold Decides
  rcases handles with edits | ⟨task, username, r, rfl⟩
  · rcases reports_take (w := w) edits with ⟨report, closes, written⟩ | ⟨nothing, kept⟩
    · rw [closes, written, Database.reportsCoherent_put_resolved_iff coherent]
      simp
    · rw [nothing]
      simp [kept coherent]
  · have nothing : (Step.administer task username r).undecided? w = none := rfl
    rw [nothing]
    simp [administer_reportsCoherent task username r coherent]

/-- The step asks for the page at an address, arrives, and is served as a user of the staff. -/
structure StaffReads (step : Step) (address : Address) (r : Request) (w : World) : Prop where
  sent : step.sent? = some r
  client : r.visitor.isClient = true
  got : r.method = "GET"
  there : addressOf r.path = some address
  arrives : (step.delivered? (nextSecond w)).isSome = true
  staff : (servedAs r.visitor (nextSecond w)).any User.isStaff = true

section Panels

variable {address : Address} {page : Page} {name : String}

theorem StaffReads.shows (reads : step.StaffReads address r w)
    (serves : ∀ body, (serveAddress { r with body } address).run (nextSecond w) =
      (.ok (.ofPage page), nextSecond w)) (name : String) :
    (step.take w).1.shown? name = page.data.lookup name := by
  have replies : step.reply? w = some (.ofPage page) := by
    apply reply?_of_serves reads.sent reads.arrives
    intro body
    rw [run_serve (r := { r with body }) reads.there (serves body)]
  have told := (tells_of_reply? reads.sent replies).content (by simp [reads.got])
  simp [StepResult.shown?, told, Reply.ofPage]

theorem StaffReads.served (reads : step.StaffReads address r w) :
    ∃ user, servedAs r.visitor (nextSecond w) = some user ∧ user.isStaff = true ∧
      w.mode ≠ .offline := by
  obtain ⟨user, served, staff⟩ := (Option.any_eq_true _ _).mp reads.staff
  exact ⟨user, served, staff, online_of_servedAs (w := nextSecond w) reads.client served⟩

/-- The panel of the site lists the complaints that are not resolved. -/
theorem shown?_moderation (reads : step.StaffReads .moderation r w) (sound : w.database.Referential) :
    (step.take w).1.shown? "field_reports" = some (Page.numbers w.database.unresolvedIds) := by
  obtain ⟨user, served, staff, online⟩ := reads.served
  obtain ⟨page, ends, listed⟩ := run_showPanel (w := nextSecond w) online sound
  rw [reads.shows _ "field_reports", listed]
  · rfl
  · intro body
    have chosen : serveAddress { r with body } .moderation =
        Guard.staffOrForbidden { r with body } fun _ => showPanel := by
      simp [serveAddress, reads.got, Methods.dispatch, Methods.reading]
    rw [chosen, run_staffOrForbidden (r := { r with body }) served staff, ends]

/-- The panel of the administration lists the complaints that are pending. -/
theorem shown?_panel (reads : step.StaffReads (.admin .panel) r w) :
    (step.take w).1.shown? "reports" = some (Page.numbers w.database.pendingIds) := by
  obtain ⟨user, served, staff, online⟩ := reads.served
  obtain ⟨page, ends, listed⟩ := run_showAdminPanel (w := nextSecond w) online
  rw [reads.shows _ "reports", listed]
  · rfl
  · intro body
    have chosen : serveAddress { r with body } (.admin .panel) =
        Guard.staff { r with body } fun _ => moderateReports { r with body } := rfl
    have nothing : ({ r with body } : Request).submitted = {} := by
      simp [Request.submitted, reads.got]
    have shows : moderateReports { r with body } = showAdminPanel := by
      simp [moderateReports, nothing, Form.Submission.text?]
    rw [chosen, run_staff (r := { r with body }) served staff, shows, ends]

end Panels

end Step

/-- A complaint is resolved exactly if it is no longer pending, at every moment of a run of
requests and tasks that starts so, exactly if no submission resolves a pending complaint without
a decision.  Where references hold, staff see the same complaints on the panel of the site and on
that of the administration exactly while this is so. -/
theorem reports_stay_coherent_iff {steps : List Step} {w : World}
    (handled : ∀ step ∈ steps, step.HandlesReports) (coherent : w.database.ReportsCoherent) :
    ((∀ earlier, earlier <+: steps → (runSteps earlier w).2.database.ReportsCoherent) ↔
        EachStep Step.Decides steps w) ∧
      (w.database.Referential →
        let reached := (runSteps steps w).2
        ∀ site panel r r', Step.StaffReads site .moderation r reached →
          Step.StaffReads panel (.admin .panel) r' reached →
          ∃ listed, (site.take reached).1.shown? "field_reports" = some (Page.numbers listed) ∧
            ((panel.take reached).1.shown? "reports" = some (Page.numbers listed) ↔
              reached.database.ReportsCoherent)) := by
  constructor
  · exact holds_along_iff (fun w => w.database.ReportsCoherent)
      (fun _ _ handles => Step.reportsCoherent_take_iff handles) handled coherent
  · intro sound reached site panel r r' readsSite readsPanel
    have soundThere : reached.database.Referential :=
      Database.referential_of_evolves (runSteps_evolves steps w) sound
    refine ⟨reached.database.unresolvedIds, Step.shown?_moderation readsSite soundThere, ?_⟩
    rw [Step.shown?_panel readsPanel, Option.some_inj, numbers_injective.eq_iff,
      Database.pendingIds_eq_iff]

/-! ### A complaint is turned down, and one is resolved without a word -/

/-- A user of the staff, signed in from a browser, and a pending complaint about a card. -/
def reportSite : World :=
  { now := ⟨0⟩
    database :=
      [.user { id := 1, username := "mod", isStaff := true, dateJoined := ⟨0⟩, password := .plain "" },
        .card { id := 1, userId := 1, title := "", description := "", createdAt := ⟨0⟩,
                updatedAt := ⟨0⟩ },
        .cardReport { id := 1, cardId := 1, userId := some 1, reason := "spam",
                      createdAt := ⟨0⟩ }].foldl Database.put {}
    sessions := Table.put {} { key := 1, userId := 1, stamp := .plain "", expires := ⟨100⟩ }
    browsers := [("mod", 1)] }

def settles (texts : List (String × List String)) : Step :=
  .request { method := "POST", path := "/moderation/field/1/", visitor := .browser "mod"
             body := .form { texts } [] }

def asksForPanel (path : String) : Request :=
  { path, visitor := .browser "mod" }

theorem reportsCoherent_reportSite : reportSite.database.ReportsCoherent := by
  intro report member
  obtain rfl := List.mem_singleton.mp member
  simp [CardReport.Coherent]

theorem handlesReports_settles (texts : List (String × List String)) : (settles texts).HandlesReports := by
  have there : addressOf "/moderation/field/1/" = some (.resolveCardReport 1) := by decide +kernel
  refine .inl ⟨_, rfl, rfl, fun area elsewhere => ?_, fun page elsewhere => ?_⟩
  · cases there.symm.trans elsewhere
  · cases there.symm.trans elsewhere

/-- The complaint that is turned down leaves both panels. -/
theorem reports_stay_coherent_iff_ignored :
    let reached := (runSteps [settles [("action", ["ignore"])]] reportSite).2
    reached.database.ReportsCoherent ∧
      ∃ listed, ((Step.request (asksForPanel "/moderation/")).take reached).1.shown? "field_reports" =
          some (Page.numbers listed) ∧
        ((Step.request (asksForPanel "/admin/main_app/fieldreport/moderation-panel/")).take reached).1.shown?
          "reports" = some (Page.numbers listed) := by
  have handled : ∀ step ∈ [settles [("action", ["ignore"])]], step.HandlesReports :=
    List.forall_mem_singleton.mpr (handlesReports_settles _)
  have decides : EachStep Step.Decides [settles [("action", ["ignore"])]] reportSite := by
    have nothing : (settles [("action", ["ignore"])]).undecided? reportSite = none := by decide +kernel
    refine ⟨?_, trivial⟩
    rw [Step.Decides, nothing]
    simp
  have sound : reportSite.database.Referential := by
    unfold Database.Referential
    decide
  obtain ⟨along, panels⟩ := reports_stay_coherent_iff handled reportsCoherent_reportSite
  have coherent := along.mpr decides _ List.prefix_rfl
  obtain ⟨listed, onSite, iff⟩ := panels sound (.request (asksForPanel "/moderation/"))
    (.request (asksForPanel "/admin/main_app/fieldreport/moderation-panel/")) _ _
    ⟨rfl, rfl, rfl, by decide +kernel, by decide +kernel, by decide +kernel⟩
    ⟨rfl, rfl, rfl, by decide +kernel, by decide +kernel, by decide +kernel⟩
  exact ⟨coherent, listed, onSite, iff.mpr coherent⟩

/-- A submission without a decision resolves a complaint and leaves it pending. -/
theorem resolved_while_pending :
    ∃ step w, Step.HandlesReports step ∧ w.database.ReportsCoherent ∧
      ¬(step.take w).2.database.ReportsCoherent := by
  have handles := handlesReports_settles []
  have closes : ((settles []).undecided? reportSite).map CardReport.status = some "pending" := by
    decide +kernel
  refine ⟨settles [], reportSite, handles, reportsCoherent_reportSite, ?_⟩
  rw [Step.reportsCoherent_take_iff handles reportsCoherent_reportSite]
  intro decides
  obtain ⟨report, closed, pending⟩ := Option.map_eq_some_iff.mp closes
  exact decides report closed pending

end GridCommons
