import GridCommons.Proofs.Settling
import GridCommons.Proofs.Submitting

/-!
Contract: the change of a complaint's status.

Owns:
- actions whose faults no page answers;
- the complaint that a change of status stores again, and the form in which it is stored;
- that a change of status always ends with a fault, and stays written all the same.

The change of status looks for the panel that is to follow only after the complaint is stored.  The
panel has no address of that name.
-/

namespace GridCommons.Site.Action

variable {α β : Type} {action : Action α} {next : α → Action β}

/-- No page answers the faults that end the action. -/
def Escapes (action : Action α) : Prop :=
  ∀ w fault, (action.run w).1 = .error fault → fault.isAnswered = false

theorem Escapes.bind (first : action.Escapes) (rest : ∀ a, (next a).Escapes) :
    (action >>= next).Escapes := by
  intro w fault fails
  rw [run_bind] at fails
  rcases ran : action.run w with ⟨failure | a, reached⟩
  · rw [ran] at fails
    cases fails
    exact first w fault (congrArg Prod.fst ran)
  · rw [ran] at fails
    exact rest a reached fault fails

theorem Escapes.pure {a : α} : (Pure.pure a : Action α).Escapes := by
  intro w fault fails
  cases fails

theorem notify_escapes (level : NoticeLevel) (text tags : String) : (notify level text tags).Escapes := by
  intro w fault fails
  cases fails

theorem query_escapes : query.Escapes := by
  intro w fault fails
  rw [run_query] at fails
  split at fails <;> cases fails
  rfl

theorem lookup_escapes [Numbered α] (table : Database → Table α) (id : Nat) :
    (lookup table id).Escapes := by
  unfold lookup
  split
  · exact query_escapes.bind fun _ => .pure
  · exact .pure

theorem save_escapes (row : Row) : (save row).Escapes := by
  intro w fault fails
  rw [save, run_commit] at fails
  split at fails
  · split at fails <;> cases fails
    rfl
  · cases fails
    rfl
  · cases fails
    rfl

end GridCommons.Site.Action

namespace GridCommons.Web

open Site Account
open GridCommons.Json (Value)

variable {r : Request} {w : World} {number : Value} {action : Option String} {name : String} {id : Nat}

/-! ## A change of status -/

/-- The name of the verdict that a change of status goes by. -/
def verdictName (r : Request) (action : Option String) : String :=
  if (action.getD "").isEmpty then (r.param? "action").getD "" else action.getD ""

/-- A complaint as a change of status stores it: without a verdict as it was. -/
def judged (name : String) (report : CardReport) : CardReport :=
  ((Verdict.ofName? name).map fun verdict => verdict.settle report).getD report

/-- The complaint with a given number, if it can be stored again. -/
def namedReport? (number : Value) (w : World) : Option CardReport :=
  match rowNumber number with
  | .ok (some (.ofNat id)) => storedAgain? id w
  | _ => none

/-- Store a complaint as a change of status does. -/
def storeJudged (name about : String) (report : CardReport) : Action Unit := do
  (Verdict.ofName? name).forM fun verdict => Action.notify .success (about ++ verdict.one) ""
  Action.save (.cardReport (judged name report))

/-- What a change of status does before it looks for the panel. -/
def recordVerdict (name : String) (number : Value) : Action Unit := do
  let about := "Жалоба #" ++ givenNumber number ++ " "
  match ← givenReport number with
  | none => Action.notify .error (about ++ "не найдена") ""
  | some report => storeJudged name about report

/-- There is no panel to go on to. -/
theorem changeStatus_eq :
    changeStatus r number action = (do
      recordVerdict (verdictName r action) number
      Action.fail (.unknownNamespace "moderation" [])) := by
  have lost : reverse "moderation:fieldreport_moderation_panel" [] =
      .error (.unknownNamespace "moderation" []) := by
    have spaces : splitSpaces "moderation:fieldreport_moderation_panel" =
        (["moderation"], "fieldreport_moderation_panel") := by decide +kernel
    rw [reverse, spaces]
    rfl
  unfold changeStatus recordVerdict
  rw [lost, bind_assoc]
  apply bind_congr
  intro found
  cases found with
  | none => rfl
  | some report =>
      dsimp only
      rw [← verdictName, storeJudged, judged]
      cases Verdict.ofName? (verdictName r action) <;> rfl

/-- No page answers a number that cannot be read. -/
theorem isAnswered_rowNumber {fault : Fault} (fails : rowNumber number = .error fault) :
    fault.isAnswered = false := by
  unfold rowNumber at fails
  split at fails
  · cases fails
  · cases fails
    rfl
  · split at fails <;> cases fails <;> rfl

/-- No page answers the faults that end a verdict by name. -/
theorem recordVerdict_escapes (name : String) (number : Value) : (recordVerdict name number).Escapes := by
  have reads : (givenReport number).Escapes := by
    have given : (Action.ofExcept (rowNumber number)).Escapes := by
      intro w fault fails
      cases read : rowNumber number with
      | ok found =>
          rw [read] at fails
          cases fails
      | error failure =>
          rw [read] at fails
          cases fails
          exact isAnswered_rowNumber read
    refine given.bind fun found => ?_
    split
    · exact Action.lookup_escapes _ _
    · exact .pure
  refine reads.bind fun found => ?_
  cases found with
  | none => exact Action.notify_escapes _ _ _
  | some report =>
      refine Action.Escapes.bind ?_ fun _ => Action.save_escapes _
      cases Verdict.ofName? name with
      | none => exact .pure
      | some verdict => exact Action.notify_escapes _ _ _

/-- A change of status always ends with a fault that no page answers. -/
theorem changeStatus_fails (r : Request) (number : Value) (action : Option String) (w : World) :
    ∃ fault reached, (changeStatus r number action).run w = (.error fault, reached) ∧
      fault.isAnswered = false := by
  rw [changeStatus_eq, Action.run_bind]
  rcases ran : (recordVerdict (verdictName r action) number).run w with ⟨fault | _, reached⟩
  · exact ⟨fault, reached, rfl, recordVerdict_escapes _ _ w fault (congrArg Prod.fst ran)⟩
  · exact ⟨_, reached, rfl, rfl⟩

/-- A judged complaint is stored if the database can be written and its references hold. -/
theorem database_storeJudged {report : CardReport} {about : String}
    (present : w.database.has ⟨.cardReport, report.id⟩ = true) :
    ((storeJudged name about report).run w).2.database =
      if w.mode = .ok ∧ w.database.linksHold (.cardReport report) = true then
        w.database.put (.cardReport (judged name report))
      else w.database := by
  have allowed : w.database.violation? (.cardReport (judged name report)) = none ↔
      w.database.linksHold (.cardReport report) = true := by
    unfold judged
    cases Verdict.ofName? name <;> exact violation?_cardReport present
  have stored := Action.database_save (.cardReport (judged name report))
  simp only [← allowed]
  unfold storeJudged
  cases Verdict.ofName? name with
  | none => exact stored w
  | some verdict => exact stored { w with notices := w.notices ++ [⟨.success, about ++ verdict.one, ""⟩] }

/-- A change of status stores one complaint again, if it is there and can be stored. -/
theorem database_changeStatus (online : w.mode ≠ .offline) :
    ((changeStatus r number action).run w).2.database =
      w.database.putIf ((namedReport? number w).map fun report =>
        .cardReport (judged (verdictName r action) report)) := by
  have recorded : ((changeStatus r number action).run w).2 =
      ((recordVerdict (verdictName r action) number).run w).2 := by
    rw [changeStatus_eq, Action.run_bind]
    rcases (recordVerdict (verdictName r action) number).run w with ⟨fault | _, reached⟩ <;> rfl
  rw [recorded, recordVerdict, Action.run_bind, givenReport, Action.run_bind]
  unfold namedReport?
  rcases rowNumber number with fault | (_ | id | below)
  · rfl
  · rfl
  · have read : (Action.lookup Database.cardReports id).run w = _ := Action.run_lookup online id
    dsimp only [Action.ofExcept, Action.run_pure]
    rw [read]
    by_cases small : inRange id = true
    · cases found : w.database.cardReports.find? id with
      | none => simp [small, found, storedAgain?, Database.putIf, Action.notify]
      | some report =>
          have present : w.database.has ⟨.cardReport, report.id⟩ = true :=
            Database.Slot.cardReport.has_of_find? (Table.find?_self found)
          rw [putIf_storedAgain? small found, if_pos small]
          exact database_storeJudged present
    · simp [small, storedAgain?, Database.putIf, Action.notify]
  · rfl

theorem find?_of_namedReport? {report : CardReport} (named : namedReport? number w = some report) :
    w.database.cardReports.find? report.id = some report := by
  unfold namedReport? at named
  split at named
  · exact Table.find?_self (storedAgain?_eq_some_iff.mp named).2.2.1
  · cases named

/-- A verdict is lost on a complaint exactly if it was settled like that. -/
theorem settle_eq_self_iff {verdict : Verdict} {report : CardReport} :
    verdict.settle report = report ↔ report.status = verdict.status ∧ report.isResolved = true := by
  obtain ⟨⟩ := report
  simp [Verdict.settle, eq_comm]

/-- The number and the name of a verdict that come with a request to change a status: at the address
for it, or submitted to the panel. -/
def statusAsked? (r : Request) : Address → Option (Value × String)
  | .admin (.changeStatus report) => some (.nat report, (r.param? "action").getD "")
  | .admin .panel =>
    match r.submitted.text? "report_id", r.submitted.text? "action" with
    | some number, some action =>
      if number.isEmpty || action.isEmpty then none else some (.text number, action)
    | _, _ => none
  | _ => none

/-- The complaints stay as they are exactly if the stored one does. -/
theorem cardReports_put_judged_iff {report : CardReport}
    (found : w.database.cardReports.find? report.id = some report) :
    (w.database.put (.cardReport (judged name report))).cardReports.rows = w.database.cardReports.rows ↔
      ∀ verdict, Verdict.ofName? name = some verdict →
        report.status = verdict.status ∧ report.isResolved = true := by
  have same : (w.database.put (.cardReport (judged name report))).cardReports.rows =
      w.database.cardReports.rows ↔ judged name report = report := by
    constructor
    · intro unchanged
      have member : judged name report ∈ (w.database.cardReports.put (judged name report)).rows :=
        Table.mem_put.mpr (.inl rfl)
      have stored : judged name report ∈ w.database.cardReports.rows := unchanged ▸ member
      have number : (judged name report).id = report.id := by
        unfold judged
        cases Verdict.ofName? name <;> rfl
      have here := Table.find?_eq_some_iff.mpr ⟨stored, number⟩
      exact Option.some.inj (here.symm.trans found)
    · intro same
      rw [same]
      exact congrArg Table.rows (Table.put_eq_self (Table.find?_eq_some_iff.mp found).1)
  rw [same, judged]
  cases Verdict.ofName? name with
  | none => simp
  | some verdict => simp [settle_eq_self_iff]

/-- Requests to change a status that the staff make all lead to the change. -/
theorem run_serveAddress_of_asked {address : Address} {user : User}
    (served : servedAs r.visitor w = some user) (staff : user.isStaff = true)
    (asks : statusAsked? r address = some (number, name)) :
    ∃ action, verdictName r action = name ∧
      (serveAddress r address).run w = (changeStatus r number action).run w := by
  unfold statusAsked? at asks
  split at asks
  · cases asks
    exact ⟨none, rfl, run_staff served staff⟩
  · split at asks
    · rename_i given action numbered named
      split at asks
      · cases asks
      · rename_i filled
        cases asks
        rw [Bool.or_eq_true, not_or] at filled
        have chosen : moderateReports r = changeStatus r (.text given) (some name) := by
          simp [moderateReports, numbered, named, filled]
        refine ⟨some name, if_neg filled.2, ?_⟩
        rw [← chosen]
        exact run_staff served staff
    · cases asks
  · cases asks

end GridCommons.Web

namespace GridCommons

open Site Web

variable {step : Step} {address : Address} {w : World} {r arrived : Request} {user : User}

theorem Step.Arrives.statusAsked? (arrives : step.Arrives address w r arrived) :
    Web.statusAsked? arrived address = Web.statusAsked? r address := by
  have numbered := arrives.text? "report_id"
  have named := arrives.text? "action"
  obtain ⟨body, rfl⟩ := Step.delivered?_eq_some arrives.arrives arrives.sent
  unfold Web.statusAsked?
  rw [numbered, named]
  rfl

/-- A failed change of status stays written.  Every request of the staff to change the status of a
complaint ends with a fault that no page answers.  What it wrote before is that the complaint has
the verdict, and nothing else.  So the complaints are as they were exactly if the request names no
verdict, or no complaint that can be stored, or one that was settled like that before. -/
theorem failed_status_change_stays_written {number : Json.Value} {name : String}
    (reaches : step.Reaches address w r arrived user) (staff : user.isStaff = true)
    (asks : statusAsked? r address = some (number, name)) :
    (∃ fault, ((serve arrived).run (Step.nextSecond w)).1 = .error fault) ∧
      (step.take w).2.database =
        w.database.putIf ((namedReport? number w).map fun report => .cardReport (judged name report)) ∧
      ((step.take w).2.database.cardReports.rows = w.database.cardReports.rows ↔
        ∀ verdict report, Verdict.ofName? name = some verdict → namedReport? number w = some report →
          report.status = verdict.status ∧ report.isResolved = true) := by
  have asked := reaches.statusAsked?.trans asks
  have written := reaches.database_take
  obtain ⟨body, rfl⟩ := Step.delivered?_eq_some reaches.arrives reaches.sent
  obtain ⟨action, named, behind⟩ :=
    run_serveAddress_of_asked (r := { r with body }) reaches.served staff asked
  rw [behind, database_changeStatus reaches.online, named] at written
  refine ⟨?_, written, ?_⟩
  · obtain ⟨fault, reached, ends, escapes⟩ :=
      changeStatus_fails { r with body } number action (Step.nextSecond w)
    have fails := run_serve_of_fault (r := { r with body }) reaches.there (behind.trans ends) escapes
    exact ⟨fault, congrArg Prod.fst fails⟩
  · rw [written]
    change (w.database.putIf ((namedReport? number w).map _)).cardReports.rows = _ ↔ _
    cases found : namedReport? number w with
    | none => simp [Database.putIf]
    | some report =>
        rw [Option.map_some, Database.putIf, cardReports_put_judged_iff (find?_of_namedReport? found)]
        simp

/-! ### A pending complaint is approved -/

/-- The user of the staff approves the complaint at the address for it. -/
def approvesFirst : Request :=
  { path := "/admin/main_app/fieldreport/moderation-panel/1/change-status/", query := "action=approve"
    visitor := .browser "mod" }

/-- The request ends with a fault, and the complaint is approved. -/
theorem failed_status_change_stays_written_approved :
    (∃ fault, ((serve approvesFirst).run (Step.nextSecond reportSite)).1 = .error fault) ∧
      ((Step.request approvesFirst).take reportSite).2.database =
        reportSite.database.put
          (.cardReport { id := 1, cardId := 1, userId := some 1, reason := "spam", createdAt := ⟨0⟩
                         status := "approved", isResolved := true }) := by
  have there : addressOf approvesFirst.path = some (.admin (.changeStatus 1)) := by decide +kernel
  have asks : statusAsked? approvesFirst (.admin (.changeStatus 1)) = some (.nat 1, "approve") := by
    have name : approvesFirst.param? "action" = some "approve" := by decide +kernel
    rw [statusAsked?, name]
    rfl
  have served : (Account.servedAs approvesFirst.visitor (Step.nextSecond reportSite)).isSome = true := rfl
  obtain ⟨user, served⟩ := Option.isSome_iff_exists.mp served
  have staff : user.isStaff = true := by
    cases served
    rfl
  have reaches : (Step.request approvesFirst).Reaches (.admin (.changeStatus 1)) reportSite approvesFirst
      approvesFirst user := ⟨⟨rfl, there, rfl⟩, rfl, served⟩
  obtain ⟨fails, written, -⟩ := failed_status_change_stays_written reaches staff asks
  exact ⟨fails, written⟩

/-- A change of status that fails leaves another complaint than it found. -/
theorem failing_request_approves :
    ((Step.request approvesFirst).take reportSite).1.answer.isOk = false ∧
      (reportSite.database.cardReports.rows.map fun report => (report.status, report.isResolved)) =
        [("pending", false)] ∧
      (((Step.request approvesFirst).take reportSite).2.database.cardReports.rows.map
        fun report => (report.status, report.isResolved)) = [("approved", true)] := by
  decide +kernel

end GridCommons
