import GridCommons.Page.Moderation
import GridCommons.Web.Address
import GridCommons.Web.Number
import GridCommons.Web.Request
import GridCommons.Web.Reply

/-!
Contract: the administration's panel of complaints.

Owns:
- verdicts on complaints, and the change of a complaint's status;
- settling many complaints at once.
-/

namespace GridCommons.Web

open Site
open GridCommons.Json (Value)

inductive Verdict where
  | approve
  | reject
deriving DecidableEq, Repr

namespace Verdict

def ofName? : String → Option Verdict
  | "approve" => some .approve
  | "reject" => some .reject
  | _ => none

def status : Verdict → String
  | .approve => "approved"
  | .reject => "rejected"

def one : Verdict → String
  | .approve => "одобрена"
  | .reject => "отклонена"

def many : Verdict → String
  | .approve => "одобрено"
  | .reject => "отклонено"

def settle (verdict : Verdict) (report : CardReport) : CardReport :=
  { report with status := verdict.status, isResolved := true }

end Verdict

def pendingReports : Action (List CardReport) := do
  return (← Action.rows Database.cardReports).filter fun report => report.status == "pending"

def showAdminPanel : Action Reply := do
  return .ofPage (Page.adminPanel (← pendingReports)
    [("title", .text "Панель модерации жалоб"), ("app_label", .text "main_app")])

/-- A number of a row as it was given: a value of its own, or a text. -/
def givenNumber : Value → String
  | .str (.whole s) => s
  | v => v.shown

def givenReport (v : Value) : Action (Option CardReport) := do
  match ← Action.ofExcept (rowNumber v) with
  | some (.ofNat id) => Action.lookup Database.cardReports id
  | _ => return none

/-- Change the status of a complaint.  Without a name of a verdict the one of the
query counts.  The panel that follows has no address of its own. -/
def changeStatus (r : Request) (number : Value) (action : Option String) : Action Reply := do
  let name := if (action.getD "").isEmpty then (r.param? "action").getD "" else action.getD ""
  let about := "Жалоба #" ++ givenNumber number ++ " "
  match ← givenReport number with
  | none => Action.notify .error (about ++ "не найдена") ""
  | some report =>
    match Verdict.ofName? name with
    | some verdict =>
      Action.notify .success (about ++ verdict.one) ""
      Action.save (.cardReport (verdict.settle report))
    | none => Action.save (.cardReport report)
  return .redirect (← Action.ofExcept (reverse "moderation:fieldreport_moderation_panel" []))

/-- The panel of complaints; a submitted number and verdict settle one of them. -/
def moderateReports (r : Request) : Action Reply := do
  match r.submitted.text? "report_id", r.submitted.text? "action" with
  | some number, some action =>
    if number.isEmpty || action.isEmpty then showAdminPanel
    else changeStatus r (.text number) (some action)
  | _, _ => showAdminPanel

/-- The complaints of a list of numbers after a verdict. -/
def settleIn (verdict : Verdict) (ids : List Nat) (d : Database) : Database :=
  { d with
    cardReports := d.cardReports.map
      (fun report => if ids.contains report.id then verdict.settle report else report)
      (by intro report; split <;> rfl) }

def tellSettled (verdict : Verdict) (count : Nat) : Action Unit :=
  Action.notify .success (s!"{count} жалоб " ++ verdict.many) ""

/-- Settle many complaints at once, and tell how many there are.  Without numbers
nothing is written. -/
def settleReports (verdict : Verdict) (ids : List Nat) : Action Unit := do
  if !ids.isEmpty then Action.mutate (settleIn verdict ids)
  let reports := (← get).database.cardReports.rows.filter fun report => ids.contains report.id
  tellSettled verdict reports.length

end GridCommons.Web
