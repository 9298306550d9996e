import GridCommons.Account.Creation
import GridCommons.Account.Session
import GridCommons.Command.Basic
import GridCommons.Form.Step
import GridCommons.Front.Gate
import GridCommons.Site.Call
import GridCommons.Site.Cells
import GridCommons.Site.DraftCheck
import GridCommons.Web.Site
import GridCommons.Web.Upload

/-!
Contract: a run of the site, step by step.

Owns:
- the steps that can be taken, and what each answers;
- the clock, which moves on by one second before each step;
- the result of a step: its answer or fault, the notices it gave, and what it
  changed in the database.
-/

namespace GridCommons

open Site

inductive Subject where
  | stored (id : Nat)
  | unsaved (values : Record)
deriving Repr

inductive AdminTask where
  | changeStatus (number : Json.Value) (action : Option String)
  | moderate
  | settle (verdict : Web.Verdict) (ids : List Nat)
deriving Repr

inductive Step where
  | setClock (time : Instant)
  | setMode (mode : Mode)
  | createUser (new : Account.NewUser)
  | create (kind : Kind) (values : Record)
  | update (kind : Kind) (id : Nat) (values : Record)
  | join (kind : Kind) (id : Nat) (relation : String) (users : List Nat)
  | signIn (browser username : String)
  | call (kind : Kind) (subject : Subject) (operation : Operation)
  | check (kind : Kind) (values : Record)
  | fillCells (id : Nat)
  | listCards
  | form (sheet : Form.Sheet) (submitted : Form.Submission) (owner : Option String)
      (save : Option Bool)
  | resolve (path : String)
  | reverse (name : String) (args : List Json.Value)
  | request (r : Web.Request)
  | unlisted (place : Web.Unlisted) (username : Option String) (r : Web.Request)
  | administer (task : AdminTask) (username : Option String) (r : Web.Request)
  | checkFacts (facts : Web.ProfileFacts)
  | checkReport (username : String) (cardId : Nat) (grievance : Web.Grievance)
  | register (submitted : Form.Submission)
  | arrive (arrival : Front.Arrival)
  | command (args : List String)
deriving Repr

inductive Answer where
  | done
  | made (id : Nat)
  | counted (n : Nat)
  | called (outcome : CallOutcome)
  | checked
  | cards (ids : List Nat)
  | filled (report : Form.Report)
  | resolved (found : Option Web.Resolved)
  | path (path : String)
  | replied (reply : Web.Reply)
  | accepted
  | registered (username : String)
  | refused (complaints : Form.Complaints)
  | responded (response : Front.Response)
  | managed (outcome : Command.Outcome)

structure StepResult where
  answer : Except Fault Answer
  notices : List Notice := []
  changes : List Database.Change := []

namespace Step

def userNamed (username : String) : Action User := do
  let users ← Action.rows Database.users
  Action.require (.noRow .user) (users.find? fun user => user.username == username)

/-- Cards that are not blocked, the newest first. -/
def openCards : Action (List Nat) := do
  let cards ← Action.rows Database.cards
  let newest := (cards.filter fun card => !card.isBlocked).mergeSort fun a b =>
    decide (b.createdAt.seconds ≤ a.createdAt.seconds)
  return newest.map Card.id

/-- The user with a name; no name is no user. -/
def maybeUser (username : Option String) : Action (Option User) :=
  username.mapM userNamed

/-- A body as it arrives: files come under the names they are kept by. -/
def arrivedBody : Web.Body → Action Web.Body
  | .form submitted data => do
    let files ← submitted.files.mapM fun (key, upload) => do return (key, ← upload.kept)
    let arrived := files.filterMap fun (key, upload) => do return (key, ← Web.arrived upload)
    return .form { submitted with files := arrived } data
  | body => return body

/-- Serve a request.  A browser keeps its session if a fault ends the request. -/
def serveRequest (r : Web.Request) : Action Web.Reply := do
  let browsers := (← get).browsers
  match ← Action.attempt do Web.serveBrowser { r with body := ← arrivedBody r.body } with
  | .ok reply => return reply
  | .error fault =>
    modify fun w => { w with browsers }
    Action.fail fault

def administration (r : Web.Request) : AdminTask → Action Answer
  | .changeStatus number action => return .replied (← Web.changeStatus r number action)
  | .moderate => return .replied (← Web.moderateReports r)
  | .settle verdict ids => do
    Web.settleReports verdict ids
    return .done

/-- Register a user without opening a session. -/
def registration (submitted : Form.Submission) : Action Answer := do
  let form ← Form.Registration.check submitted
  match form.valid? with
  | none => return .refused form.complaints
  | some v =>
    let user ← Action.load Database.users (.noRow .user) (← Form.Registration.save v)
    return .registered user.username

def act : Step → Action Answer
  | .setClock time => do
    modify fun w => { w with now := time }
    return .done
  | .setMode mode => do
    modify fun w => { w with mode }
    return .done
  | .createUser new => return .made (← Account.create new)
  | .create kind values => return .made (← (Draft.make kind (← Action.now) values).insert)
  | .update kind id values => return .counted (← Draft.update kind id values)
  | .join kind id relation users => do
    let _ ← Action.loadRow ⟨kind, id⟩
    let relation ← Action.require (.noMember kind.label relation) (Relation.ofName? kind relation)
    Action.join relation id users
    return .counted (← Action.members relation id).length
  | .signIn browser username => do
    let user ← userNamed username
    Account.signIn (.browser browser) user
    return .done
  | .call kind subject operation => do
    let draft ←
      match subject with
      | .stored id => pure (Draft.ofRow (← Action.loadRow ⟨kind, id⟩))
      | .unsaved values => pure (Draft.make kind (← Action.now) values)
    return .called (← draft.call operation)
  | .check kind values => do
    (Draft.make kind (← Action.now) values).check
    return .checked
  | .fillCells id => do
    Cells.fill (← Action.load Database.cards (.noRow .card) id)
    return .done
  | .listCards => return .cards (← openCards)
  | .form sheet submitted owner save => return .filled (← Form.fill sheet submitted owner save)
  | .resolve path => return .resolved (Web.resolve path)
  | .reverse name args => return .path (← Action.ofExcept (Web.reverse name args))
  | .request r => return .replied (← serveRequest r)
  | .unlisted place username r => do
    let r := { r with visitor := .direct (← maybeUser username) }
    return .replied (← Web.callUnlisted r place)
  | .administer task username r => do
    administration { r with visitor := .direct (← maybeUser username) } task
  | .checkFacts facts => do
    facts.check
    return .accepted
  | .checkReport username cardId grievance => do
    Web.checkReport (← userNamed username) cardId grievance
    return .accepted
  | .register submitted => registration submitted
  | .arrive arrival => return .responded (← Front.answerLent arrival)
  | .command args => return .managed (← (Command.ofArgs args).run)

/-- The state in which the next step is taken: a second later, with nothing told yet. -/
def nextSecond (w : World) : World :=
  { w with now := w.now.later 1, notices := [] }

/-- Take a step at the next second, and tell what came of it. -/
def take (step : Step) (w : World) : StepResult × World :=
  let start := nextSecond w
  let (answer, after) := step.act.run start
  ({ answer, notices := after.notices, changes := start.database.changes after.database }, after)

end Step

def runSteps : List Step → World → List StepResult × World
  | [], w => ([], w)
  | step :: rest, w =>
    let (result, w) := step.take w
    let (results, w) := runSteps rest w
    (result :: results, w)

end GridCommons
