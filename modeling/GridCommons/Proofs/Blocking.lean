import GridCommons.Proofs.Outcome

/-!
Contract: blocking and unblocking by submissions.

Owns:
- the change that a submission is meant to make, where the site has one for the content;
- where a submission ends: what it writes, and whether it reports success;
- which content moderators can block and unblock;
- when a report of success is true.

Does not own: what a ban keeps from its user.
-/

namespace GridCommons.Site

namespace Action

variable {w : World} {changed : Database}

/-- The operation leads to a database and tells so where the database can be written.
Elsewhere it changes nothing and tells that it failed. -/
def WritesSafely (operation : Action Bool) (changed : Database) (w : World) : Prop :=
  operation.run w =
    (.ok (decide (w.mode = .ok)), { w with database := if w.mode = .ok then changed else w.database })

theorem WritesSafely.succeeds {action : Action Unit}
    (works : w.mode = .ok → action.run w = (.ok (), { w with database := changed }))
    (fails : w.mode ≠ .ok → ∃ fault, action.run w = (.error fault, w)) :
    (Action.succeeds action).WritesSafely changed w := by
  unfold WritesSafely Action.succeeds
  rw [run_bind, run_attempt]
  by_cases writes : w.mode = .ok
  · simp [works writes, writes]
  · obtain ⟨fault, ends⟩ := fails writes
    simp [ends, writes]

/-- A touched row is read and stored in one go. -/
theorem run_touch {kind : Kind} {id : Nat} {row : Row} (change : Row → Row) (writes : w.mode = .ok)
    (found : w.database.find? ⟨kind, id⟩ = some row) :
    (touch kind (some id) change).run w =
      (.ok (), { w with database := w.database.put (change row) }) := by
  simp only [touch, run_bind, run_writable_of_ok writes, run_get, found, run_mutate_of_ok writes]

/-- Without a database to write, nothing is touched. -/
theorem run_touch_of_ne_ok (kind : Kind) (id : Nat) (change : Row → Row) (refuses : w.mode ≠ .ok) :
    ∃ fault, (touch kind (some id) change).run w = (.error fault, w) := by
  cases mode : w.mode with
  | ok => exact absurd mode refuses
  | readOnly => exact ⟨.readOnly, by simp [touch, mode]⟩
  | offline => exact ⟨.offline, by simp [touch, mode]⟩

end Action

namespace Moderation

variable {w : World} {id : Nat}

/-- The database with a user banned. -/
def banned (user : User) (d : Database) : Database :=
  blockCommentsOf user.id (blockCardsOf user.id (d.put (.user { user with isActive := false })))

theorem safeBlockComment_writes {comment : Comment}
    (found : w.database.comments.find? id = some comment) :
    (safeBlockComment (some id)).WritesSafely
      (w.database.put (.comment { comment with isBlocked := true })) w :=
  .succeeds (fun writes => Action.run_touch _ writes (Database.Slot.comment.find?_inject found))
    (Action.run_touch_of_ne_ok .comment id _)

theorem safeUnblockCard_writes {card : Card} (found : w.database.cards.find? id = some card) :
    (safeUnblockCard (some id)).WritesSafely
      (w.database.put (.card { card with isBlocked := false })) w :=
  .succeeds (fun writes => Action.run_touch _ writes (Database.Slot.card.find?_inject found))
    (Action.run_touch_of_ne_ok .card id _)

theorem safeBan_writes {user : User} (found : w.database.users.find? id = some user) :
    (safeBan (some id)).WritesSafely (banned user w.database) w := by
  obtain ⟨-, rfl⟩ := Table.find?_eq_some_iff.mp found
  apply Action.WritesSafely.succeeds
  · intro writes
    have touched := Action.run_touch (Row.setActive false) writes (Database.Slot.user.find?_inject found)
    simp only [Database.Slot.user] at touched
    simp only [ban, Action.run_bind, touched, Action.run_mutate, writes]
    rfl
  · intro refuses
    obtain ⟨fault, ends⟩ :=
      Action.run_touch_of_ne_ok .user (Numbered.id user) (Row.setActive false) refuses
    exact ⟨fault, by simp only [ban, Action.run_bind, ends]⟩

end Moderation

end GridCommons.Site

namespace GridCommons.Web

open Site Account

variable {w : World} {content : String} {id : Nat}

/-! ## Submissions -/

/-- The database with content blocked, where it is there and the site can block it. -/
def blocking? (content : String) (id : Nat) (d : Database) : Option Database :=
  if inRange id then
    match content with
    | "comment" =>
      (d.comments.find? id).map fun comment => d.put (.comment { comment with isBlocked := true })
    | "user" => (d.users.find? id).map fun user => Moderation.banned user d
    | _ => none
  else none

/-- The database with content unblocked, where it is there and the site can unblock it. -/
def unblocking? (content : String) (id : Nat) (d : Database) : Option Database :=
  if inRange id then
    match content with
    | "field" => (d.cards.find? id).map fun card => d.put (.card { card with isBlocked := false })
    | _ => none
  else none

/-- The submission leads back to the panel with one notice.  It makes the change that it
aims at where the database can be written, but reports success wherever the database can be
read. -/
def Moderates (action : Action Reply) (aim : Database → Option Database) (w : World) : Prop :=
  ∃ notice : Notice,
    action.run w =
      (.ok (.redirect moderationPath),
        { w with
          database := if w.mode = .ok then (aim w.database).getD w.database else w.database
          notices := w.notices ++ [notice] }) ∧
    (notice.level = .success ↔ w.mode ≠ .offline ∧ (aim w.database).isSome = true)

theorem run_tellingFaults (action : Action Unit) (w : World) :
    (tellingFaults action).run w =
      match action.run w with
      | (.ok _, reached) => (.ok (.redirect moderationPath), reached)
      | (.error fault, reached) =>
        (.ok (.redirect moderationPath),
          { reached with notices := reached.notices ++ [⟨.error, "Ошибка: %s", fault.message⟩] }) := by
  rw [tellingFaults, Action.run_bind, Action.run_attempt]
  rcases action.run w with ⟨fault | done, reached⟩ <;> rfl

/-- A fault that comes before the write leaves all as it was, and is told. -/
theorem Moderates.of_fault {action : Action Unit} {fault : Fault} {aim : Database → Option Database}
    (ends : action.run w = (.error fault, w))
    (aimless : w.mode = .offline ∨ aim w.database = none) :
    Moderates (tellingFaults action) aim w := by
  refine ⟨⟨.error, "Ошибка: %s", fault.message⟩, ?_, ?_⟩
  · rw [run_tellingFaults, ends]
    rcases aimless with offline | nothing
    · simp [offline]
    · simp [nothing]
  · rcases aimless with offline | nothing
    · simp [offline]
    · simp [nothing]

section Rows

variable {α : Type} [Numbered α] {table : Database → Table α} {fault : Fault} {text : String}

/-- Loading finds the row, if the number can be asked for, or ends with a fault. -/
theorem load_finds_or_fails (table : Database → Table α) (fault : Fault) (id : Nat) (w : World) :
    (∃ row, (w.mode ≠ .offline ∧ inRange id = true ∧ (table w.database).find? id = some row) ∧
      (Action.load table fault id).run w = (.ok row, w)) ∨
    (w.mode = .offline ∨ inRange id = false ∨ (table w.database).find? id = none) ∧
      ∃ ends, (Action.load table fault id).run w = (.error ends, w) := by
  cases small : inRange id with
  | false => exact .inr ⟨.inr (.inl rfl), fault, by simp [Action.load, Action.lookup, small, Action.require]⟩
  | true =>
      by_cases online : w.mode = .offline
      · exact .inr ⟨.inl online, .offline, by simp [Action.load, Action.lookup, small, online]⟩
      cases found : (table w.database).find? id with
      | some row => exact .inl ⟨row, ⟨online, rfl, rfl⟩, Action.run_load online small found⟩
      | none =>
          refine .inr ⟨.inr (.inr rfl), fault, ?_⟩
          rw [Action.load, Action.run_bind, Action.run_lookup online, if_pos small, found]
          rfl

/-- Where the site has no operation for content, a submission changes nothing. -/
theorem Moderates.of_refusal :
    Moderates
      (tellingFaults do
        let _ ← Action.load table fault id
        Action.notify .error text "")
      (fun _ => none) w := by
  rcases load_finds_or_fails table fault id w with ⟨row, -, loads⟩ | ⟨-, ends, fails⟩
  · refine ⟨⟨.error, text, ""⟩, ?_, by simp⟩
    rw [run_tellingFaults, Action.run_bind, loads]
    simp [Action.notify]
  · exact .of_fault (by rw [Action.run_bind, fails]) (.inr rfl)

/-- Content is moderated as its row is changed, and a missing row is a fault that is told. -/
theorem Moderates.of_row {operation : Action Bool} {changed : α → Database → Database}
    (writes : ∀ row, (table w.database).find? id = some row →
      operation.WritesSafely (changed row w.database) w) :
    Moderates
      (tellingFaults do
        let _ ← Action.load table fault id
        let _ ← operation
        Action.notify .success text "")
      (fun d => if inRange id then ((table d).find? id).map fun row => changed row d else none) w := by
  rcases load_finds_or_fails table fault id w with
    ⟨row, ⟨online, small, found⟩, loads⟩ | ⟨missing, ends, fails⟩
  · have written : operation.run w = _ := writes row found
    refine ⟨⟨.success, text, ""⟩, ?_, by simp [online, small, found]⟩
    rw [run_tellingFaults, Action.run_bind, loads]
    simp [Action.run_bind, written, Action.notify, small, found]
  · refine .of_fault (by rw [Action.run_bind, fails]) (missing.imp_right fun absent => ?_)
    rcases absent with large | absent
    · simp [large]
    · simp [absent]

end Rows

/-- Blocking content ends as `blocking?` tells, whatever the content is. -/
theorem blockContent_moderates (content : String) (id : Nat) (w : World) :
    Moderates (blockContent content id) (blocking? content id) w := by
  unfold blockContent blocking?
  split
  · simpa using Moderates.of_refusal
  · simpa using Moderates.of_row fun _ => Moderation.safeBlockComment_writes
  · simpa using Moderates.of_row fun _ => Moderation.safeBan_writes
  · exact .of_fault rfl (.inr (by simp [*]))

/-- Unblocking content ends as `unblocking?` tells, whatever the content is. -/
theorem unblockContent_moderates (content : String) (id : Nat) (w : World) :
    Moderates (unblockContent content id) (unblocking? content id) w := by
  unfold unblockContent unblocking?
  split
  · simpa using Moderates.of_row fun _ => Moderation.safeUnblockCard_writes
  · simpa using Moderates.of_refusal
  · exact .of_fault rfl (.inr (by simp [*]))

/-! ## Requests -/

section Requests

variable {r : Request}

theorem state_serve_block (there : addressOf r.path = some (.block content id))
    (posted : r.method = "POST") (staff : ∃ user ∈ servedAs r.visitor w, user.isStaff = true) :
    ((serve r).run w).2 = ((blockContent content id).run w).2 := by
  obtain ⟨user, served, isStaff⟩ := staff
  rw [state_serve there, serveAddress, run_staff served isStaff, state_submission, if_pos posted]

theorem state_serve_unblock (there : addressOf r.path = some (.unblock content id))
    (posted : r.method = "POST") : ((serve r).run w).2 = ((unblockContent content id).run w).2 := by
  rw [state_serve there, serveAddress, state_submission, if_pos posted]

/-- Of the requests to block content, only submissions of the staff give a notice. -/
theorem admitted_of_block_notice (there : addressOf r.path = some (.block content id))
    (notified : ((serve r).run w).2.notices ≠ w.notices) :
    r.method = "POST" ∧ ∃ user ∈ servedAs r.visitor w, user.isStaff = true := by
  rw [state_serve there, serveAddress] at notified
  by_cases staff : ∃ user ∈ servedAs r.visitor w, user.isStaff = true
  · refine ⟨?_, staff⟩
    obtain ⟨user, served, isStaff⟩ := staff
    rw [run_staff served isStaff, state_submission] at notified
    by_cases posted : r.method = "POST"
    · exact posted
    · rw [if_neg posted] at notified
      exact absurd rfl notified
  · have refused : ∀ user ∈ servedAs r.visitor w, user.isStaff = false := by
      simpa using staff
    rw [state_staff_refused refused] at notified
    exact absurd (currentUser_keeps r.visitor w) notified

theorem posted_of_unblock_notice (there : addressOf r.path = some (.unblock content id))
    (notified : ((serve r).run w).2.notices ≠ w.notices) : r.method = "POST" := by
  rw [state_serve there, serveAddress, state_submission] at notified
  by_cases posted : r.method = "POST"
  · exact posted
  · rw [if_neg posted] at notified
    exact absurd rfl notified

end Requests

end GridCommons.Web

namespace GridCommons.Step

open Site Account Web

variable {step : Step} {r : Request} {w : World} {content : String} {id : Nat}
  {aim : Database → Option Database}

/-! ## Steps -/

/-- The step submits a request, which arrives. -/
structure Submits (step : Step) (r : Request) (w : World) : Prop where
  sent : step.sent? = some r
  posted : r.method = "POST"
  arrives : (step.delivered? (nextSecond w)).isSome = true

/-- The step submits a request, which arrives and is served as a user of the staff. -/
structure StaffSubmits (step : Step) (r : Request) (w : World) : Prop extends Submits step r w where
  staff : ∃ user ∈ servedAs r.visitor (nextSecond w), user.isStaff = true

def ReportsSuccess (step : Step) (w : World) : Prop :=
  ∃ notice ∈ (step.take w).1.notices, notice.level = .success

/-- What a step makes of a change that its submission aims at. -/
structure Moderates (step : Step) (aim : Database → Option Database) (w : World) : Prop where
  database : (step.take w).2.database =
    if w.mode = .ok then (aim w.database).getD w.database else w.database
  mode : (step.take w).2.mode = w.mode
  success : step.ReportsSuccess w ↔ w.mode ≠ .offline ∧ (aim w.database).isSome = true

/-- A submission moderates as the operation at its address does. -/
theorem Submits.moderates {submission : Action Reply} (submits : step.Submits r w)
    (serves : ∀ body, ((serve { r with body }).run (nextSecond w)).2 =
      (submission.run (nextSecond w)).2)
    (ends : Web.Moderates submission aim (nextSecond w)) : step.Moderates aim w := by
  obtain ⟨notice, runs, success⟩ := ends
  obtain ⟨arrived, delivers⟩ := Option.isSome_iff_exists.mp submits.arrives
  obtain ⟨body, rfl⟩ := delivered?_eq_some delivers submits.sent
  have reached := (serves body).trans (congrArg Prod.snd runs)
  have notices := notices_take submits.sent w
  have database := database_take submits.sent w
  have mode : (step.take w).2.mode = _ := seen_take (fun _ _ => rfl) submits.sent w
  rw [delivers] at notices database mode
  dsimp only at notices database mode
  rw [reached] at notices database mode
  refine ⟨database, mode, ?_⟩
  rw [ReportsSuccess, notices]
  simpa [nextSecond] using success

theorem Moderates.database_of_ok (moderates : step.Moderates aim w) (writes : w.mode = .ok) :
    (step.take w).2.database = (aim w.database).getD w.database :=
  moderates.database.trans (if_pos writes)

theorem StaffSubmits.moderates_block (submits : step.StaffSubmits r w)
    (there : addressOf r.path = some (.block content id)) :
    step.Moderates (blocking? content id) w := by
  apply submits.moderates _ (blockContent_moderates content id _)
  intro body
  exact state_serve_block there submits.posted submits.staff

theorem Submits.moderates_unblock (submits : step.Submits r w)
    (there : addressOf r.path = some (.unblock content id)) :
    step.Moderates (unblocking? content id) w := by
  apply submits.moderates _ (unblockContent_moderates content id _)
  intro body
  exact state_serve_unblock there submits.posted

/-- A step reports nothing that serving its request does not report. -/
theorem notified_of_reportsSuccess (sends : step.sent? = some r) (reports : step.ReportsSuccess w) :
    (step.delivered? (nextSecond w)).isSome = true ∧
      ∃ body, ((serve { r with body }).run (nextSecond w)).2.notices ≠ (nextSecond w).notices := by
  obtain ⟨notice, given, -⟩ := reports
  rw [notices_take sends] at given
  cases delivers : step.delivered? (nextSecond w) with
  | none => simp [delivers] at given
  | some arrived =>
      obtain ⟨body, rfl⟩ := delivered?_eq_some delivers sends
      rw [delivers] at given
      exact ⟨rfl, body, List.ne_nil_of_mem given⟩

/-- Only staff is told that content was blocked. -/
theorem staffSubmits_of_reportsSuccess (sends : step.sent? = some r)
    (there : addressOf r.path = some (.block content id)) (reports : step.ReportsSuccess w) :
    step.StaffSubmits r w := by
  obtain ⟨arrives, body, notified⟩ := notified_of_reportsSuccess sends reports
  obtain ⟨posted, staff⟩ := admitted_of_block_notice (r := { r with body }) there notified
  exact ⟨⟨sends, posted, arrives⟩, staff⟩

theorem submits_of_reportsSuccess (sends : step.sent? = some r)
    (there : addressOf r.path = some (.unblock content id)) (reports : step.ReportsSuccess w) :
    step.Submits r w := by
  obtain ⟨arrives, body, notified⟩ := notified_of_reportsSuccess sends reports
  exact ⟨sends, posted_of_unblock_notice (r := { r with body }) there notified, arrives⟩

end GridCommons.Step

/-! ## Content that moderators can block and unblock -/

namespace GridCommons.Web

open Site

/-- Content that moderators are to block and to unblock. -/
inductive Moderable where
  | card
  | comment
deriving DecidableEq, Repr

namespace Moderable

/-- The word for content in a path. -/
def word : Moderable → String
  | card => "field"
  | comment => "comment"

def kind : Moderable → Kind
  | card => .card
  | comment => .comment

end Moderable

section Content

variable {content : Moderable} {id : Nat} {row : Row} {d : Database}

/-- Comments can be blocked, and cards cannot. -/
theorem blocking?_word (small : inRange id = true) (found : d.find? ⟨content.kind, id⟩ = some row) :
    blocking? content.word id d =
      if content = .comment then some (d.put (row.setBlocked true)) else none := by
  cases content with
  | card => simp [blocking?, Moderable.word]
  | comment =>
      obtain ⟨comment, foundComment, rfl⟩ := Database.Slot.comment.find?_eq_some found
      have here : d.comments.find? id = some comment := foundComment
      simp [blocking?, Moderable.word, small, here, Row.setBlocked, Database.Slot.comment]

/-- Cards can be unblocked, and comments cannot. -/
theorem unblocking?_word (small : inRange id = true) (found : d.find? ⟨content.kind, id⟩ = some row) :
    unblocking? content.word id d =
      if content = .card then some (d.put (row.setBlocked false)) else none := by
  cases content with
  | card =>
      obtain ⟨card, foundCard, rfl⟩ := Database.Slot.card.find?_eq_some found
      have here : d.cards.find? id = some card := foundCard
      simp [unblocking?, Moderable.word, small, here, Row.setBlocked, Database.Slot.card]
  | comment => simp [unblocking?, Moderable.word]

/-- A comment that was open is not as it was once it is blocked. -/
theorem put_blocked_ne (found : d.find? ⟨.comment, id⟩ = some row)
    (isOpen : row.setBlocked false = row) : d.put (row.setBlocked true) ≠ d := by
  obtain ⟨comment, foundComment, rfl⟩ := Database.Slot.comment.find?_eq_some found
  obtain ⟨-, rfl⟩ := Table.find?_eq_some_iff.mp foundComment
  intro same
  have stored : (d.comments.put { comment with isBlocked := true }).find? comment.id =
      some { comment with isBlocked := true } :=
    (Table.find?_put d.comments _ _).trans (if_pos rfl)
  have kept : (d.comments.put { comment with isBlocked := true }).find? comment.id = some comment :=
    (congrArg (fun d : Database => d.comments.find? comment.id) same).trans foundComment
  have blocked := congrArg Comment.isBlocked (Option.some.inj (stored.symm.trans kept))
  have unblocked := congrArg Comment.isBlocked (Row.comment.inj isOpen)
  cases blocked.trans unblocked.symm

/-- Of content that was open, blocking and unblocking together restore cards only. -/
theorem restored_iff (small : inRange id = true) (found : d.find? ⟨content.kind, id⟩ = some row)
    (isOpen : row.setBlocked false = row) {d' : Database}
    (blocked : d' = (blocking? content.word id d).getD d) :
    (unblocking? content.word id d').getD d' = d ↔ content = .card := by
  rw [blocking?_word small found] at blocked
  cases content with
  | card =>
      have same : d' = d := blocked
      obtain ⟨card, foundCard, rfl⟩ := Database.Slot.card.find?_eq_some found
      have member : card ∈ d.cards.rows := (Table.find?_eq_some_iff.mp foundCard).1
      have stored : d.put (.card card) = d :=
        congrArg (fun cards => { d with cards }) (Table.put_eq_self member)
      rw [same, unblocking?_word small found, if_pos rfl, isOpen]
      exact iff_of_true stored rfl
  | comment =>
      have same : d' = d.put (row.setBlocked true) := blocked
      have nothing : unblocking? Moderable.comment.word id d' = none := by
        simp [unblocking?, Moderable.word]
      rw [nothing, same]
      simpa using put_blocked_ne found isOpen

end Content

end GridCommons.Web

namespace GridCommons

open Site Account Web

variable {w : World}

/-- While the database can be written, a submission of the staff to block a comment sets its
flag and changes nothing else, and so does one to unblock a card.  A submission to block a card
or to unblock a comment changes nothing.  So content that was open is as it was after
both exactly if it is a card. -/
theorem staff_blocks_comments_unblocks_cards {content : Moderable} {id : Nat} {row : Row}
    (writes : w.mode = .ok) (small : inRange id = true)
    (found : w.database.find? ⟨content.kind, id⟩ = some row) :
    (∀ step r, Step.StaffSubmits step r w → addressOf r.path = some (.block content.word id) →
      (step.take w).2.database =
        if content = .comment then w.database.put (row.setBlocked true) else w.database) ∧
    (∀ step r, Step.StaffSubmits step r w → addressOf r.path = some (.unblock content.word id) →
      (step.take w).2.database =
        if content = .card then w.database.put (row.setBlocked false) else w.database) ∧
    (row.setBlocked false = row →
      ∀ block unblock r r', Step.StaffSubmits block r w →
        addressOf r.path = some (.block content.word id) →
        Step.StaffSubmits unblock r' (block.take w).2 →
        addressOf r'.path = some (.unblock content.word id) →
        ((runSteps [block, unblock] w).2.database = w.database ↔ content = .card)) := by
  refine ⟨?_, ?_, ?_⟩
  · intro step r submits there
    rw [(submits.moderates_block there).database_of_ok writes, blocking?_word small found]
    split <;> rfl
  · intro step r submits there
    rw [(submits.moderates_unblock there).database_of_ok writes, unblocking?_word small found]
    split <;> rfl
  · intro isOpen block unblock r r' submits there submitsLater thereLater
    have blocks := submits.moderates_block there
    have writesLater : (block.take w).2.mode = .ok := blocks.mode.trans writes
    have ends : (runSteps [block, unblock] w).2.database = _ :=
      (submitsLater.moderates_unblock thereLater).database_of_ok writesLater
    rw [ends]
    exact restored_iff small found isOpen (blocks.database_of_ok writes)

/-! ### A moderator's submissions -/

/-- A comment that nobody has blocked, on a card. -/
def unblockedComment : Comment :=
  { id := 1, cardId := 1, authorId := 1, text := "", createdAt := ⟨0⟩ }

def unblockedCard : Card :=
  { id := 1, userId := 1, title := "", description := "", createdAt := ⟨0⟩, updatedAt := ⟨0⟩ }

/-- A site with both, where a moderator is signed in from a browser. -/
def panelSite (mode : Mode) : World :=
  { now := ⟨0⟩
    mode
    database :=
      [.user { id := 1, username := "mod", isStaff := true, dateJoined := ⟨0⟩, password := .plain "" },
        .card unblockedCard, .comment unblockedComment].foldl Database.put {}
    sessions := Table.put {} { key := 1, userId := 1, stamp := .plain "", expires := ⟨100⟩ }
    browsers := [("mod", 1)] }

def moderatorBlocks (content : Moderable) : Request :=
  { method := "POST", path := "/moderation/block/" ++ content.word ++ "/1/", visitor := .browser "mod" }

theorem addressOf_moderatorBlocks (content : Moderable) :
    addressOf (moderatorBlocks content).path = some (.block content.word 1) := by
  cases content <;> decide +kernel

theorem staffSubmits_moderatorBlocks (content : Moderable) {mode : Mode} (online : mode ≠ .offline) :
    (Step.request (moderatorBlocks content)).StaffSubmits (moderatorBlocks content) (panelSite mode) := by
  cases mode with
  | ok | readOnly => exact ⟨⟨rfl, rfl, rfl⟩, _, rfl, rfl⟩
  | offline => exact absurd rfl online

theorem staff_blocks_comments_unblocks_cards_comment :
    ((Step.request (moderatorBlocks .comment)).take (panelSite .ok)).2.database.comments.find? 1 =
      some { unblockedComment with isBlocked := true } := by
  have found : (panelSite .ok).database.find? ⟨Moderable.comment.kind, 1⟩ =
      some (.comment unblockedComment) := rfl
  obtain ⟨blocks, -, -⟩ := staff_blocks_comments_unblocks_cards rfl (by decide) found
  rw [blocks _ _ (staffSubmits_moderatorBlocks .comment nofun) (addressOf_moderatorBlocks .comment)]
  rfl

/-- Moderators cannot block a card. -/
theorem staff_blocks_no_card :
    ∃ step r w id card, Step.StaffSubmits step r w ∧ w.mode = .ok ∧
      addressOf r.path = some (.block "field" id) ∧ w.database.cards.find? id = some card ∧
      (step.take w).2.database.cards.find? id = some card ∧ card.isBlocked = false := by
  have online : Mode.ok ≠ .offline := nofun
  have submits := staffSubmits_moderatorBlocks .card online
  have there := addressOf_moderatorBlocks .card
  refine ⟨_, _, _, 1, unblockedCard, submits, rfl, there, rfl, ?_, rfl⟩
  rw [(submits.moderates_block there).database]
  rfl

/-! ## What a report of success tells -/

namespace Site.Database

/-- The user is there, and not active. -/
def Inactive (id : Nat) (d : Database) : Prop :=
  ∃ user, d.users.find? id = some user ∧ user.isActive = false

/-- The user is not active, and all cards and comments of the user are blocked. -/
structure Banned (id : Nat) (d : Database) : Prop where
  inactive : d.Inactive id
  cards : ∀ card ∈ d.cards.rows, card.userId = id → card.isBlocked = true
  comments : ∀ comment ∈ d.comments.rows, comment.authorId = id → comment.isBlocked = true

/-- A user who was banned is inactive, with all cards and comments blocked. -/
theorem banned_banned {d : Database} {id : Nat} {user : User} (found : d.users.find? id = some user) :
    (Moderation.banned user d).Banned id := by
  obtain ⟨-, rfl⟩ := Table.find?_eq_some_iff.mp found
  constructor
  · exact ⟨_, (Table.find?_put d.users _ _).trans (if_pos rfl), rfl⟩
  · intro card member owned
    obtain ⟨old, -, rfl⟩ := List.mem_map.mp member
    split at owned
    · rename_i own
      exact congrArg Card.isBlocked (if_pos own)
    · rename_i other
      exact absurd owned other
  · intro comment member written
    obtain ⟨old, -, rfl⟩ := List.mem_map.mp member
    split at written
    · rename_i own
      exact congrArg Comment.isBlocked (if_pos own)
    · rename_i other
      exact absurd written other

end Site.Database

namespace Web

/-- What a report that content was blocked tells. -/
def ToldBlocked (content : String) (id : Nat) (d : Database) : Prop :=
  match content with
  | "field" => ∃ card, d.cards.find? id = some card ∧ card.isBlocked = true
  | "comment" => ∃ comment, d.comments.find? id = some comment ∧ comment.isBlocked = true
  | "user" => d.Banned id
  | _ => False

/-- What a report that content was unblocked tells. -/
def ToldUnblocked (content : String) (id : Nat) (d : Database) : Prop :=
  match content with
  | "field" => ∃ card, d.cards.find? id = some card ∧ card.isBlocked = false
  | "comment" => ∃ comment, d.comments.find? id = some comment ∧ comment.isBlocked = false
  | _ => False

/-- Content that was blocked is in the state that the notice tells of. -/
theorem toldBlocked_of_blocking? {content : String} {id : Nat} {d d' : Database}
    (blocks : blocking? content id d = some d') : ToldBlocked content id d' := by
  unfold blocking? at blocks
  split at blocks
  · split at blocks
    · obtain ⟨comment, found, rfl⟩ := Option.map_eq_some_iff.mp blocks
      obtain ⟨-, rfl⟩ := Table.find?_eq_some_iff.mp found
      exact ⟨_, (Table.find?_put d.comments _ _).trans (if_pos rfl), rfl⟩
    · obtain ⟨user, found, rfl⟩ := Option.map_eq_some_iff.mp blocks
      exact Database.banned_banned found
    · cases blocks
  · cases blocks

/-- Content that was unblocked is in the state that the notice tells of. -/
theorem toldUnblocked_of_unblocking? {content : String} {id : Nat} {d d' : Database}
    (unblocks : unblocking? content id d = some d') : ToldUnblocked content id d' := by
  unfold unblocking? at unblocks
  split at unblocks
  · split at unblocks
    · obtain ⟨card, found, rfl⟩ := Option.map_eq_some_iff.mp unblocks
      obtain ⟨-, rfl⟩ := Table.find?_eq_some_iff.mp found
      exact ⟨_, (Table.find?_put d.cards _ _).trans (if_pos rfl), rfl⟩
    · cases unblocks
  · cases unblocks

end Web

/-- Where success is reported, the database was changed if it could be, and is as before
otherwise. -/
theorem Step.Moderates.told_iff {step : Step} {aim : Database → Option Database}
    {told : Database → Prop} (moderates : step.Moderates aim w)
    (truly : ∀ d d', aim d = some d' → told d') (reports : step.ReportsSuccess w) :
    told (step.take w).2.database ↔ w.mode = .ok ∨ told w.database := by
  obtain ⟨-, aimed⟩ := moderates.success.mp reports
  obtain ⟨changed, aims⟩ := Option.isSome_iff_exists.mp aimed
  rw [moderates.database, aims]
  by_cases writes : w.mode = .ok
  · simpa [writes] using truly _ _ aims
  · simp [writes]

/-- A submission to block or to unblock content that is let through reports success wherever the
database can be read and the site has such an operation for the content.  The report
is true exactly if the database can be written, or what it tells was so before. -/
theorem success_reports_true_iff {step : Step} {r : Request} (sends : step.sent? = some r)
    (content : String) (id : Nat) :
    (addressOf r.path = some (.block content id) →
      (step.ReportsSuccess w ↔ step.StaffSubmits r w ∧ w.mode ≠ .offline ∧
        (blocking? content id w.database).isSome = true) ∧
      (step.ReportsSuccess w → (ToldBlocked content id (step.take w).2.database ↔
        w.mode = .ok ∨ ToldBlocked content id w.database))) ∧
    (addressOf r.path = some (.unblock content id) →
      (step.ReportsSuccess w ↔ step.Submits r w ∧ w.mode ≠ .offline ∧
        (unblocking? content id w.database).isSome = true) ∧
      (step.ReportsSuccess w → (ToldUnblocked content id (step.take w).2.database ↔
        w.mode = .ok ∨ ToldUnblocked content id w.database))) := by
  constructor
  · intro there
    have admitted := Step.staffSubmits_of_reportsSuccess (w := w) sends there
    constructor
    · constructor
      · intro reports
        exact ⟨admitted reports, ((admitted reports).moderates_block there).success.mp reports⟩
      · rintro ⟨submits, aimed⟩
        exact (submits.moderates_block there).success.mpr aimed
    · intro reports
      exact ((admitted reports).moderates_block there).told_iff
        (fun _ _ => toldBlocked_of_blocking?) reports
  · intro there
    have admitted := Step.submits_of_reportsSuccess (w := w) sends there
    constructor
    · constructor
      · intro reports
        exact ⟨admitted reports, ((admitted reports).moderates_unblock there).success.mp reports⟩
      · rintro ⟨submits, aimed⟩
        exact (submits.moderates_unblock there).success.mpr aimed
    · intro reports
      exact ((admitted reports).moderates_unblock there).told_iff
        (fun _ _ => toldUnblocked_of_unblocking?) reports

/-- While the database can be written, the report that the comment was blocked is true. -/
theorem success_reports_true_iff_comment :
    (Step.request (moderatorBlocks .comment)).ReportsSuccess (panelSite .ok) ∧
      ToldBlocked "comment" 1
        ((Step.request (moderatorBlocks .comment)).take (panelSite .ok)).2.database := by
  have sends : (Step.request (moderatorBlocks .comment)).sent? = some (moderatorBlocks .comment) := rfl
  obtain ⟨blocks, -⟩ := success_reports_true_iff (w := panelSite .ok) sends "comment" 1
  obtain ⟨success, truth⟩ := blocks (addressOf_moderatorBlocks .comment)
  have reports := success.mpr ⟨staffSubmits_moderatorBlocks .comment nofun, nofun, by decide⟩
  exact ⟨reports, (truth reports).mpr (.inl rfl)⟩

/-- Success is reported of a comment that stays open. -/
theorem success_reported_of_nothing :
    ∃ step r w id, Step.sent? step = some r ∧ w.mode = .readOnly ∧
      addressOf r.path = some (.block "comment" id) ∧ step.ReportsSuccess w ∧
      ¬ToldBlocked "comment" id (step.take w).2.database := by
  have online : Mode.readOnly ≠ .offline := nofun
  have there := addressOf_moderatorBlocks .comment
  have moderates := (staffSubmits_moderatorBlocks .comment online).moderates_block there
  have reports := moderates.success.mpr ⟨online, rfl⟩
  refine ⟨_, _, _, 1, rfl, rfl, there, reports, ?_⟩
  rw [moderates.database]
  rintro ⟨comment, found, blocked⟩
  cases found
  cases blocked

end GridCommons
