import GridCommons.Proofs.Forms

/-!
Contract: what a valid registration leaves behind.

Owns:
- the outcome of storing a new user, of opening a session and of registering, told
  exactly;
- that a session which was opened with another password serves nobody;
- that a visitor who registered is not signed in.

A registration stores the password twice, under a salt of its own each time, and opens the
session in between.
-/

namespace GridCommons.Site

namespace Draft

variable {kind : Kind} {password : Password} {r : Record} {row : Row} {w : World}

/-- Values that are complete and in range are stored as the row they make up. -/
theorem run_storeValues (writes : w.mode = .ok)
    (ranged : (r.any fun entry => entry.2.outOfRange) = false) (filled : emptyColumn? kind r = none)
    (made : Row.ofValues? kind password r = some row)
    (stored : w.database.storeFresh row = .ok (w.database.put row)) :
    (storeValues kind password r none).run w =
      (.ok (), { w with database := w.database.put row }) := by
  simp only [storeValues, Action.run_bind, Action.run_writable, writes, ranged, filled, made,
    Action.run_commit, stored, Bool.false_eq_true, ↓reduceIte]

/-- A draft that nothing forbids is inserted under its number. -/
theorem run_insertAs {draft : Draft} {values : Record} {id : Nat} (writes : w.mode = .ok)
    (taken : (draft.stamp w.now true).taken = .ok r) (numbered : insertId draft.kind r w.database = id)
    (room : inRange id = true) (named : r.set "id" (.int id) = values)
    (ranged : (values.any fun entry => entry.2.outOfRange) = false)
    (filled : emptyColumn? draft.kind values = none)
    (made : Row.ofValues? draft.kind password values = some row)
    (stored : w.database.storeFresh row = .ok (w.database.put row)) :
    (draft.insertAs (some password)).run w = (.ok id, { w with database := w.database.put row }) := by
  have stores := run_storeValues writes ranged filled made stored
  subst named numbered
  rw [insertId] at stores room
  simp only [insertAs, Action.run_bind, Action.now, Action.run_get, Action.run_pure, taken,
    Action.ofExcept, Option.getD_some, room, Bool.not_true, Bool.false_and, Bool.false_eq_true,
    ↓reduceIte, stores]
  rfl

end Draft

namespace Database

variable {d : Database} {user : User}

/-- Where there is a number for a user, no constraint forbids it exactly if no other user has its
name. -/
theorem violation?_user_iff (room : d.isFull (.user user) = false) :
    d.violation? (.user user) = none ↔
      ∀ other ∈ d.users.rows, other.id ≠ user.id → other.username ≠ user.username := by
  have holds : d.linksHold (.user user) = true := by simp [linksHold, Row.links, Row.members]
  have bounded : outOfRange? (.user user) = none := rfl
  have rows : d.rowsOf (Row.user user).kind = d.users.rows.map .user := Slot.user.rowsOf_eq d
  rw [violation?_eq_none_iff, sharedKey?_eq_none_iff, rows]
  simp [room, holds, bounded, Row.uniqueKeys, Row.id, eq_comm (a := user.username)]

/-- A user is refused only for the number or the name. -/
theorem violation?_user (room : inRange user.id = true)
    (free : ∀ other ∈ d.users.rows, other.id ≠ user.id → other.username ≠ user.username) :
    d.violation? (.user user) = none :=
  (violation?_user_iff (isFull_of_inRange room)).mpr free

theorem storeFresh_user (room : inRange user.id = true) (new : user.id = d.users.next)
    (free : ∀ other ∈ d.users.rows, other.username ≠ user.username) :
    d.storeFresh (.user user) = .ok (d.put (.user user)) := by
  have vacant : d.has ⟨.user, user.id⟩ = false := new ▸ has_next d .user
  have allowed : d.violation? (.user user) = none :=
    violation?_user room fun other member _ => free other member
  have here : (Row.user user).ref = ⟨.user, user.id⟩ := rfl
  rw [storeFresh, here, vacant]
  exact store_eq_ok_iff.mpr ⟨allowed, rfl⟩

end Database

end GridCommons.Site

namespace GridCommons.Account

open Site

variable {name : String} {user : User} {w : World}

theorem run_storedPassword (secret : String) (w : World) :
    (storedPassword (some secret)).run w =
      (.ok (.salted secret w.nextSalt), { w with nextSalt := w.nextSalt + 1 }) :=
  rfl

/-! ## Sessions -/

/-- The sessions without the one that a browser holds. -/
def sessionsBut (name : String) (w : World) : Table Session :=
  match heldBy name w with
  | some old => w.sessions.erase old
  | none => w.sessions

/-- The session of a user that is opened for a browser. -/
def newSession (name : String) (user : User) (w : World) : Session where
  key := (sessionsBut name w).next
  userId := user.id
  stamp := user.password
  expires := w.now.later sessionLength

/-- The state after a session was opened. -/
def withSession (name : String) (user : User) (w : World) : World :=
  { w with
    sessions := (sessionsBut name w).put (newSession name user w)
    browsers := (name, (newSession name user w).key) ::
      w.browsers.filter fun entry => entry.1 != name }

theorem run_endSession (writes : w.mode = .ok) (key : Nat) :
    (endSession key).run w = (.ok (), { w with sessions := w.sessions.erase key }) := by
  rw [endSession, Action.run_bind, Action.run_writable_of_ok writes]
  rfl

theorem run_openSession (writes : w.mode = .ok) :
    (openSession name user).run w = (.ok (), withSession name user w) := by
  unfold openSession withSession newSession sessionsBut
  rw [Action.run_bind, Action.run_get]
  dsimp only
  cases heldBy name w with
  | none => rfl
  | some old =>
      rw [Action.run_bind, run_endSession writes]
      rfl

theorem run_signIn (writes : w.mode = .ok) :
    (signIn (.browser name) user).run w =
      (.ok (), { withSession name user w with database := noteLogin user.id w.now w.database }) := by
  have writesAfter : (withSession name user w).mode = .ok := writes
  rw [signIn, Action.run_bind, Action.run_writable_of_ok writes]
  dsimp only
  rw [giveSession, Action.run_bind, run_openSession writes]
  dsimp only
  rw [Action.run_bind, Action.run_now]
  exact Action.run_mutate_of_ok writesAfter _

theorem heldBy_withSession : heldBy name (withSession name user w) = some (newSession name user w).key := by
  simp [heldBy, withSession]

theorem find?_withSession :
    (withSession name user w).sessions.find? (newSession name user w).key = some (newSession name user w) :=
  (Table.find?_put _ _ _).trans (if_pos rfl)

/-- A session serves nobody whose password is not the one that it was opened with. -/
theorem run_currentUser_of_outdated {key : Nat} {session : Session} (writes : w.mode = .ok)
    (held : heldBy name w = some key) (live : liveSession? key w = some session)
    (serves : sessionUser? session w = some user) (outdated : user.password ≠ session.stamp) :
    ((currentUser (.browser name)).run w).1 = .ok none := by
  have online : w.mode ≠ .offline := by simp [writes]
  simp only [currentUser, Action.run_bind, Action.run_get, held, Action.run_reachable, online,
    ↓reduceIte, live, serves, outdated, run_endSession writes]
  rfl

end GridCommons.Account

namespace GridCommons.Form.Registration

open Site Account

variable {v : Valid} {w : World}

/-- Saving a registration inserts its draft, under a fresh salt. -/
theorem run_save_eq (v : Valid) (w : World) :
    (save v).run w =
      ((draft v w.now).insertAs (some (.salted v.password w.nextSalt))).run
        { w with nextSalt := w.nextSalt + 1 } := by
  rw [save, Action.run_bind, run_storedPassword]
  dsimp only
  rw [Action.run_bind, Action.run_now]
  rfl

theorem run_save (writes : w.mode = .ok) (room : inRange w.database.users.next = true)
    (free : ∀ user ∈ w.database.users.rows, user.username ≠ Username.stored v.username) :
    (save v).run w =
      (.ok w.database.users.next,
        { w with
          nextSalt := w.nextSalt + 1
          database := w.database.put (.user (newUser v w.database.users.next w.now w.nextSalt)) }) := by
  have numbered : Draft.insertId .user (("id", .null) :: newValues v w.now) w.database =
      w.database.users.next := rfl
  have named : Record.set "id" (.int w.database.users.next) (("id", .null) :: newValues v w.now) =
      ("id", .int w.database.users.next) :: newValues v w.now := rfl
  have ranged : (List.any (("id", Datum.int w.database.users.next) :: newValues v w.now)
      fun entry => entry.2.outOfRange) = false := by
    simp [Datum.outOfRange, newValues, room]
  have filled : Draft.emptyColumn? .user
      (("id", .int w.database.users.next) :: newValues v w.now) = none := rfl
  rw [run_save_eq]
  exact Draft.run_insertAs writes (taken_draft v w.now w.now) numbered room named ranged filled
    (ofValues?_newValues v w.now w.database.users.next w.nextSalt)
    (Database.storeFresh_user room rfl free)

end GridCommons.Form.Registration

namespace GridCommons.Web

open Site Form Account

variable {r : Request} {name : String} {v : Registration.Valid} {w : World}

/-! ## Registering, step by step -/

/-- The user whom a valid registration stores first, and opens the session for. -/
def firstStored (v : Registration.Valid) (w : World) : User :=
  Registration.newUser v w.database.users.next w.now w.nextSalt

/-- The same user when the session is open. -/
def whenSignedIn (v : Registration.Valid) (w : World) : User :=
  { firstStored v w with lastLogin := some w.now }

/-- The user whom a valid registration stores last. -/
def lastStored (v : Registration.Valid) (w : World) : User :=
  { whenSignedIn v w with password := .salted v.password (w.nextSalt + 1) }

/-- The state in which the user is stored. -/
def afterStoring (v : Registration.Valid) (w : World) : World :=
  { w with
    nextSalt := w.nextSalt + 1
    database := w.database.put (.user (firstStored v w)) }

/-- The state in which the session is open. -/
def afterSigningIn (name : String) (v : Registration.Valid) (w : World) : World :=
  { withSession name (firstStored v w) (afterStoring v w) with
    database := noteLogin w.database.users.next w.now (afterStoring v w).database }

/-- The state after a valid registration from a browser. -/
def afterRegistering (name : String) (v : Registration.Valid) (w : World) : World :=
  { afterSigningIn name v w with
    nextSalt := w.nextSalt + 2
    database := (afterSigningIn name v w).database.put (.user (lastStored v w)) }

@[simp] theorem firstStored_id (v : Registration.Valid) (w : World) :
    (firstStored v w).id = w.database.users.next :=
  rfl

theorem database_afterSigningIn :
    (afterSigningIn name v w).database =
      noteLogin w.database.users.next w.now (w.database.put (.user (firstStored v w))) :=
  rfl

theorem find?_firstStored :
    (w.database.put (.user (firstStored v w))).users.find? w.database.users.next =
      some (firstStored v w) :=
  (Table.find?_put w.database.users _ _).trans (if_pos rfl)

theorem find?_whenSignedIn :
    (afterSigningIn name v w).database.users.find? w.database.users.next = some (whenSignedIn v w) := by
  rw [database_afterSigningIn, find?_noteLogin, find?_firstStored, Option.map_some,
    if_pos (firstStored_id v w)]
  rfl

theorem find?_lastStored :
    (afterRegistering name v w).database.users.find? w.database.users.next = some (lastStored v w) :=
  (Table.find?_put (afterSigningIn name v w).database.users _ _).trans (if_pos rfl)

/-- The name is still free for the user, when the session is open. -/
theorem violation?_lastStored (room : inRange w.database.users.next = true)
    (free : ∀ user ∈ w.database.users.rows, user.username ≠ Username.stored v.username) :
    (afterSigningIn name v w).database.violation? (.user (lastStored v w)) = none := by
  rw [database_afterSigningIn]
  refine Database.violation?_user room fun other member differs => ?_
  obtain ⟨stored, inStored, sameId, sameName, -⟩ := mem_noteLogin member
  rcases Table.mem_put.mp inStored with rfl | ⟨before, -⟩
  · exact absurd sameId.symm differs
  · rw [← sameName]
    exact free stored before

/-- A valid registration stores the user, opens a session, and stores the user once more. -/
theorem run_register (browser : r.visitor = .browser name) (writes : w.mode = .ok)
    (room : inRange w.database.users.next = true)
    (valid : (Registration.checked w.platform r.submitted w.database.users.rows).valid? = some v) :
    (register r).run w = (.ok (.redirect loginPath), afterRegistering name v w) := by
  have free := Registration.username_ne_of_valid? valid
  have online : w.mode ≠ .offline := by simp [writes]
  have stored : (Registration.save v).run w = (.ok w.database.users.next, afterStoring v w) :=
    Registration.run_save writes room free
  have loaded : (Action.load Database.users (.noRow .user) w.database.users.next).run (afterStoring v w) =
      (.ok (firstStored v w), afterStoring v w) :=
    Action.run_load online room find?_firstStored
  have signedIn : (signIn (.browser name) (firstStored v w)).run (afterStoring v w) =
      (.ok (), afterSigningIn name v w) := run_signIn writes
  have loadedAgain : (Action.load Database.users (.noRow .user) w.database.users.next).run
      (afterSigningIn name v w) = (.ok (whenSignedIn v w), afterSigningIn name v w) :=
    Action.run_load online room find?_whenSignedIn
  have drawn : (storedPassword (some v.password)).run (afterSigningIn name v w) =
      (.ok (.salted v.password (w.nextSalt + 1)),
        { afterSigningIn name v w with nextSalt := w.nextSalt + 2 }) := rfl
  have allowed : (afterSigningIn name v w).database.violation? (.user (lastStored v w)) = none :=
    violation?_lastStored room free
  have saved : (Action.save (.user { whenSignedIn v w with
      password := .salted v.password (w.nextSalt + 1) })).run
        { afterSigningIn name v w with nextSalt := w.nextSalt + 2 } =
          (.ok (), afterRegistering name v w) := Action.run_save writes allowed
  simp only [register, Action.run_bind, Registration.run_check online, valid, stored, loaded, browser,
    signedIn, loadedAgain, drawn, saved, Action.run_pure]

theorem run_serve_registration (posted : r.method = "POST") (there : addressOf r.path = some .registration)
    (browser : r.visitor = .browser name) (writes : w.mode = .ok)
    (room : inRange w.database.users.next = true)
    (valid : (Registration.checked w.platform r.submitted w.database.users.rows).valid? = some v) :
    (serve r).run w = (.ok (.redirect loginPath), afterRegistering name v w) := by
  have chosen : serveAddress r .registration = register r := by
    simp [serveAddress, posted, Methods.dispatch, Methods.form]
  simp only [serve, there, chosen, settled, Action.run_bind, Action.run_attempt,
    run_register browser writes room valid, Action.run_pure]

end GridCommons.Web

namespace GridCommons

open Site Form Account Web

/-- A browser submits a registration that is valid when it arrives, to a site that can store
one more user. -/
structure Registers (r : Request) (name : String) (v : Registration.Valid) (w : World) : Prop where
  browser : r.visitor = .browser name
  posted : r.method = "POST"
  there : addressOf r.path = some .registration
  writes : w.mode = .ok
  room : inRange w.database.users.next = true
  valid : ∃ arrived form, (Step.request r).delivered? (Step.nextSecond w) = some arrived ∧
    ((Registration.check arrived.submitted).run (Step.nextSecond w)).1 = .ok form ∧ form.valid? = some v

namespace Registers

variable {r : Request} {name : String} {v : Registration.Valid} {w : World}

/-- The visitor is sent to the page to sign in, and the state is the one that is described
above. -/
theorem take_eq (registers : Registers r name v w) :
    ((Step.request r).take w).1.answer = .ok (.replied (.redirect loginPath)) ∧
      ((Step.request r).take w).2 = afterRegistering name v (Step.nextSecond w) := by
  obtain ⟨browser, posted, there, writes, room, arrived, form, delivers, checks, valid⟩ := registers
  obtain ⟨body, rfl⟩ := Step.delivered?_eq_some delivers rfl
  have online : (Step.nextSecond w).mode ≠ .offline := by simp [writes]
  rw [Registration.run_check online] at checks
  obtain rfl := Except.ok.inj checks
  have served : (serve { r with body }).run (Step.nextSecond w) =
      (.ok (.redirect loginPath), afterRegistering name v (Step.nextSecond w)) :=
    run_serve_registration posted there browser writes room valid
  have sent : (Step.serveRequest r).run (Step.nextSecond w) =
      (.ok (.redirect loginPath), afterRegistering name v (Step.nextSecond w)) := by
    rw [Step.run_serveRequest delivers, serveBrowser, Action.run_bind, served]
    simp [posted]
  have acts : (Step.request r).act.run (Step.nextSecond w) =
      (.ok (.replied (.redirect loginPath)), afterRegistering name v (Step.nextSecond w)) := by
    rw [Step.act, Action.run_bind, sent]
    rfl
  simp only [Step.take, acts, and_self]

end Registers

/-! ## The session of a visitor who registered -/

section Afterwards

variable {name : String} {v : Registration.Valid} {w : World}

/-- The session that a registration opens. -/
def openedSession (name : String) (v : Registration.Valid) (w : World) : Session :=
  newSession name (firstStored v w) (afterStoring v w)

theorem heldBy_afterRegistering :
    heldBy name (afterRegistering name v w) = some (openedSession name v w).key :=
  heldBy_withSession

/-- The session is not over a second later. -/
theorem liveSession?_afterRegistering :
    liveSession? (openedSession name v w).key (Step.nextSecond (afterRegistering name v w)) =
      some (openedSession name v w) := by
  have found : (afterRegistering name v w).sessions.find? (openedSession name v w).key =
      some (openedSession name v w) := find?_withSession
  have lasts : w.now.seconds + 1 < w.now.seconds + sessionLength := by
    unfold sessionLength
    omega
  refine Option.filter_eq_some_iff.mpr ⟨found, ?_⟩
  exact decide_eq_true lasts

theorem sessionUser?_afterRegistering :
    sessionUser? (openedSession name v w) (Step.nextSecond (afterRegistering name v w)) =
      some (lastStored v w) :=
  Option.filter_eq_some_iff.mpr ⟨find?_lastStored, rfl⟩

/-- The two salts differ, so that the session does not serve its user. -/
theorem password_ne_stamp : (lastStored v w).password ≠ (openedSession name v w).stamp := by
  intro same
  have salts : w.nextSalt + 1 = w.nextSalt := (Password.salted.inj same).2
  omega

end Afterwards

/-- A visitor who registers is not signed in.  The user is there and the session is open, but
the password was stored once more after the session was opened, and the next request of the
browser is served as nobody. -/
theorem registration_signs_nobody_in {r : Request} {name : String} {v : Registration.Valid} {w : World}
    (registers : Registers r name v w) :
    ((Step.request r).take w).1.answer = .ok (.replied (.redirect loginPath)) ∧
      ∃ user session key,
        w.database.users.find? user.id = none ∧
        ((Step.request r).take w).2.database.users.find? user.id = some user ∧
        user.username = Username.stored v.username ∧ user.email = v.email ∧ user.isActive = true ∧
        user.password.accepts v.password = true ∧
        heldBy name ((Step.request r).take w).2 = some key ∧
        liveSession? key (Step.nextSecond ((Step.request r).take w).2) = some session ∧
        session.userId = user.id ∧
        ((currentUser r.visitor).run (Step.nextSecond ((Step.request r).take w).2)).1 = .ok none := by
  obtain ⟨answer, after⟩ := registers.take_eq
  refine ⟨answer, ?_⟩
  rw [after, registers.browser]
  refine ⟨lastStored v (Step.nextSecond w), openedSession name v (Step.nextSecond w), _,
    Table.find?_next w.database.users, find?_lastStored, rfl, rfl, rfl, ?_, heldBy_afterRegistering,
    liveSession?_afterRegistering, rfl, ?_⟩
  · exact beq_self_eq_true v.password
  · exact run_currentUser_of_outdated registers.writes heldBy_afterRegistering
      liveSession?_afterRegistering sessionUser?_afterRegistering password_ne_stamp

/-! ## Two requests of a newcomer -/

def emptySite : World :=
  { now := ⟨0⟩ }

def newcomerRegisters : Request :=
  { method := "POST", path := "/registration/", visitor := .browser "carol"
    body := .form { texts := [("username", ["carol"]), ("email", ["carol@example.com"]),
      ("password1", ["Str0ng-pass"]), ("password2", ["Str0ng-pass"])] } [] }

/-- The same browser asks for the own profile. -/
def newcomerAsks : Request :=
  { path := "/profile/", visitor := .browser "carol" }

theorem registers_newcomer :
    ∃ v, v.username = "carol" ∧ Registers newcomerRegisters "carol" v emptySite := by
  have told : (Registration.checked {} newcomerRegisters.submitted []).valid?.map
      (fun v => v.username) = some "carol" := by decide +kernel
  obtain ⟨v, valid, named⟩ := Option.map_eq_some_iff.mp told
  refine ⟨v, named, rfl, rfl, by decide +kernel, rfl, by decide, newcomerRegisters, _, rfl, ?_, valid⟩
  rw [Registration.run_check (by decide)]
  rfl

/-- The newcomer becomes a user, and is not signed in. -/
theorem registration_signs_nobody_in_newcomer :
    ∃ v user, Registers newcomerRegisters "carol" v emptySite ∧ user.username = Username.stored "carol" ∧
      ((Step.request newcomerRegisters).take emptySite).2.database.users.find? user.id = some user ∧
      ((currentUser newcomerRegisters.visitor).run
        (Step.nextSecond ((Step.request newcomerRegisters).take emptySite).2)).1 = .ok none := by
  obtain ⟨v, named, registers⟩ := registers_newcomer
  obtain ⟨-, user, session, key, -, found, username, -, -, -, -, -, -, nobody⟩ :=
    registration_signs_nobody_in registers
  exact ⟨v, user, registers, named ▸ username, found, nobody⟩

/-- Where the reply to a request sends the visitor. -/
def StepResult.location? (result : StepResult) : Option String :=
  match result.answer with
  | .ok (.replied reply) => reply.location
  | _ => none

/-- The next request of a newcomer for the own profile is sent to the page to sign in. -/
theorem newcomer_sent_to_login :
    ∃ v, Registers newcomerRegisters "carol" v emptySite ∧
      (runSteps [.request newcomerRegisters, .request newcomerAsks] emptySite).1.map
          StepResult.location? =
        [some "/accounts/login/", some "/accounts/login/?next=/profile/"] := by
  obtain ⟨v, -, registers⟩ := registers_newcomer
  exact ⟨v, registers, by decide +kernel⟩

end GridCommons
