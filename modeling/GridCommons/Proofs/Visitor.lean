import GridCommons.Proofs.Action
import GridCommons.Proofs.Rows
import GridCommons.Web.Guard

/-!
Contract: who a request is served as.

Owns:
- the user that a visitor is served as, as a function of the state;
- that opening, reading and closing of sessions leave alone what the sessions are no part of,
  the database first of all;
- what the guards in front of operations know about the user behind them.
-/

namespace GridCommons.Account

open Site

/-- The user that a visitor is served as.  A browser that holds no session, or one that
is over, unreadable, of a user who is not active, or older than the user's password, is
served as nobody. -/
def servedAs : Visitor → World → Option User
  | .direct user, _ => user
  | .browser name, w =>
    if w.mode = .offline then none
    else do
      let key ← heldBy name w
      let session ← liveSession? key w
      let user ← sessionUser? session w
      if user.password = session.stamp then some user else none

/-- The visitor comes from outside: a browser, or nobody that is handed in. -/
def Visitor.isClient : Visitor → Bool
  | .browser _ => true
  | .direct user => user.isNone

/-- A part of the state that the sessions are no part of. -/
class Unvisited {γ : Type} (part : World → γ) : Prop where
  sessions (w : World) (sessions : Table Session) : part { w with sessions } = part w
  browsers (w : World) (browsers : List (String × Nat)) : part { w with browsers } = part w

instance : Unvisited World.database := ⟨fun _ _ => rfl, fun _ _ => rfl⟩

instance : Unvisited World.mode := ⟨fun _ _ => rfl, fun _ _ => rfl⟩

instance : Unvisited World.notices := ⟨fun _ _ => rfl, fun _ _ => rfl⟩

section Sessions

variable {γ : Type} {part : World → γ} [Unvisited part] (name : String) (key : Nat) (user : User)
  (visitor : Visitor)

theorem forget_keeps : (forget name).Keeps part :=
  .modify fun w => Unvisited.browsers w _

theorem hand_keeps : (hand name key).Keeps part :=
  .modify fun w => Unvisited.browsers w _

theorem endSession_keeps : (endSession key).Keeps part :=
  .bind Action.writable_keeps fun _ => .modify fun w => Unvisited.sessions w _

theorem openSession_keeps : (openSession name user).Keeps part := by
  have opened : ∀ w : World, (do
      let key := w.sessions.next
      modify fun w =>
        { w with
          sessions := w.sessions.put
            { key, userId := user.id, stamp := user.password, expires := w.now.later sessionLength } }
      hand name key : Action Unit).Keeps part :=
    fun _ => .bind (.modify fun w => Unvisited.sessions w _) fun _ => hand_keeps name _
  refine .bind .get fun w => ?_
  split
  · exact .bind (endSession_keeps _) fun _ => .bind .get opened
  · exact .bind .get opened

@[grind ←] theorem giveSession_keeps : (giveSession visitor user).Keeps part := by
  cases visitor with
  | direct _ => exact .pure
  | browser name => exact openSession_keeps name user

@[grind ←] theorem currentUser_keeps : (currentUser visitor).Keeps part := by
  cases visitor with
  | direct user => exact .pure
  | browser name =>
      refine .bind .get fun w => ?_
      split
      · exact .pure
      refine .bind Action.reachable_keeps fun _ => .bind .get fun w => ?_
      split
      · exact .bind (forget_keeps name) fun _ => .pure
      split
      · exact .pure
      split
      · exact .pure
      · exact .bind (endSession_keeps _) fun _ => .bind (forget_keeps name) fun _ => .pure

@[grind ←] theorem signOut_keeps : (signOut visitor).Keeps part := by
  refine .bind (currentUser_keeps visitor) fun _ => ?_
  cases visitor with
  | direct _ => exact .pure
  | browser name =>
      refine .bind .get fun w => ?_
      split
      · exact .pure
      · exact .bind (endSession_keeps _) fun _ => forget_keeps name

end Sessions

theorem forget_silent (name : String) : (forget name).Silent :=
  .of (forget_keeps name)

theorem endSession_silent (key : Nat) : (endSession key).Silent :=
  .of (endSession_keeps key)

theorem giveSession_silent (visitor : Visitor) (user : User) : (giveSession visitor user).Silent :=
  .of (giveSession_keeps user visitor)

theorem currentUser_silent (visitor : Visitor) : (currentUser visitor).Silent :=
  .of (currentUser_keeps visitor)

/-- Asking for the user of a visitor gives the one that the visitor is served as, unless it
ends with a fault. -/
theorem currentUser_eq (visitor : Visitor) (w : World) {user : Option User}
    (ends : ((currentUser visitor).run w).1 = .ok user) : user = servedAs visitor w := by
  cases visitor with
  | direct handed =>
      cases ends
      rfl
  | browser name =>
      have ended : ∀ key, (do endSession key; forget name; pure none : Action (Option User)).Reads
          fun user _ => user = none := fun key =>
        (endSession_silent key).then fun _ => (forget_silent name).then fun _ => .pure fun _ _ => rfl
      simp only [currentUser, Action.run_bind, Action.run_get] at ends
      simp only [servedAs]
      cases held : heldBy name w with
      | none =>
          simp only [held, Action.run_pure] at ends
          cases ends
          split <;> rfl
      | some key =>
          simp only [held, Action.run_bind, Action.run_reachable] at ends
          split
          · rename_i offline
            simp [offline] at ends
          rename_i online
          simp only [online, ↓reduceIte, Action.run_get] at ends
          cases live : liveSession? key w with
          | none =>
              simp only [live] at ends
              cases ends
              simp [live]
          | some session =>
              simp only [live] at ends
              cases serves : sessionUser? session w with
              | none =>
                  simp only [serves] at ends
                  cases ends
                  simp [live, serves]
              | some owner =>
                  simp only [serves] at ends
                  simp only [live, serves, Option.bind_eq_bind, Option.bind_some]
                  split at ends
                  · rename_i current
                    cases ends
                    rw [if_pos current]
                  · rename_i outdated
                    rw [if_neg outdated]
                    exact (ended key w trivial).2 user ends

/-- The user behind a client is one of the database, and active. -/
theorem find?_of_servedAs {visitor : Visitor} {w : World} {user : User}
    (client : visitor.isClient = true) (served : servedAs visitor w = some user) :
    w.database.users.find? user.id = some user ∧ user.isActive = true := by
  cases visitor with
  | direct handed =>
      cases served
      cases client
  | browser name =>
      simp only [servedAs] at served
      split at served
      · cases served
      simp only [Option.bind_eq_bind, Option.bind_eq_some_iff] at served
      obtain ⟨key, -, session, -, owner, serves, current⟩ := served
      split at current
      · cases current
        obtain ⟨found, active⟩ := Option.filter_eq_some_iff.mp serves
        have same : user.id = session.userId := (Table.find?_eq_some_iff.mp found).2
        rw [same]
        exact ⟨found, active⟩
      · cases current

theorem find?_noteLogin (d : Database) (id : Nat) (now : Instant) (place : Nat) :
    (noteLogin id now d).users.find? place =
      (d.users.find? place).map fun user =>
        if user.id = id then { user with lastLogin := some now } else user :=
  Table.find?_map d.users _ (by intro user; split <;> rfl) place

theorem mem_noteLogin {d : Database} {id : Nat} {now : Instant} {user : User}
    (member : user ∈ (noteLogin id now d).users.rows) :
    ∃ old ∈ d.users.rows, old.id = user.id ∧ old.username = user.username ∧ old.email = user.email := by
  obtain ⟨old, before, rfl⟩ := List.mem_map.mp member
  refine ⟨old, before, ?_⟩
  split <;> exact ⟨rfl, rfl, rfl⟩

/-- Signing in notes when the user came, and changes nothing else. -/
theorem signIn_obeys {moves : Database → Database → Prop} {before : Database → Prop}
    (visitor : Visitor) (user : User)
    (moved : ∀ d now, before d → moves d (noteLogin user.id now d)) :
    (signIn visitor user).Obeys moves before fun _ _ => True := by
  have noted : (do let now ← Action.now; Action.mutate (noteLogin user.id now)).Obeys moves before
      fun _ _ => True :=
    Action.now_silent.then fun now => .mutate fun d start => moved d now start
  exact Action.writable_silent.then fun _ => (giveSession_silent visitor user).then fun _ => noted

theorem signOut_silent (visitor : Visitor) : (signOut visitor).Silent :=
  .of (signOut_keeps visitor)

end GridCommons.Account

namespace GridCommons.Web

open Site Account

variable {moves : Database → Database → Prop} {before : Database → Prop}

theorem user_silent (r : Request) : r.user.Silent :=
  currentUser_silent r.visitor

/-! ## Methods -/

/-- Whatever the method, a resource does one of its operations or refuses. -/
theorem dispatch_cases (m : Methods) (method : String) :
    (m.get = some (m.dispatch method) ∨
      (m.post = some (m.dispatch method) ∧ method = "POST") ∨ m.put = some (m.dispatch method)) ∨
    ∃ reply : Reply, reply.location = none ∧ m.dispatch method = pure reply := by
  have chosen (operation : Option (Action Reply)) :
      operation = some (operation.getD (pure (.notAllowed m.allowed))) ∨
        ∃ reply : Reply, reply.location = none ∧
          operation.getD (pure (.notAllowed m.allowed)) = pure reply := by
    cases operation with
    | none => exact .inr ⟨_, rfl, rfl⟩
    | some action => exact .inl rfl
  unfold Methods.dispatch
  split
  · exact (chosen m.get).imp_left .inl
  · exact (chosen m.get).imp_left .inl
  · exact (chosen m.post).imp_left fun found => .inr (.inl ⟨found, rfl⟩)
  · exact (chosen m.put).imp_left fun found => .inr (.inr found)
  · exact .inr ⟨_, rfl, rfl⟩
  · exact .inr ⟨_, rfl, rfl⟩

theorem dispatch_obeys {m : Methods} (method : String)
    (each : ∀ action,
      m.get = some action ∨ (m.post = some action ∧ method = "POST") ∨ m.put = some action →
      action.Obeys moves before fun _ _ => True) :
    (m.dispatch method).Obeys moves before fun _ _ => True := by
  rcases dispatch_cases m method with chosen | ⟨reply, -, refused⟩
  · exact each _ chosen
  · rw [refused]
    exact .done

theorem reading_obeys {get : Action Reply} (method : String)
    (obeys : get.Obeys moves before fun _ _ => True) :
    ((Methods.reading get).dispatch method).Obeys moves before fun _ _ => True := by
  refine dispatch_obeys method fun action chosen => ?_
  rcases chosen with here | ⟨absent, -⟩ | absent
  · cases here
    exact obeys
  · cases absent
  · cases absent

theorem form_obeys {get post : Action Reply} (method : String)
    (shows : get.Obeys moves before fun _ _ => True)
    (submits : post.Obeys moves before fun _ _ => True) :
    ((Methods.form get post).dispatch method).Obeys moves before fun _ _ => True := by
  refine dispatch_obeys method fun action chosen => ?_
  rcases chosen with here | ⟨here, -⟩ | here
  · cases here
    exact shows
  · cases here
    exact submits
  · cases here
    exact submits

theorem submission_obeys {post : Action Reply} (method : String)
    (obeys : method = "POST" → post.Obeys moves before fun _ _ => True) :
    (Methods.dispatch { post := some post } method).Obeys moves before fun _ _ => True := by
  refine dispatch_obeys method fun action chosen => ?_
  rcases chosen with absent | ⟨here, posted⟩ | absent
  · cases absent
  · cases here
    exact obeys posted
  · cases absent

/-! ## Guards -/

/-- From a state, the action changes the database along `moves` only. -/
def Follows {α : Type} (moves : Database → Database → Prop) (action : Action α) (w : World) : Prop :=
  Relation.ReflTransGen moves w.database (action.run w).2.database

section Follows

variable {α β : Type} {action : Action α} {next : α → Action β} {w : World}

theorem Follows.of_obeys (obeys : action.Obeys moves (fun _ => True) fun _ _ => True) :
    Follows moves action w :=
  (obeys w trivial).1

theorem Follows.obeys (follows : ∀ w, Follows moves action w) :
    action.Obeys moves (fun _ => True) fun _ _ => True :=
  fun w _ => ⟨follows w, fun _ _ => trivial⟩

theorem Follows.attempt (follows : Follows moves action w) : Follows moves (Action.attempt action) w :=
  follows

theorem Follows.then_silent (follows : Follows moves action w) (silent : ∀ a, (next a).Silent) :
    Follows moves (action >>= next) w := by
  unfold Follows at follows ⊢
  rw [Action.run_bind]
  rcases ended : action.run w with ⟨fault | a, reached⟩
  · rw [ended] at follows
    exact follows
  · rw [ended] at follows
    dsimp only
    rw [(silent a).unchanged reached]
    exact follows

end Follows

/-- What is asked of the visitor's user decides how the action goes on. -/
theorem follows_user {r : Request} {next : Option User → Action Reply} {w : World}
    (rest : (next (servedAs r.visitor w)).Obeys moves (· = w.database) fun _ _ => True) :
    Follows moves (r.user >>= next) w := by
  unfold Follows
  have same := (user_silent r).unchanged w
  rw [Action.run_bind]
  rcases ended : r.user.run w with ⟨fault | user, reached⟩
  · rw [ended] at same
    rw [same]
  · rw [ended] at same
    have served : user = servedAs r.visitor w :=
      currentUser_eq r.visitor w (congrArg Prod.fst ended)
    subst served
    rw [← same]
    exact (rest reached same).1

/-- Behind the guard, the user is the one that the visitor is served as. -/
theorem follows_signedIn {r : Request} {next : User → Action Reply} {w : World}
    (rest : ∀ user, servedAs r.visitor w = some user →
      (next user).Obeys moves (· = w.database) fun _ _ => True) :
    Follows moves (Guard.signedIn r next) w := by
  refine follows_user ?_
  cases served : servedAs r.visitor w with
  | none => exact .done
  | some user => exact rest user served

theorem follows_staff {r : Request} {next : User → Action Reply} {w : World}
    (rest : ∀ user, servedAs r.visitor w = some user → user.isStaff = true →
      (next user).Obeys moves (· = w.database) fun _ _ => True) :
    Follows moves (Guard.staff r next) w := by
  refine follows_user ?_
  cases served : servedAs r.visitor w with
  | none => exact .done
  | some user =>
      dsimp only
      split
      · exact rest user served ‹_›
      · exact .done

theorem follows_staffOrForbidden {r : Request} {next : User → Action Reply} {w : World}
    (rest : ∀ user, servedAs r.visitor w = some user → user.isStaff = true →
      (next user).Obeys moves (· = w.database) fun _ _ => True) :
    Follows moves (Guard.staffOrForbidden r next) w := by
  refine follows_user ?_
  cases served : servedAs r.visitor w with
  | none => exact .fail
  | some user =>
      dsimp only
      split
      · exact rest user served ‹_›
      · exact .fail

end GridCommons.Web
