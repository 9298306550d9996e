import GridCommons.Proofs.Requests

/-!
Contract: where a request ends, told exactly.

Owns:
- outcomes and databases in which an action ends;
- the outcome of reads from a database that is not out of reach;
- the outcome of asking for the user of a visitor who is served as one, and so of the
  guards that let signed-in users and the staff pass;
- that serving a request ends where the operation at its address does;
- steps whose request stores one row at most.

`Deed` tells what a request may write.  The outcomes here tell what it does write, where
a property needs both directions.
-/

namespace GridCommons.Site

/-- The database with a row stored, if there is one to store. -/
def Database.putIf (d : Database) : Option Row → Database
  | some row => d.put row
  | none => d

namespace Action

section Ends

variable {α β : Type} {action : Action α} {next : α → Action β} {d : Database}
  {post : Except Fault β → Database → Prop}

/-- From a database, the action ends with an outcome and a database as `post` has them. -/
def Ends (action : Action α) (d : Database) (post : Except Fault α → Database → Prop) : Prop :=
  ∀ w, w.database = d → post (action.run w).1 (action.run w).2.database

theorem Ends.pure {b : β} (holds : post (.ok b) d) : (Pure.pure b : Action β).Ends d post := by
  intro w here
  rw [run_pure, here]
  exact holds

theorem Ends.bind {mid : Except Fault α → Database → Prop} (first : action.Ends d mid)
    (fails : ∀ fault d', mid (.error fault) d' → post (.error fault) d')
    (rest : ∀ a d', mid (.ok a) d' → (next a).Ends d' post) : (action >>= next).Ends d post := by
  intro w here
  have start := first w here
  rw [run_bind]
  rcases ran : action.run w with ⟨fault | a, reached⟩
  · rw [ran] at start
    exact fails fault _ start
  · rw [ran] at start
    exact rest a _ start reached rfl

/-- After a read the action goes on in the same database, or a fault ends it there. -/
theorem Reads.ends_bind {fact : α → Database → Prop} (reads : action.Reads fact)
    (fails : ∀ fault, post (.error fault) d) (rest : ∀ a, fact a d → (next a).Ends d post) :
    (action >>= next).Ends d post := by
  have first : action.Ends d fun outcome d' => d' = d ∧ ∀ a, outcome = .ok a → fact a d := by
    intro w here
    have same := reads.unchanged w
    have value := (reads w trivial).2
    rw [same, here] at value
    exact ⟨same.trans here, value⟩
  refine first.bind ?_ ?_
  · rintro fault _ ⟨rfl, -⟩
    exact fails fault
  · rintro a _ ⟨rfl, value⟩
    exact rest a (value a rfl)

theorem Ends.fail_bind {fault : Fault} (holds : post (.error fault) d) :
    ((Action.fail fault : Action α) >>= next).Ends d post := by
  intro w here
  rw [run_bind, run_fail, here]
  exact holds

theorem Ends.ite {condition : Prop} [Decidable condition] {first other : Action β}
    (holds : condition → first.Ends d post) (fails : ¬condition → other.Ends d post) :
    (if condition then first else other).Ends d post := by
  split
  · exact holds ‹_›
  · exact fails ‹_›

theorem Ends.mutate_bind {change : Database → Database} {next : Unit → Action β}
    (fails : ∀ fault, post (.error fault) d) (rest : (next ()).Ends (change d) post) :
    (Action.mutate change >>= next).Ends d post := by
  intro w here
  subst here
  rw [run_bind, run_mutate]
  cases w.mode with
  | ok => exact rest _ rfl
  | readOnly | offline => exact fails _

theorem Ends.insert {kind : Kind} {build : Nat → Row}
    {post : Except Fault Nat → Database → Prop} (fails : ∀ fault, post (.error fault) d)
    (stores : post (.ok (d.next kind)) (d.put (build (d.next kind)))) :
    (insert kind build).Ends d post := by
  intro w here
  subst here
  simp only [insert, run_bind, run_get, run_commit]
  cases w.mode with
  | ok =>
      cases stored : w.database.store (build (w.database.next kind)) with
      | ok d' =>
          obtain ⟨-, rfl⟩ := Database.store_eq_ok_iff.mp stored
          exact stores
      | error violation => exact fails _
  | readOnly | offline => exact fails _

theorem Ends.insert_bind {kind : Kind} {build : Nat → Row} {next : Nat → Action β}
    (fails : ∀ fault, post (.error fault) d)
    (rest : (next (d.next kind)).Ends (d.put (build (d.next kind))) post) :
    (Action.insert kind build >>= next).Ends d post := by
  have first : (Action.insert kind build).Ends d fun outcome d' =>
      (∀ fault, outcome = .error fault → d' = d) ∧
        ∀ id, outcome = .ok id → id = d.next kind ∧ d' = d.put (build id) :=
    .insert (by simp) (by simp)
  refine first.bind (fun fault d' mid => ?_) fun id d' mid => ?_
  · rw [mid.1 fault rfl]
    exact fails fault
  · obtain ⟨rfl, rfl⟩ := mid.2 id rfl
    exact rest

/-- A row is inserted once, however often it is stored. -/
theorem Ends.insertTwice {kind : Kind} {build : Nat → Row}
    {post : Except Fault Nat → Database → Prop} (fails : ∀ fault, post (.error fault) d)
    (stores : post (.ok (d.next kind)) (d.put (build (d.next kind)))) :
    (insertTwice kind build).Ends d post := by
  intro w here
  rw [run_insertTwice]
  exact Ends.insert fails stores w here

end Ends

variable {α : Type} [Numbered α] {table : Database → Table α} {w : World}

theorem run_now (w : World) : now.run w = (.ok w.now, w) :=
  rfl

theorem run_platform (w : World) : platform.run w = (.ok w.platform, w) :=
  rfl

theorem run_writable_of_ok (writes : w.mode = .ok) : writable.run w = (.ok (), w) := by
  rw [run_writable, writes]

theorem run_mutate_of_ok (writes : w.mode = .ok) (change : Database → Database) :
    (mutate change).run w = (.ok (), { w with database := change w.database }) := by
  rw [run_mutate, writes]

theorem run_query_of_online (online : w.mode ≠ .offline) : query.run w = (.ok w.database, w) := by
  rw [run_query]
  cases mode : w.mode with
  | offline => exact absurd mode online
  | ok | readOnly => rfl

theorem run_rows (online : w.mode ≠ .offline) :
    (rows table).run w = (.ok (table w.database).rows, w) := by
  rw [rows, run_bind, run_query_of_online online]
  rfl

/-- A number that the database cannot hold finds no row. -/
theorem run_lookup (online : w.mode ≠ .offline) (id : Nat) :
    (lookup table id).run w =
      (.ok (if inRange id then (table w.database).find? id else none), w) := by
  unfold lookup
  by_cases small : inRange id = true
  · rw [if_pos small, if_pos small, run_bind, run_query_of_online online]
    rfl
  · rw [if_neg small, if_neg small, run_pure]

theorem run_load {fault : Fault} {id : Nat} {row : α} (online : w.mode ≠ .offline)
    (small : inRange id = true) (found : (table w.database).find? id = some row) :
    (load table fault id).run w = (.ok row, w) := by
  rw [load, run_bind, run_lookup online, if_pos small, found]
  rfl

/-- Inserting a row takes a database that can be written, and that no constraint forbids it. -/
theorem database_insert (kind : Kind) (build : Nat → Row) (w : World) :
    ((insert kind build).run w).2.database =
      if w.mode = .ok ∧ w.database.violation? (build (w.database.next kind)) = none then
        w.database.put (build (w.database.next kind))
      else w.database := by
  simp only [insert, run_bind, run_get, run_commit]
  cases w.mode with
  | ok =>
      cases stored : w.database.store (build (w.database.next kind)) with
      | ok d' =>
          obtain ⟨allowed, rfl⟩ := Database.store_eq_ok_iff.mp stored
          rw [if_pos ⟨rfl, allowed⟩]
          rfl
      | error violation =>
          have refused : w.database.violation? (build (w.database.next kind)) ≠ none := by
            intro allowed
            rw [Database.store_eq_ok_iff.mpr ⟨allowed, rfl⟩] at stored
            cases stored
          rw [if_neg fun allowed => refused allowed.2]
  | readOnly | offline => rfl

theorem run_save {row : Row} (writes : w.mode = .ok) (allowed : w.database.violation? row = none) :
    (save row).run w = (.ok (), { w with database := w.database.put row }) := by
  have stored : w.database.store row = .ok (w.database.put row) :=
    Database.store_eq_ok_iff.mpr ⟨allowed, rfl⟩
  simp only [save, run_commit, writes, stored]

/-- Saving a row takes a database that can be written, and that no constraint forbids it. -/
theorem database_save (row : Row) (w : World) :
    ((save row).run w).2.database =
      if w.mode = .ok ∧ w.database.violation? row = none then w.database.put row else w.database := by
  by_cases stores : w.mode = .ok ∧ w.database.violation? row = none
  · rw [if_pos stores, run_save stores.1 stores.2]
  · rw [if_neg stores, save, run_commit]
    cases mode : w.mode with
    | ok =>
        cases stored : w.database.store row with
        | ok d' => exact absurd ⟨mode, (Database.store_eq_ok_iff.mp stored).1⟩ stores
        | error violation => rfl
    | readOnly | offline => rfl

end Action

end GridCommons.Site

namespace GridCommons.Account

open Site

variable {visitor : Visitor} {w : World} {user : User}

/-- A client is served as a user only while the database can be read. -/
theorem online_of_servedAs (client : visitor.isClient = true)
    (served : servedAs visitor w = some user) : w.mode ≠ .offline := by
  intro offline
  cases visitor with
  | direct handed =>
      cases served
      cases client
  | browser name => simp [servedAs, offline] at served

/-- Asking for the user of a visitor who is served as one changes nothing. -/
theorem run_currentUser (served : servedAs visitor w = some user) :
    (currentUser visitor).run w = (.ok (some user), w) := by
  cases visitor with
  | direct handed =>
      cases served
      rfl
  | browser name =>
      have online := online_of_servedAs rfl served
      simp only [servedAs, online, ↓reduceIte, Option.bind_eq_bind, Option.bind_eq_some_iff] at served
      obtain ⟨key, held, session, live, owner, serves, current⟩ := served
      split at current
      · rename_i same
        cases current
        simp [currentUser, held, Action.run_reachable, online, live, serves, same]
      · cases current

end GridCommons.Account

/-- A page answers the fault. -/
def GridCommons.Fault.isAnswered : Fault → Bool
  | .noMatch _ | .noPage _ | .forbidden => true
  | _ => false

namespace GridCommons.Web

open Site Account

variable {r : Request} {w : World} {next : User → Action Reply}

/-- A signed-in user passes the guard in the same state. -/
theorem run_signedIn {user : User} (served : servedAs r.visitor w = some user) :
    (Guard.signedIn r next).run w = (next user).run w := by
  rw [Guard.signedIn, Action.run_bind]
  have asked : r.user.run w = (.ok (some user), w) := run_currentUser served
  rw [asked]

/-- What is asked of the visitor's user decides how the action ends. -/
theorem ends_user {post : Except Fault Reply → Database → Prop} {next : Option User → Action Reply}
    (rest : (next (servedAs r.visitor w)).Ends w.database post)
    (fails : ∀ fault, post (.error fault) w.database) :
    post ((r.user >>= next).run w).1 ((r.user >>= next).run w).2.database := by
  have same := (user_silent r).unchanged w
  rw [Action.run_bind]
  rcases asked : r.user.run w with ⟨fault | user, reached⟩
  · rw [asked] at same
    dsimp only
    rw [same]
    exact fails fault
  · rw [asked] at same
    have served : user = servedAs r.visitor w :=
      currentUser_eq r.visitor w (congrArg Prod.fst asked)
    subst served
    exact rest reached same

/-- Where signed-in users pass, the action ends as theirs does, or the visitor is sent to sign in. -/
theorem ends_signedIn {post : Except Fault Reply → Database → Prop}
    (passes : ∀ user, servedAs r.visitor w = some user → (next user).Ends w.database post)
    (fails : ∀ fault, post (.error fault) w.database)
    (refuses : post (.ok (signInFirst loginPath r)) w.database) :
    post ((Guard.signedIn r next).run w).1 ((Guard.signedIn r next).run w).2.database := by
  refine ends_user ?_ fails
  cases served : servedAs r.visitor w with
  | none => exact .pure refuses
  | some user => exact passes user served

theorem run_staff {user : User} (served : servedAs r.visitor w = some user)
    (staff : user.isStaff = true) : (Guard.staff r next).run w = (next user).run w := by
  have asked : r.user.run w = (.ok (some user), w) := run_currentUser served
  rw [Guard.staff, Action.run_bind, asked]
  simp [staff]

theorem run_staffOrForbidden {user : User} (served : servedAs r.visitor w = some user)
    (staff : user.isStaff = true) : (Guard.staffOrForbidden r next).run w = (next user).run w := by
  have asked : r.user.run w = (.ok (some user), w) := run_currentUser served
  rw [Guard.staffOrForbidden, Action.run_bind, asked]
  simp [staff]

/-- Nothing is written for a visitor who is refused. -/
theorem database_staffOrForbidden (refused : (servedAs r.visitor w).any User.isStaff = false) :
    ((Guard.staffOrForbidden r next).run w).2.database = w.database := by
  have follows : Follows (fun _ _ => False) (Guard.staffOrForbidden r next) w := by
    apply follows_staffOrForbidden
    intro user served staff
    simp [served, staff] at refused
  exact (Relation.reflTransGen_iff_eq fun _ move => move).mp follows

/-- Where the guard for the staff lets nobody pass, only the user was asked for. -/
theorem state_staff_refused (refused : ∀ user ∈ servedAs r.visitor w, user.isStaff = false) :
    ((Guard.staff r next).run w).2 = (r.user.run w).2 := by
  rw [Guard.staff, Action.run_bind]
  cases asked : r.user.run w with
  | mk outcome reached =>
      cases outcome with
      | error fault => rfl
      | ok user =>
          have same : user = servedAs r.visitor w :=
            currentUser_eq r.visitor w (congrArg Prod.fst asked)
          cases user with
          | none => rfl
          | some user => simp [refused user same.symm]

/-- Nothing is written for a visitor who is served as nobody. -/
theorem database_signedIn (served : servedAs r.visitor w = none) :
    ((Guard.signedIn r next).run w).2.database = w.database := by
  have follows : Follows (fun _ _ => False) (Guard.signedIn r next) w :=
    follows_signedIn fun user known => nomatch served.symm.trans known
  exact (Relation.reflTransGen_iff_eq fun _ move => move).mp follows

/-- The page about what is not there changes nothing. -/
theorem state_settled (action : Action Reply) (w : World) :
    ((settled r action).run w).2 = (action.run w).2 := by
  have shown : ∀ w, ((showNotFound r).run w).2 = w := by
    intro w
    unfold showNotFound Methods.reading Methods.dispatch
    split <;> rfl
  rw [settled, Action.run_bind, Action.run_attempt]
  dsimp only
  split
  · rfl
  · exact shown _
  · exact shown _
  · rfl
  · rfl

theorem run_serve {address : Address} {reply : Reply} {reached : World}
    (there : addressOf r.path = some address)
    (ends : (serveAddress r address).run w = (.ok reply, reached)) :
    (serve r).run w = (.ok reply, reached) := by
  rw [serve, there]
  dsimp only
  rw [settled, Action.run_bind, Action.run_attempt, ends]
  rfl

/-- A fault that no page answers ends the request. -/
theorem run_serve_of_fault {address : Address} {fault : Fault} {reached : World}
    (there : addressOf r.path = some address)
    (ends : (serveAddress r address).run w = (.error fault, reached))
    (escapes : fault.isAnswered = false) : (serve r).run w = (.error fault, reached) := by
  rw [serve, there]
  dsimp only
  rw [settled, Action.run_bind, Action.run_attempt, ends]
  cases fault with
  | noMatch | noPage | forbidden => cases escapes
  | _ => rfl

/-- Where a fault is answered, the visitor stays, and no submission is told of success. -/
theorem ends_settled {post : Except Fault Reply → Database → Prop} {action : Action Reply}
    (ends : post (action.run w).1 (action.run w).2.database)
    (stays : ∀ fault reply d, reply.location = none → (r.method = "POST" → reply.status ≠ 200) →
      post (.error fault) d → post (.ok reply) d) :
    post ((settled r action).run w).1 ((settled r action).run w).2.database := by
  have shown : ∀ w, ∃ reply, (showNotFound r).run w = (.ok reply, w) ∧ reply.location = none ∧
      (r.method = "POST" → reply.status ≠ 200) := by
    intro w
    by_cases posted : r.method = "POST"
    · rw [showNotFound, posted]
      exact ⟨_, rfl, rfl, fun _ => by decide⟩
    · unfold showNotFound Methods.reading Methods.dispatch
      split <;> exact ⟨_, rfl, rfl, fun post => absurd post posted⟩
  rw [settled, Action.run_bind, Action.run_attempt]
  rcases ran : action.run w with ⟨fault | reply, reached⟩
  · rw [ran] at ends
    obtain ⟨reply, shows, remains, unsuccessful⟩ := shown reached
    cases fault with
    | noMatch | noPage =>
        dsimp only
        rw [shows]
        exact stays _ reply _ remains unsuccessful ends
    | forbidden => exact stays _ _ _ rfl (fun _ => by decide) ends
    | _ => exact ends
  · rw [ran] at ends
    exact ends

/-- Serving a request ends where the operation at its address does. -/
theorem state_serve {address : Address} (there : addressOf r.path = some address) (w : World) :
    ((serve r).run w).2 = ((serveAddress r address).run w).2 := by
  rw [serve, there]
  exact state_settled _ w

theorem database_serve {address : Address} (there : addressOf r.path = some address) (w : World) :
    ((serve r).run w).2.database = ((serveAddress r address).run w).2.database :=
  congrArg World.database (state_serve there w)

/-- A resource that takes submissions only. -/
theorem state_submission (submit : Action Reply) (method : String) (w : World) :
    ((Methods.dispatch { post := some submit } method).run w).2 =
      if method = "POST" then (submit.run w).2 else w := by
  unfold Methods.dispatch
  split
  · rfl
  · rfl
  · rfl
  · rfl
  · rfl
  · rename_i notPost _ _
    rw [if_neg notPost]
    rfl

/-- A page with a form writes only what a submission to it writes. -/
theorem database_form {page submit : Action Reply} (shows : page.Silent) (method : String) (w : World) :
    (((Methods.form page submit).dispatch method).run w).2.database =
      if method ∈ ["POST", "PUT"] then (submit.run w).2.database else w.database := by
  unfold Methods.dispatch Methods.form
  split
  · exact shows.unchanged w
  · exact shows.unchanged w
  · rfl
  · rfl
  · rfl
  · rename_i notPost notPut _
    rw [if_neg (by simpa using ⟨notPost, notPut⟩)]
    rfl

/-- Whatever the method, a resource ends as one of its operations does, or the visitor stays. -/
theorem ends_dispatch {post : Except Fault Reply → Database → Prop} {m : Methods} {d : Database}
    (method : String)
    (each : ∀ action, m.get = some action ∨ m.post = some action ∨ m.put = some action →
      action.Ends d post)
    (stays : ∀ reply : Reply, reply.location = none → post (.ok reply) d) :
    (m.dispatch method).Ends d post := by
  rcases dispatch_cases m method with chosen | ⟨reply, unmoved, refused⟩
  · exact each _ (chosen.imp_right (.imp_left And.left))
  · rw [refused]
    exact .pure (stays reply unmoved)

/-- Where faults are recovered from, every outcome is a reply. -/
theorem ends_recovering {mid post : Except Fault Reply → Database → Prop} {action : Action Reply}
    {recover : Fault → Reply} {d : Database} (ends : action.Ends d mid)
    (replies : ∀ reply d', mid (.ok reply) d' → post (.ok reply) d')
    (faults : ∀ fault d', mid (.error fault) d' → post (.ok (recover fault)) d') :
    (recovering action recover).Ends d post := by
  intro w here
  have ended := ends w here
  rw [recovering, Action.run_bind, Action.run_attempt]
  rcases ran : action.run w with ⟨fault | reply, reached⟩
  · rw [ran] at ended
    exact faults fault _ ended
  · rw [ran] at ended
    exact replies reply _ ended

theorem database_recovering (action : Action Reply) (recover : Fault → Reply) (w : World) :
    ((recovering action recover).run w).2.database = (action.run w).2.database := by
  rw [recovering, Action.run_bind, Action.run_attempt]
  rcases action.run w with ⟨fault | reply, reached⟩ <;> rfl

end GridCommons.Web

namespace GridCommons.Step

open Site

variable {α : Type} {effect : Web.Request → World → Option α} {row : α → Row} {step : Step}
  {r : Web.Request} {w : World}

/-- What a step effects, where a request that arrives effects it. -/
def effect? (effect : Web.Request → World → Option α) (step : Step) (w : World) : Option α :=
  (step.delivered? (nextSecond w)).bind fun arrived => effect arrived (nextSecond w)

/-- A request that effects nothing with any body effects nothing in a step. -/
theorem effect?_eq_none (sends : step.sent? = some r)
    (nothing : ∀ body w, effect { r with body } w = none) :
    step.effect? effect w = none := by
  refine Option.bind_eq_none_iff.mpr fun arrived delivers => ?_
  obtain ⟨body, rfl⟩ := delivered?_eq_some delivers sends
  exact nothing body _

/-- A step stores the row that serving the request that arrives stores. -/
theorem database_take_putIf_arrived (sends : step.sent? = some r)
    (serves : ∀ arrived, step.delivered? (nextSecond w) = some arrived →
      ((Web.serve arrived).run (nextSecond w)).2.database =
        w.database.putIf ((effect arrived (nextSecond w)).map row)) :
    (step.take w).2.database = w.database.putIf ((step.effect? effect w).map row) := by
  rw [database_take sends, effect?]
  cases delivers : step.delivered? (nextSecond w) with
  | none => rfl
  | some arrived => exact serves arrived delivers

/-- A step stores the row that serving its request stores. -/
theorem database_take_putIf (sends : step.sent? = some r)
    (serves : ∀ body w, ((Web.serve { r with body }).run w).2.database =
      w.database.putIf ((effect { r with body } w).map row)) :
    (step.take w).2.database = w.database.putIf ((step.effect? effect w).map row) := by
  apply database_take_putIf_arrived sends
  intro arrived delivers
  obtain ⟨body, rfl⟩ := delivered?_eq_some delivers sends
  exact serves body (nextSecond w)

end GridCommons.Step
