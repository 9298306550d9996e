import GridCommons.Proofs.Blocking
import GridCommons.Proofs.Unmoderated

/-!
Contract: requests that are not served as the staff.

Owns:
- how a path finds its address, and that no path finds the operation that unblocks for
  the staff only;
- unprivileged requests, and runs of them;
- which blocked cards an unprivileged request opens;
- that unprivileged runs grant no privilege and moderate nothing.
-/

namespace GridCommons.Web

open Site Account

/-! ## Addresses -/

/-- The address to which a route leads a path, if the path fits. -/
def Route.address? (route : Route) (path : String) : Option Address :=
  match path.toList with
  | '/' :: rest => (matchSegments route.pattern rest).bind route.address
  | _ => none

/-- A route leads a path to an address exactly if its pieces match the whole path. -/
theorem Route.address?_eq_some_iff {route : Route} {path : String} {address : Address} :
    route.address? path = some address ↔
      ∃ rest params, path.toList = '/' :: rest ∧ matchSegments route.pattern rest = some params ∧
        route.address params = some address := by
  unfold Route.address?
  split
  · simp [*, Option.bind_eq_some_iff]
  · rename_i noSlash
    constructor
    · nofun
    · rintro ⟨rest, -, starts, -⟩
      exact (noSlash rest starts).elim

/-- The first route that fits a path decides its address. -/
theorem addressOf_eq_findSome? (path : String) :
    addressOf path = Route.table.findSome? fun route => route.address? path := by
  unfold addressOf resolve Route.address?
  generalize path.toList = characters
  split
  · rename_i rest
    rw [resolveIn, List.map_findSome?]
    congr
    funext route
    cases matched : matchSegments route.pattern rest with
    | none => simp [matched]
    | some params => cases leads : route.address params <;> simp [matched, leads]
  · refine (List.findSome?_eq_none_iff.mpr fun route _ => ?_).symm
    simp

/-- Of the routes before the last, none leads to the operation for the staff. -/
theorem address_ne_unblockAsStaff (content : String) (id : Nat) (params : List Param) :
    ∀ route ∈ Route.table.dropLast, route.address params ≠ some (.unblockAsStaff content id) := by
  simp only [Route.table, Route.administration, Route.ofSection, Route.accounts, Route.panel,
    Route.plain, Route.numbered, Route.worded, Route.content, Route.admin, Route.object,
    List.cons_append, List.nil_append, List.dropLast, List.forall_mem_cons, List.not_mem_nil,
    false_implies, implies_true, and_true]
  and_intros
  all_goals
    intro leads
    split at leads <;> cases leads

/-- No path leads to the operation that unblocks for the staff only: an earlier route with
the same pattern takes them all. -/
theorem addressOf_ne_unblockAsStaff (path content : String) (id : Nat) :
    addressOf path ≠ some (.unblockAsStaff content id) := by
  have split : Route.table = Route.table.dropLast ++
      [Route.content "moderation/unblock/" "unblock_content" .unblockAsStaff] := rfl
  rw [addressOf_eq_findSome?, split, List.findSome?_append]
  cases front : Route.table.dropLast.findSome? fun route => route.address? path with
  | some address =>
      obtain ⟨route, member, fits⟩ := List.exists_of_findSome?_eq_some front
      rintro ⟨⟩
      obtain ⟨rest, params, -, -, leads⟩ := Route.address?_eq_some_iff.mp fits
      exact address_ne_unblockAsStaff content id params route member leads
  | none =>
      have passed := List.findSome?_eq_none_iff.mp front
        (Route.content "moderation/unblock/" "unblock_content" .unblock) (by
          simp only [Route.table, Route.administration, Route.ofSection, Route.accounts, Route.panel,
            List.cons_append, List.nil_append, List.dropLast, List.mem_cons, true_or, or_true])
      intro found
      rw [Option.none_or, List.findSome?_singleton] at found
      obtain ⟨rest, params, starts, matched, leads⟩ := Route.address?_eq_some_iff.mp found
      simp only [Route.content] at leads
      split at leads
      · rename_i word number
        have fits : (Route.content "moderation/unblock/" "unblock_content" .unblock).address? path =
            some (.unblock word number) :=
          Route.address?_eq_some_iff.mpr ⟨rest, _, starts, matched, rfl⟩
        cases passed.symm.trans fits
      · cases leads

end GridCommons.Web

namespace GridCommons

open Site Account Web

namespace Step

variable {step : Step} {r : Request} {w : World}

/-! ## Unprivileged requests -/

/-- The step sends a request of a client that is not served as an active user of the
staff. -/
structure Unprivileged (step : Step) (r : Request) (w : World) : Prop where
  sent : step.sent? = some r
  client : r.visitor.isClient = true
  notStaff : ∀ user ∈ servedAs r.visitor (nextSecond w), ¬(user.isActive = true ∧ user.isStaff = true)

theorem Unprivileged.isStaff_eq_false {user : User} (unprivileged : step.Unprivileged r w)
    (served : servedAs r.visitor (nextSecond w) = some user) : user.isStaff = false := by
  have active := (find?_of_servedAs unprivileged.client served).2
  exact Bool.eq_false_iff.mpr fun staff => unprivileged.notStaff user served ⟨active, staff⟩

/-- Who is no staff cannot moderate, but for the one address that unblocks a card for everyone. -/
theorem Unprivileged.unmoderated (unprivileged : step.Unprivileged r w) :
    Database.Unmoderated (fun id => r.method = "POST" ∧ addressOf r.path = some (.unblock "field" id))
      w.database (step.take w).2.database := by
  obtain ⟨body, run⟩ := take_deeds unprivileged.sent w
  refine .of_run ?_ run
  rintro d d' ⟨address, named, deed⟩
  have moderated := Database.Unmoderated.of_deed deed unprivileged.client fun user served =>
    unprivileged.isStaff_eq_false served
  refine moderated.mono ?_
  rintro id ⟨posted, rfl⟩
  exact ⟨posted, named⟩

/-- A submission to the address that unblocks a card does so if it arrives and the database
can be written. -/
theorem cards_take_unblock {id : Nat} {card : Card} (sent : step.sent? = some r)
    (posted : r.method = "POST") (there : addressOf r.path = some (.unblock "field" id))
    (found : w.database.cards.find? id = some card) :
    (step.take w).2.database.cards.find? id =
      if (step.delivered? (nextSecond w)).isSome ∧ w.mode = .ok ∧ inRange id = true then
        some { card with isBlocked := false }
      else some card := by
  by_cases arrives : (step.delivered? (nextSecond w)).isSome = true
  · have submits : step.Submits r w := ⟨sent, posted, arrives⟩
    rw [(submits.moderates_unblock there).database, unblocking?, found]
    by_cases writes : w.mode = .ok ∧ inRange id = true
    · obtain ⟨-, rfl⟩ := Table.find?_eq_some_iff.mp found
      simp only [arrives, writes, true_and, ↓reduceIte]
      exact (Table.find?_put w.database.cards _ _).trans (if_pos rfl)
    · simp only [arrives, writes, and_false, ↓reduceIte]
      split
      · rename_i mode
        have large : ¬inRange id = true := fun small => writes ⟨mode, small⟩
        simpa [large] using found
      · exact found
  · have lost : step.delivered? (nextSecond w) = none := by simpa using arrives
    rw [database_take sent, lost]
    simpa using found

/-- Of the blocked cards, an unprivileged request opens exactly the one that it names at the
unguarded address for unblocking, by a submission that arrives while the database can be
written; it opens no comment.  The first fitting route decides, so the guarded route with the
same pattern is never taken. -/
theorem unprivileged_unblocks_iff (unprivileged : step.Unprivileged r w) :
    (∀ id card, w.database.cards.find? id = some card → card.isBlocked = true →
      ∃ later, (step.take w).2.database.cards.find? id = some later ∧
        (later.isBlocked = false ↔
          r.method = "POST" ∧ addressOf r.path = some (.unblock "field" id) ∧
            (step.delivered? (nextSecond w)).isSome ∧ w.mode = .ok ∧ inRange id = true)) ∧
    (∀ id comment, w.database.comments.find? id = some comment → comment.isBlocked = true →
      ∃ later, (step.take w).2.database.comments.find? id = some later ∧ later.isBlocked = true) ∧
    (addressOf r.path = Route.table.findSome? fun route => route.address? r.path) ∧
    ∀ content id, addressOf r.path ≠ some (.unblockAsStaff content id) := by
  have unmoderated := unprivileged.unmoderated
  refine ⟨?_, ?_, addressOf_eq_findSome? r.path, addressOf_ne_unblockAsStaff r.path⟩
  · intro id card found blocked
    by_cases opens : r.method = "POST" ∧ addressOf r.path = some (.unblock "field" id)
    · obtain ⟨posted, there⟩ := opens
      have taken := cards_take_unblock unprivileged.sent posted there found
      split at taken
      · rename_i writes
        exact ⟨_, taken, fun _ => ⟨posted, there, writes⟩, fun _ => rfl⟩
      · rename_i refused
        refine ⟨card, taken, fun opened => ?_, fun writes => absurd writes.2.2 refused⟩
        cases blocked.symm.trans opened
    · obtain ⟨later, foundLater, same | opened⟩ := unmoderated.cards id card found
      · refine ⟨later, foundLater, fun opened => ?_, fun writes => ?_⟩
        · cases (same.trans blocked).symm.trans opened
        · exact absurd ⟨writes.1, writes.2.1⟩ opens
      · exact absurd opened.2 opens
  · intro id comment found blocked
    obtain ⟨later, foundLater, same⟩ := unmoderated.comments id comment found
    exact ⟨later, foundLater, same.trans blocked⟩

def blockedCard : Card :=
  { id := 1, userId := 1, title := "", description := "", createdAt := ⟨0⟩, updatedAt := ⟨0⟩,
    isBlocked := true }

def blockedSite : World :=
  { now := ⟨0⟩
    database :=
      [.user { id := 1, username := "ann", dateJoined := ⟨0⟩, password := .plain "" },
        .card blockedCard,
        .comment { id := 1, cardId := 1, authorId := 1, text := "", createdAt := ⟨0⟩,
                   isBlocked := true }].foldl Database.put {} }

/-- A submission to the address that unblocks the card, from a browser without a session. -/
def strangerUnblocks : Request :=
  { method := "POST", path := "/moderation/unblock/field/1/", visitor := .browser "stranger" }

theorem addressOf_strangerUnblocks : addressOf strangerUnblocks.path = some (.unblock "field" 1) := by
  decide +kernel

theorem unprivileged_strangerUnblocks :
    (Step.request strangerUnblocks).Unprivileged strangerUnblocks blockedSite :=
  ⟨rfl, rfl, by decide⟩

theorem find?_blockedCard : blockedSite.database.cards.find? 1 = some blockedCard := by
  decide

theorem delivered?_strangerUnblocks :
    ((Step.request strangerUnblocks).delivered? (nextSecond blockedSite)).isSome = true := by
  decide

/-- The card is opened, while the comment stays blocked. -/
theorem unprivileged_unblocks_iff_stranger :
    (∃ later, ((Step.request strangerUnblocks).take blockedSite).2.database.cards.find? 1 = some later ∧
      later.isBlocked = false) ∧
    ∃ later, ((Step.request strangerUnblocks).take blockedSite).2.database.comments.find? 1 = some later ∧
      later.isBlocked = true := by
  obtain ⟨cards, comments, -, -⟩ := unprivileged_unblocks_iff unprivileged_strangerUnblocks
  constructor
  · obtain ⟨later, found, opens⟩ := cards 1 blockedCard find?_blockedCard rfl
    exact ⟨later, found, opens.mpr
      ⟨rfl, addressOf_strangerUnblocks, delivered?_strangerUnblocks, rfl, by decide⟩⟩
  · exact comments 1 _ rfl rfl

/-- Unblocking is no privilege of the staff. -/
theorem stranger_unblocks_card :
    ∃ step r w id card later, Unprivileged step r w ∧
      w.database.cards.find? id = some card ∧ card.isBlocked = true ∧
      (step.take w).2.database.cards.find? id = some later ∧ later.isBlocked = false := by
  refine ⟨.request strangerUnblocks, strangerUnblocks, blockedSite, 1, blockedCard,
    { blockedCard with isBlocked := false }, unprivileged_strangerUnblocks, find?_blockedCard, rfl, ?_,
    rfl⟩
  rw [cards_take_unblock rfl rfl addressOf_strangerUnblocks find?_blockedCard]
  exact if_pos ⟨delivered?_strangerUnblocks, rfl, by decide⟩

end Step

/-! ## Unprivileged runs -/

/-- Every step of the run, taken where the steps before it lead, is an unprivileged
request. -/
def UnprivilegedRun : List Step → World → Prop
  | [], _ => True
  | step :: rest, w => (∃ r, step.Unprivileged r w) ∧ UnprivilegedRun rest (step.take w).2

/-- A run of unprivileged steps moderates nothing, but for unblocked cards. -/
theorem UnprivilegedRun.unmoderated {steps : List Step} {w : World} (run : UnprivilegedRun steps w) :
    Database.Unmoderated (fun _ => True) w.database (runSteps steps w).2.database := by
  induction steps generalizing w with
  | nil => exact .refl _
  | cons step rest inductionHypothesis =>
      obtain ⟨⟨r, unprivileged⟩, later⟩ := run
      have first := unprivileged.unmoderated.mono fun _ _ => trivial
      exact first.trans (inductionHypothesis later)

/-- Requests that are not served as the staff change the privileges of nobody, and make
only ordinary users; they block nothing, and touch no complaint. -/
theorem unprivileged_run_grants_nothing {steps : List Step} {w : World}
    (run : UnprivilegedRun steps w) :
    (∀ id user, w.database.users.find? id = some user →
      ∃ later, (runSteps steps w).2.database.users.find? id = some later ∧
        later.isStaff = user.isStaff ∧ later.isSuperuser = user.isSuperuser ∧
          later.isActive = user.isActive) ∧
    (∀ id user, w.database.users.find? id = none →
      (runSteps steps w).2.database.users.find? id = some user →
        user.isStaff = false ∧ user.isSuperuser = false ∧ user.isActive = true) ∧
    (∀ id card, w.database.cards.find? id = some card → card.isBlocked = false →
      ∃ later, (runSteps steps w).2.database.cards.find? id = some later ∧
        later.isBlocked = false) ∧
    (∀ id comment, w.database.comments.find? id = some comment → comment.isBlocked = false →
      ∃ later, (runSteps steps w).2.database.comments.find? id = some later ∧
        later.isBlocked = false) ∧
    ∀ id report, w.database.cardReports.find? id = some report →
      (runSteps steps w).2.database.cardReports.find? id = some report := by
  obtain ⟨users, newcomers, cards, comments, reports⟩ := run.unmoderated
  refine ⟨?_, ?_, ?_, ?_, ?_⟩
  · intro id user found
    obtain ⟨later, foundLater, same⟩ := users id user found
    exact ⟨later, foundLater, congrArg Privileges.isStaff same, congrArg Privileges.isSuperuser same,
      congrArg Privileges.isActive same⟩
  · intro id user absent present
    have same := newcomers id user absent present
    exact ⟨congrArg Privileges.isStaff same, congrArg Privileges.isSuperuser same,
      congrArg Privileges.isActive same⟩
  · intro id card found isOpen
    obtain ⟨later, foundLater, same | opened⟩ := cards id card found
    · exact ⟨later, foundLater, same.trans isOpen⟩
    · exact ⟨later, foundLater, opened.1⟩
  · intro id comment found isOpen
    obtain ⟨later, foundLater, same⟩ := comments id comment found
    exact ⟨later, foundLater, same.trans isOpen⟩
  · intro id report found
    obtain ⟨later, foundLater, rfl⟩ := reports id report found
    exact foundLater

/-- Requests of a visitor who registers with privileges asked for, signs in, and then
tries to block a comment. -/
def intrusion : List Request :=
  [{ method := "POST", path := "/registration/", visitor := .browser "eve"
     body := .form { texts := [("username", ["eve"]), ("email", ["eve@example.com"]),
       ("password1", ["Str0ng-pass"]), ("password2", ["Str0ng-pass"]), ("is_staff", ["on"])] } [] },
    { method := "POST", path := "/accounts/login/", visitor := .browser "eve"
      body := .form { texts := [("username", ["eve"]), ("password", ["Str0ng-pass"])] } [] },
    { method := "POST", path := "/moderation/block/comment/1/", visitor := .browser "eve" }]

theorem unprivilegedRun_intrusion : UnprivilegedRun (intrusion.map .request) Step.blockedSite :=
  ⟨⟨_, rfl, rfl, by decide +kernel⟩, ⟨_, rfl, rfl, by decide +kernel⟩,
    ⟨_, rfl, rfl, by decide +kernel⟩, trivial⟩

theorem intruder_registered :
    ((runSteps (intrusion.map .request) Step.blockedSite).2.database.users.find? 2).isSome = true := by
  decide +kernel

/-- The visitor is registered, without the privilege. -/
theorem unprivileged_run_grants_nothing_intruder :
    ∃ user, (runSteps (intrusion.map .request) Step.blockedSite).2.database.users.find? 2 = some user ∧
      user.isStaff = false ∧ user.isSuperuser = false ∧ user.isActive = true := by
  obtain ⟨user, found⟩ := Option.isSome_iff_exists.mp intruder_registered
  obtain ⟨-, newcomers, -⟩ := unprivileged_run_grants_nothing unprivilegedRun_intrusion
  exact ⟨user, found, newcomers 2 user rfl found⟩

end GridCommons
