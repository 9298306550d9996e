import Mathlib.Data.List.Nodup
import GridCommons.Proofs.Outcome
import GridCommons.Proofs.Runs
import GridCommons.Proofs.Unmoderated

/-!
Contract: walls and the grids they stand on.

Owns:
- what it takes for a wall to lie on a card's grid: it starts there, it covers a square,
  and it ends there;
- that no request but one to add a wall makes a wall or resizes a card;
- the wall that a request adds, as a function of the state;
- which runs of requests keep every wall on its grid.

A request to add a wall is checked against the right and the lower edge only.
-/

namespace GridCommons.Site

namespace Wall

/-- The wall starts on a grid and covers a square at least. -/
structure Solid (wall : Wall) : Prop where
  left : 0 ≤ wall.x
  upper : 0 ≤ wall.y
  wide : 1 ≤ wall.width
  high : 1 ≤ wall.height

instance (wall : Wall) : Decidable wall.Solid :=
  decidable_of_iff (0 ≤ wall.x ∧ 0 ≤ wall.y ∧ 1 ≤ wall.width ∧ 1 ≤ wall.height)
    ⟨fun ⟨left, upper, wide, high⟩ => ⟨left, upper, wide, high⟩,
      fun solid => ⟨solid.left, solid.upper, solid.wide, solid.high⟩⟩

/-- The wall ends on the grid of the card, or before it. -/
structure EndsOn (wall : Wall) (card : Card) : Prop where
  right : wall.x + wall.width ≤ card.cols
  lower : wall.y + wall.height ≤ card.rows

/-- The wall lies on the grid of the card. -/
structure LiesOn (wall : Wall) (card : Card) : Prop extends wall.Solid, wall.EndsOn card

end Wall

/-- Two states of a card have the same grid. -/
def Card.SameGrid (card later : Card) : Prop :=
  later.cols = card.cols ∧ later.rows = card.rows

theorem Wall.EndsOn.sameGrid {wall : Wall} {card later : Card} (ends : wall.EndsOn card)
    (same : card.SameGrid later) : wall.EndsOn later where
  right := same.1 ▸ ends.right
  lower := same.2 ▸ ends.lower

namespace Database

variable {d d' : Database} {rule : Wall → Card → Prop}

/-- Every wall is one of a card, and meets a rule there. -/
def WallsMeet (rule : Wall → Card → Prop) (d : Database) : Prop :=
  ∀ wall ∈ d.walls.rows, ∃ card, d.cards.find? wall.cardId = some card ∧ rule wall card

/-- Every wall lies on the grid of its card. -/
abbrev WallsInside : Database → Prop :=
  WallsMeet Wall.LiesOn

/-- Every wall ends on the grid of its card, or before it. -/
abbrev WallsEndInside : Database → Prop :=
  WallsMeet Wall.EndsOn

theorem WallsInside.endInside (inside : d.WallsInside) : d.WallsEndInside := by
  intro wall member
  obtain ⟨card, found, lies⟩ := inside wall member
  exact ⟨card, found, lies.toEndsOn⟩

/-- Walls lie inside exactly if they end inside and none is without extent. -/
theorem wallsInside_iff :
    d.WallsInside ↔ d.WallsEndInside ∧ ∀ wall ∈ d.walls.rows, wall.Solid := by
  constructor
  · intro inside
    refine ⟨WallsInside.endInside inside, fun wall member => ?_⟩
    obtain ⟨card, -, lies⟩ := inside wall member
    exact lies.toSolid
  · rintro ⟨ends, solid⟩ wall member
    obtain ⟨card, found, endsOn⟩ := ends wall member
    exact ⟨card, found, ⟨solid wall member, endsOn⟩⟩

/-- A wall that meets the rule may be added. -/
theorem WallsMeet.put_wall {wall : Wall} (meets : d.WallsMeet rule)
    (new : ∃ card, d.cards.find? wall.cardId = some card ∧ rule wall card) :
    (d.put (.wall wall)).WallsMeet rule := by
  intro other member
  rcases Table.mem_put.mp member with rfl | ⟨before, -⟩
  · exact new
  · exact meets other before

/-! ## Changes that make no wall -/

/-- Every wall was there before, and its card is still there with the same grid. -/
def GridsKept (d d' : Database) : Prop :=
  ∀ wall ∈ d'.walls.rows, wall ∈ d.walls.rows ∧
    ∀ card, d.cards.find? wall.cardId = some card →
      ∃ later, d'.cards.find? wall.cardId = some later ∧ card.SameGrid later

theorem GridsKept.refl (d : Database) : GridsKept d d :=
  fun _ member => ⟨member, fun card found => ⟨card, found, rfl, rfl⟩⟩

theorem GridsKept.trans {d'' : Database} (first : GridsKept d d') (second : GridsKept d' d'') :
    GridsKept d d'' := by
  intro wall member
  obtain ⟨between, kept⟩ := second wall member
  obtain ⟨before, keptBefore⟩ := first wall between
  refine ⟨before, fun card found => ?_⟩
  obtain ⟨later, foundLater, cols, rows⟩ := keptBefore card found
  obtain ⟨latest, foundLatest, colsLatest, rowsLatest⟩ := kept later foundLater
  exact ⟨latest, foundLatest, colsLatest.trans cols, rowsLatest.trans rows⟩

/-- Walls that end inside go on doing so while grids and walls are kept. -/
theorem WallsEndInside.of_gridsKept (ends : d.WallsEndInside) (kept : GridsKept d d') :
    d'.WallsEndInside := by
  intro wall member
  obtain ⟨before, keptCard⟩ := kept wall member
  obtain ⟨card, found, endsOn⟩ := ends wall before
  obtain ⟨later, foundLater, same⟩ := keptCard card found
  exact ⟨later, foundLater, endsOn.sameGrid same⟩

/-- The walls are the same, and no card lost its grid. -/
structure WallsStay (d d' : Database) : Prop where
  walls : d'.walls = d.walls
  cards : d.cards.Persists (fun _ card later => card.SameGrid later) d'.cards

theorem WallsStay.gridsKept (stay : WallsStay d d') : GridsKept d d' := by
  intro wall member
  rw [stay.walls] at member
  exact ⟨member, fun card found => stay.cards wall.cardId card found⟩

/-- Neither walls nor cards were written. -/
theorem WallsStay.of_eq (walls : d'.walls = d.walls) (cards : d'.cards = d.cards) :
    WallsStay d d' := by
  refine ⟨walls, ?_⟩
  rw [cards]
  exact .of_eq (fun _ => rfl) fun _ _ => ⟨rfl, rfl⟩

theorem WallsStay.trans {d'' : Database} (first : WallsStay d d') (second : WallsStay d' d'') :
    WallsStay d d'' where
  walls := second.walls.trans first.walls
  cards := first.cards.trans second.cards fun _ _ _ _ here there =>
    ⟨there.1.trans here.1, there.2.trans here.2⟩

theorem WallsStay.put_card {card : Card}
    (known : ∀ old, d.cards.find? card.id = some old → old.SameGrid card) :
    WallsStay d (d.put (.card card)) :=
  ⟨rfl, .put known fun _ _ => ⟨rfl, rfl⟩⟩

/-- A card that is there may be stored with the same grid. -/
theorem WallsStay.put_known {card old : Card} (found : d.cards.find? card.id = some old)
    (same : old.SameGrid card) : WallsStay d (d.put (.card card)) := by
  apply put_card
  intro other foundOther
  cases found.symm.trans foundOther
  exact same

theorem WallsStay.put_withMembers {relation : Relation} {id : Nat} {row : Row} {members : Members}
    (found : d.find? ⟨relation.kind, id⟩ = some row) :
    WallsStay d (d.put (relation.withMembers members row)) := by
  rcases withMembers_cases members found with
    ⟨card, likes, favorites, here, stored⟩ | ⟨comment, _, _, -, stored⟩
  · rw [stored]
    exact put_known here ⟨rfl, rfl⟩
  · rw [stored]
    exact .of_eq rfl rfl

theorem WallsStay.blockCardsOf (user : Nat) : WallsStay d (Moderation.blockCardsOf user d) := by
  refine ⟨rfl, fun id card found => ?_⟩
  refine ⟨_, (Table.find?_map d.cards _ (by intro card; split <;> rfl) id).trans (congrArg _ found), ?_⟩
  dsimp only
  split <;> exact ⟨rfl, rfl⟩

theorem WallsStay.delete_note (d : Database) (id : Nat) :
    WallsStay d (d.delete [⟨.profileNote, id⟩]) := by
  constructor
  · apply Table.eq_of_rows_of_next
    · refine Table.rows_eq_of_find?_eq fun number => ?_
      exact Slot.wall.find?_delete_leaf_of_ne rfl (by simp) (by simp [Slot.wall]) number
    · exact next_delete d _ .wall
  · refine .of_eq (fun number => ?_) fun _ _ => ⟨rfl, rfl⟩
    exact Slot.card.find?_delete_leaf_of_ne rfl (by simp) (by simp [Slot.card]) number

/-- A wall goes with its card, so that a wall that stays keeps it. -/
theorem GridsKept.delete (d : Database) (roots : List Ref) : GridsKept d (d.delete roots) := by
  intro wall member
  obtain ⟨old, foundOld, stays, bereft⟩ := Slot.wall.mem_delete member
  have same : old = wall := Row.wall.inj bereft
  subst same
  obtain ⟨before, -⟩ := Table.find?_eq_some_iff.mp foundOld
  refine ⟨before, fun card foundCard => ?_⟩
  have cardStays : (⟨.card, old.cardId⟩ : Ref) ∉ d.closure roots := fun goes =>
    stays (closure_saturated (Slot.wall.mem_allRows.mpr before) goes (by simp [Slot.wall, Row.links]))
  have cardBefore : d.find? ⟨.card, old.cardId⟩ = some (.card card) := Slot.card.find?_inject foundCard
  have kept := find?_delete d roots ⟨.card, old.cardId⟩
  rw [if_neg cardStays, cardBefore, Option.map_some] at kept
  obtain ⟨later, foundLater, same⟩ := Slot.card.find?_eq_some kept
  cases Row.card.inj same
  exact ⟨_, foundLater, rfl, rfl⟩

end Database

end GridCommons.Site

namespace GridCommons.Web

open Site Account

/-- Outside the administration, only a request to add a wall makes one, only a request to remove one
removes any, and no request resizes a card. -/
theorem Deed.wallsStay_or {r : Request} {actor : Option User} {address : Address} {d d' : Database}
    (deed : Deed r actor address d d') (site : ∀ page, address ≠ .admin page) :
    d.WallsStay d' ∨ (∃ id roots, address = .removeWall id ∧ d' = d.delete roots) ∨ address = .addWall := by
  cases deed with
  | registered _ _ _ _ stored | passwordStored _ _ _ stored | profileChanged _ _ stored
  | commented _ _ stored | reported _ _ _ stored | noteAdded _ _ _ _ stored | fileStored _ _ stored
  | reportResolved _ _ _ _ _ stored | flagStored _ _ _ stored | passwordChanged _ _ _ _ _ stored =>
      obtain ⟨-, rfl⟩ := Database.store_eq_ok_iff.mp stored
      exact .inl (.of_eq rfl rfl)
  | loginNoted | commentBlocked | userBanned | commentsOfBanned => exact .inl (.of_eq rfl rfl)
  | cellsFilled _ _ _ _ added =>
      rw [Database.eq_of_addAll added]
      exact .inl (.of_eq rfl rfl)
  | joined _ _ found stored | left _ _ _ found stored =>
      obtain ⟨-, rfl⟩ := Database.store_eq_ok_iff.mp stored
      exact .inl (.put_withMembers found)
  | cardMade v fileId now stored =>
      obtain ⟨-, rfl⟩ := Database.store_eq_ok_iff.mp stored
      refine .inl (.put_card fun old found => ?_)
      cases (Table.find?_next d.cards).symm.trans found
  | cardBlocked card now _ found stored =>
      obtain ⟨-, rfl⟩ := Database.store_eq_ok_iff.mp stored
      exact .inl (.put_known found ⟨rfl, rfl⟩)
  | cardUnblocked card _ found | cardUnblockedByStaff card _ found =>
      obtain ⟨-, rfl⟩ := Table.find?_eq_some_iff.mp found
      exact .inl (.put_known found ⟨rfl, rfl⟩)
  | cardsOfBanned => exact .inl (.blockCardsOf _)
  | noteRemoved => exact .inl (.delete_note d _)
  | wallRemoved => exact .inr (.inl ⟨_, _, rfl, rfl⟩)
  | wallAdded => exact .inr (.inr rfl)
  | statusChanged | listEdited | listSettled | cardEntered | reportEntered | adminDeleted =>
      exact absurd rfl (site _)

/-- No deed elsewhere in the site touches a wall or the size of a grid. -/
theorem Deed.gridsKept {r : Request} {actor : Option User} {address : Address} {d d' : Database}
    (deed : Deed r actor address d d') (site : ∀ page, address ≠ .admin page)
    (elsewhere : address ≠ .addWall) : d.GridsKept d' := by
  rcases deed.wallsStay_or site with stay | ⟨id, roots, -, rfl⟩ | adds
  · exact stay.gridsKept
  · exact .delete d roots
  · exact absurd adds elsewhere

/-! ## Adding a wall -/

/-- The card that the body of a request names. -/
def namedCard? (v : Json.Value) (d : Database) : Option Card :=
  match rowNumber v with
  | .ok (some (.ofNat id)) => if inRange id then d.cards.find? id else none
  | _ => none

/-- The wall that a user asks for on a card. -/
def WallRequest.wall (asked : WallRequest) (card : Card) (user : User) (id : Nat) : Wall :=
  { id, cardId := card.id, x := asked.x, y := asked.y, width := asked.width,
    height := asked.height, createdById := user.id }

/-- The wall that a user adds by a body, if the body asks for one that is stored. -/
def wallBy? (user : User) (body : Bytes) (w : World) : Option Wall := do
  let asked ← (readWall (some w.platform.nesting) body).toOption
  let card ← namedCard? asked.card w.database
  if w.mode = .ok ∧ fits asked card = true ∧
      [asked.x, asked.y, asked.width, asked.height].all inRange = true ∧
      inRange w.database.walls.next = true then
    some (asked.wall card user w.database.walls.next)
  else none

/-- The wall that a request adds, if it adds one. -/
def addedWall? (r : Request) (w : World) : Option Wall :=
  if r.method = "POST" ∧ addressOf r.path = some .addWall then
    (servedAs r.visitor w).bind fun user => wallBy? user r.bytes w
  else none

theorem find?_namedCard {v : Json.Value} {d : Database} {card : Card}
    (named : namedCard? v d = some card) : d.cards.find? card.id = some card := by
  unfold namedCard? at named
  split at named
  · split at named
    · exact Table.find?_self named
    · cases named
  · cases named

theorem run_wallCard {v : Json.Value} {w : World} (online : w.mode ≠ .offline) :
    (wallCard v).run w =
      match rowNumber v with
      | .ok _ => (.ok (namedCard? v w.database), w)
      | .error fault => (.error fault, w) := by
  unfold wallCard namedCard?
  rw [Action.run_bind]
  cases rowNumber v with
  | error fault => rfl
  | ok number =>
      rcases number with _ | id | below
      · rfl
      · exact Action.run_lookup online id
      · rfl

/-- A new wall of a user on a card takes only a number. -/
theorem violation?_wall {d : Database} {wall : Wall} {card : Card} {user : User}
    (new : wall.id = d.walls.next) (onCard : d.cards.find? wall.cardId = some card)
    (byUser : d.users.find? wall.createdById = some user) :
    d.violation? (.wall wall) = none ↔ inRange wall.id = true := by
  have card : d.has ⟨.card, wall.cardId⟩ = true := Database.Slot.card.has_of_find? onCard
  have user : d.has ⟨.user, wall.createdById⟩ = true := Database.Slot.user.has_of_find? byUser
  have holds : d.linksHold (.wall wall) = true := by
    simp [Database.linksHold, Row.links, Row.members, card, user]
  have vacant : d.has ⟨.wall, wall.id⟩ = false := new ▸ Database.has_next d .wall
  exact Database.violation?_new vacant rfl rfl holds

/-- A request stores the wall it asks for, if that may be added. -/
theorem database_addWall {r : Request} {user : User} {w : World}
    (known : w.database.users.find? user.id = some user) (online : w.mode ≠ .offline) :
    ((addWall r user).run w).2.database = w.database.putIf ((wallBy? user r.bytes w).map .wall) := by
  rw [addWall, database_recovering, Action.run_bind, Action.run_platform]
  unfold wallBy?
  dsimp only
  rw [Action.run_bind]
  rcases readWall (some w.platform.nesting) r.bytes with fault | asked
  · rfl
  simp only [Action.ofExcept, Action.run_pure, Action.run_bind, run_wallCard online, Except.toOption,
    Option.bind_eq_bind, Option.bind_some]
  rcases number : rowNumber asked.card with fault | _
  · simp [namedCard?, number, Database.putIf]
  rcases named : namedCard? asked.card w.database with _ | card
  · rfl
  dsimp only
  rw [Option.bind_some]
  by_cases inside : fits asked card = true
  · rw [if_neg (by simp [inside]), ← List.not_all_eq_any_not]
    by_cases small : [asked.x, asked.y, asked.width, asked.height].all inRange = true
    · have free : w.database.violation? (.wall (asked.wall card user (w.database.next .wall))) = none ↔
          inRange w.database.walls.next = true := violation?_wall rfl (find?_namedCard named) known
      rw [if_neg (by simp [small]), Action.run_bind_pure]
      refine (Action.database_insert _ _ w).trans ?_
      simp only [inside, small, true_and]
      by_cases stores : w.mode = .ok ∧ inRange w.database.walls.next = true
      · rw [if_pos ⟨stores.1, free.mpr stores.2⟩, if_pos stores]
        rfl
      · rw [if_neg fun allowed => stores ⟨allowed.1, free.mp allowed.2⟩, if_neg stores]
        rfl
    · rw [if_pos (by simp [small]), if_neg (fun asks => small asks.2.2.1), Action.run_bind,
        Action.run_writable]
      cases w.mode <;> rfl
  · rw [if_pos (by simp [inside]), Action.run_pure, if_neg (by simp [inside])]
    rfl

theorem database_serve_addWall {r : Request} {w : World} (client : r.visitor.isClient = true)
    (there : addressOf r.path = some .addWall) :
    ((serve r).run w).2.database = w.database.putIf ((addedWall? r w).map .wall) := by
  have chosen : serveAddress r .addWall = Guard.postOnly r (Guard.signedIn r (addWall r)) := rfl
  rw [database_serve there, chosen]
  unfold addedWall? Guard.postOnly
  by_cases posted : r.method = "POST"
  · rw [if_pos posted, if_pos ⟨posted, there⟩]
    cases served : servedAs r.visitor w with
    | none => exact database_signedIn served
    | some user =>
        rw [run_signedIn served]
        exact database_addWall (find?_of_servedAs client served).1 (online_of_servedAs client served)
  · rw [if_neg posted, if_neg fun asks => posted asks.1]
    rfl

/-- The wall that a request adds ends on the grid of its card. -/
theorem endsOn_of_addedWall {r : Request} {w : World} {wall : Wall} (added : addedWall? r w = some wall) :
    ∃ card, w.database.cards.find? wall.cardId = some card ∧ wall.EndsOn card := by
  unfold addedWall? at added
  split at added
  · obtain ⟨user, -, byUser⟩ := Option.bind_eq_some_iff.mp added
    simp only [wallBy?, Option.bind_eq_bind, Option.bind_eq_some_iff] at byUser
    obtain ⟨asked, -, card, named, placed⟩ := byUser
    split at placed
    · rename_i allowed
      cases placed
      have inside := allowed.2.1
      simp only [fits, Bool.and_eq_true, decide_eq_true_eq] at inside
      exact ⟨card, find?_namedCard named, ⟨inside.1, inside.2⟩⟩
    · cases placed
  · cases added

/-- A request to another address adds no wall. -/
theorem addedWall?_eq_none {r : Request} {w : World} (elsewhere : addressOf r.path ≠ some .addWall) :
    addedWall? r w = none :=
  if_neg fun asks => elsewhere asks.2

end GridCommons.Web

namespace GridCommons

open Site

namespace Step

variable {step : Step} {w : World}

/-- The wall that a step adds, if it sends a request that adds one. -/
def addedWall? : Step → World → Option Wall :=
  effect? Web.addedWall?

/-- A wall that the step adds starts on a grid and covers a square. -/
def AddsSolid (step : Step) (w : World) : Prop :=
  ∀ wall ∈ step.addedWall? w, wall.Solid

/-- A request to the site either adds one wall and does nothing else, or it makes no wall and
resizes no grid. -/
theorem walls_take (client : step.FromClient) (site : step.ToSite) :
    (∃ wall, step.addedWall? w = some wall ∧ (step.take w).2.database = w.database.put (.wall wall)) ∨
      (step.addedWall? w = none ∧ w.database.GridsKept (step.take w).2.database) := by
  obtain ⟨r, sent, outside⟩ := client
  obtain ⟨_, same, site⟩ := site
  cases sent.symm.trans same
  by_cases there : Web.addressOf r.path = some .addWall
  · have written : (step.take w).2.database = w.database.putIf ((step.addedWall? w).map .wall) :=
      database_take_putIf sent fun body _ =>
        Web.database_serve_addWall (r := { r with body }) outside there
    rw [written]
    cases step.addedWall? w with
    | none => exact .inr ⟨rfl, .refl _⟩
    | some wall => exact .inl ⟨wall, rfl, rfl⟩
  · refine .inr ⟨effect?_eq_none sent fun _ _ => Web.addedWall?_eq_none there, ?_⟩
    refine take_keeps Database.GridsKept .refl .trans sent fun body address named d d' deed =>
      deed.gridsKept ?_ ?_
    · rintro page rfl
      exact site page named
    · rintro rfl
      exact there named

/-- An added wall ends on the grid of its card. -/
theorem endsOn_addedWall {wall : Wall} (added : step.addedWall? w = some wall) :
    ∃ card, w.database.cards.find? wall.cardId = some card ∧ wall.EndsOn card := by
  obtain ⟨arrived, -, added⟩ := Option.bind_eq_some_iff.mp added
  exact Web.endsOn_of_addedWall (w := nextSecond w) added

/-- No request to the site lets a wall reach over the right or the lower edge. -/
theorem wallsEndInside_take (client : step.FromClient) (site : step.ToSite)
    (ends : w.database.WallsEndInside) : (step.take w).2.database.WallsEndInside := by
  rcases walls_take client site with ⟨wall, added, written⟩ | ⟨-, kept⟩
  · rw [written]
    exact Database.WallsMeet.put_wall ends (endsOn_addedWall added)
  · exact Database.WallsEndInside.of_gridsKept ends kept

/-- A request to the site leads out of a state in which every wall lies on its grid exactly if the wall
that it adds starts outside or covers no square. -/
theorem wallsInside_take_iff (client : step.FromClient) (site : step.ToSite)
    (inside : w.database.WallsInside) :
    (step.take w).2.database.WallsInside ↔ step.AddsSolid w := by
  obtain ⟨ends, solid⟩ := Database.wallsInside_iff.mp inside
  unfold AddsSolid
  rcases walls_take (w := w) client site with ⟨wall, added, written⟩ | ⟨nothing, kept⟩
  · rw [added, written]
    constructor
    · rintro after _ ⟨⟩
      obtain ⟨card, -, lies⟩ := after wall (Table.mem_put.mpr (.inl rfl))
      exact lies.toSolid
    · intro sound
      obtain ⟨card, found, endsOn⟩ := endsOn_addedWall added
      exact Database.WallsMeet.put_wall inside ⟨card, found, ⟨sound wall rfl, endsOn⟩⟩
  · rw [nothing]
    refine ⟨fun _ => nofun, fun _ => Database.wallsInside_iff.mpr ⟨?_, ?_⟩⟩
    · exact Database.WallsEndInside.of_gridsKept ends kept
    · exact fun wall member => solid wall (kept wall member).1

end Step

/-- No run of requests outside the administration lets a wall reach over the right or the lower
edge of its grid.  From a state in which every wall lies on its grid, such a run stays among such
states exactly if every wall that it adds starts on a grid and covers a square: neither is checked
when a wall is added. -/
theorem walls_stay_inside_iff {steps : List Step} {w : World}
    (requests : ∀ step ∈ steps, step.FromClient ∧ step.ToSite) (inside : w.database.WallsInside) :
    (runSteps steps w).2.database.WallsEndInside ∧
      ((∀ earlier, earlier <+: steps → (runSteps earlier w).2.database.WallsInside) ↔
        EachStep Step.AddsSolid steps w) := by
  constructor
  · have ends : w.database.WallsEndInside := Database.WallsInside.endInside inside
    exact holds_runSteps (fun w => w.database.WallsEndInside)
      (fun _ _ request => Step.wallsEndInside_take request.1 request.2) requests ends
  · exact holds_along_iff (fun w => w.database.WallsInside)
      (fun _ _ request => Step.wallsInside_take_iff request.1 request.2) requests inside

/-! ## A wall in the corner and a wall outside -/

/-- A user with a card of ten columns and ten rows, signed in from a browser. -/
def wallSite : World :=
  { now := ⟨0⟩
    database :=
      [.user { id := 1, username := "ann", dateJoined := ⟨0⟩, password := .plain "" },
        .card { id := 1, userId := 1, title := "", description := "", createdAt := ⟨0⟩,
                updatedAt := ⟨0⟩, cols := 10, rows := 10 }].foldl Database.put {}
    sessions := Table.put {} { key := 1, userId := 1, stamp := .plain "", expires := ⟨100⟩ }
    browsers := [("ann", 1)] }

def asksForWall (body : String) : Step :=
  .request { method := "POST", path := "/api/walls/add/", visitor := .browser "ann"
             body := .bytes (Text.bytesOf body) }

/-- A wall of the usual size in the last square. -/
def wallInCorner : Step :=
  asksForWall "\x7b\"field_id\": 1, \"x\": 9, \"y\": \"9\"\x7d"

/-- A wall of the usual size, five columns to the left of the grid. -/
def wallOutside : Step :=
  asksForWall "\x7b\"field_id\": 1, \"x\": -5, \"y\": 0\x7d"

theorem wallsInside_wallSite : wallSite.database.WallsInside :=
  nofun

theorem fromClient_asksForWall (body : String) : (asksForWall body).FromClient :=
  ⟨_, rfl, rfl⟩

theorem toSite_asksForWall (body : String) : (asksForWall body).ToSite := by
  have there : Web.addressOf "/api/walls/add/" = some .addWall := by decide +kernel
  refine ⟨_, rfl, fun page same => ?_⟩
  cases there.symm.trans same

/-- The wall in the corner is added, and the site stays in order. -/
theorem walls_stay_inside_iff_corner :
    (wallInCorner.addedWall? wallSite).isSome = true ∧
      (runSteps [wallInCorner] wallSite).2.database.WallsInside := by
  have added : wallInCorner.addedWall? wallSite =
      some { id := 1, cardId := 1, x := 9, y := 9, width := 1, height := 1, createdById := 1 } := by
    decide +kernel
  have solid : EachStep Step.AddsSolid [wallInCorner] wallSite := by
    refine ⟨?_, trivial⟩
    rw [Step.AddsSolid, added]
    decide
  have requests : ∀ step ∈ [wallInCorner], step.FromClient ∧ step.ToSite :=
    List.forall_mem_singleton.mpr ⟨fromClient_asksForWall _, toSite_asksForWall _⟩
  refine ⟨by rw [added]; rfl, ?_⟩
  exact (walls_stay_inside_iff requests wallsInside_wallSite).2.mpr solid [wallInCorner] List.prefix_rfl

/-- A wall may be added that starts outside its grid. -/
theorem wall_starts_outside :
    ∃ step w, (Step.FromClient step ∧ Step.ToSite step) ∧ w.database.WallsInside ∧
      ∃ wall ∈ (step.take w).2.database.walls.rows, wall.x < 0 := by
  have added : wallOutside.addedWall? wallSite =
      some { id := 1, cardId := 1, x := -5, y := 0, width := 1, height := 1, createdById := 1 } := by
    decide +kernel
  have request : wallOutside.FromClient ∧ wallOutside.ToSite :=
    ⟨fromClient_asksForWall _, toSite_asksForWall _⟩
  refine ⟨wallOutside, wallSite, request, wallsInside_wallSite, ?_⟩
  rcases Step.walls_take request.1 request.2 with ⟨wall, adds, written⟩ | ⟨nothing, -⟩
  · cases added.symm.trans adds
    rw [written]
    exact ⟨_, Table.mem_put.mpr (.inl rfl), by decide⟩
  · cases added.symm.trans nothing

end GridCommons
