import GridCommons.Proofs.Faults
import GridCommons.Proofs.Submitting
import GridCommons.Proofs.WallHistory

/-!
Contract: requests to add a wall, whatever their bodies hold.

Owns:
- what the members of a body ask for, apart from how the body is read;
- the walls that may be placed, and the bodies that miss their card;
- that a request to add a wall is always answered, and that it stores the wall it reports or
  leaves every table alone.

Does not own: which values stand for whole numbers.
-/

namespace GridCommons.Web

open Site Account

variable {room : Nat} {body : Bytes} {asked : WallRequest} {v : Json.Value} {number : Option Int} {d : Database}
  {card : Card} {wall : Wall} {user : User} {r : Request} {w : World}

/-! ## What a body asks for -/

/-- The members of an object ask for a wall.  A wall is one square wide and high unless they say
more. -/
structure WallRequest.AskedBy (asked : WallRequest) (entries : List (Json.Text × Json.Value)) :
    Prop where
  card : asked.card = memberOr entries "field_id" .null
  x : wholeOf (memberOr entries "x" .null) = .ok asked.x
  y : wholeOf (memberOr entries "y" .null) = .ok asked.y
  width : wholeOf (memberOr entries "width" (.int 1)) = .ok asked.width
  height : wholeOf (memberOr entries "height" (.int 1)) = .ok asked.height

/-- A wall is read from an object that asks for it, and from nothing else. -/
theorem readWall_eq_ok_iff :
    readWall (some room) body = .ok asked ↔
      ∃ entries, HoldsObject room body entries ∧ asked.AskedBy entries := by
  constructor
  · intro reads
    obtain ⟨v, read, reads⟩ := bind_eq_ok reads
    cases v with
    | obj entries =>
        obtain ⟨x, xRead, reads⟩ := bind_eq_ok reads
        obtain ⟨y, yRead, reads⟩ := bind_eq_ok reads
        obtain ⟨width, widthRead, reads⟩ := bind_eq_ok reads
        obtain ⟨height, heightRead, reads⟩ := bind_eq_ok reads
        cases reads
        exact ⟨entries, readDocument_obj_iff.mp read, rfl, xRead, yRead, widthRead, heightRead⟩
    | _ => cases reads
  · rintro ⟨entries, holds, card, x, y, width, height⟩
    unfold memberOr at card x y width height
    rw [readWall, readDocument_obj_iff.mpr holds]
    cases asked
    simp only [bind, Except.bind, x, y, width, height, ← card]
    rfl

/-- A body names a card by its number, which has to be one of a stored card. -/
theorem namedCard?_eq_some_iff :
    namedCard? v d = some card ↔ rowNumber v = .ok (some (card.id : Int)) ∧
      inRange card.id = true ∧ d.cards.find? card.id = some card := by
  constructor
  · intro named
    have found := find?_namedCard named
    unfold namedCard? at named
    split at named
    · rename_i id reads
      split at named
      · rename_i small
        obtain ⟨-, rfl⟩ := Table.find?_eq_some_iff.mp named
        exact ⟨reads, small, found⟩
      · cases named
    · cases named
  · rintro ⟨reads, small, found⟩
    have known : namedCard? v d = if inRange card.id then d.cards.find? card.id else none := by
      rw [namedCard?, reads]
    rw [known, if_pos small, found]

/-- A body asks for a wall on a card that is not there. -/
def MissesCard (room : Nat) (body : Bytes) (d : Database) : Prop :=
  ∃ entries asked number, HoldsObject room body entries ∧
    WallRequest.AskedBy asked entries ∧ rowNumber asked.card = .ok number ∧
    ∀ card ∈ d.cards.rows, inRange card.id = true → number ≠ some (card.id : Int)

theorem missesCard_iff :
    MissesCard room body d ↔ ∃ asked number, readWall (some room) body = .ok asked ∧
      rowNumber asked.card = .ok number ∧ namedCard? asked.card d = none := by
  have unnamed : ∀ {asked number}, rowNumber (WallRequest.card asked) = .ok number →
      (namedCard? asked.card d = none ↔
        ∀ card ∈ d.cards.rows, inRange card.id = true → number ≠ some (card.id : Int)) := by
    intro asked number reads
    simp only [Option.eq_none_iff_forall_ne_some, ne_eq, namedCard?_eq_some_iff, reads]
    constructor
    · rintro other card member small rfl
      exact other card ⟨rfl, small, Table.mem_iff_find?.mp member⟩
    · rintro other card ⟨named, small, found⟩
      exact other card (Table.find?_eq_some_iff.mp found).1 small (Except.ok.inj named)
  constructor
  · rintro ⟨entries, asked, number, read, asks, reads, other⟩
    exact ⟨asked, number, readWall_eq_ok_iff.mpr ⟨entries, read, asks⟩, reads,
      (unnamed reads).mpr other⟩
  · rintro ⟨asked, number, read, reads, none⟩
    obtain ⟨entries, read, asks⟩ := readWall_eq_ok_iff.mp read
    exact ⟨entries, asked, number, read, asks, reads, (unnamed reads).mp none⟩

/-- A wall that a user may place by a body: the members ask for it, it ends on the grid of its
card, and the database has words for its numbers. -/
structure Placeable (user : User) (room : Nat) (body : Bytes) (d : Database) (wall : Wall) :
    Prop where
  asked : ∃ entries named, HoldsObject room body entries ∧
    WallRequest.AskedBy ⟨named, wall.x, wall.y, wall.width, wall.height⟩ entries ∧
    rowNumber named = .ok (some (wall.cardId : Int))
  creator : wall.createdById = user.id
  inside : ∃ card, d.cards.find? wall.cardId = some card ∧ wall.EndsOn card
  number : wall.id = d.walls.next
  small : ∀ n ∈ [(wall.id : Int), wall.cardId, wall.x, wall.y, wall.width, wall.height],
    inRange n = true

/-! ## Adding a wall -/

/-- What is done about a wall on a card that is there. -/
def placeOn (user : User) (asked : WallRequest) (card : Card) : Action Reply :=
  if !fits asked card then return .ofError 400 "Wall exceeds field boundaries"
  else do
    if [asked.x, asked.y, asked.width, asked.height].any fun n => !inRange n then
      Action.writable
      Action.fail .tooLarge
    let id ← Action.insert .wall fun id => .wall (asked.wall card user id)
    return wallAdded (asked.wall card user id)

def wallFault (fault : Fault) : Reply :=
  .ofError 400 fault.message

theorem addWall_eq (r : Request) (user : User) :
    addWall r user =
      recovering
        (do
          let platform ← Action.platform
          let asked ← Action.ofExcept (readWall (some platform.nesting) r.bytes)
          match ← wallCard asked.card with
          | none => return .ofError 404 "Field not found"
          | some card => placeOn user asked card)
        wallFault :=
  rfl

/-- Once the wall is read and its card found, only placing the wall is left. -/
theorem run_addWall_of_named (online : w.mode ≠ .offline)
    (read : readWall (some w.platform.nesting) r.bytes = .ok asked)
    (named : namedCard? asked.card w.database = some card) :
    (addWall r user).run w = (recovering (placeOn user asked card) wallFault).run w := by
  obtain ⟨number, -, -⟩ := namedCard?_eq_some_iff.mp named
  simp only [addWall_eq, run_recovering, Action.run_bind, Action.run_platform, read, Action.ofExcept,
    Action.run_pure, run_wallCard online, number, named]

/-- The wall ends on the grid of the card, and the database takes it. -/
structure Storable (asked : WallRequest) (card : Card) (w : World) : Prop where
  writes : w.mode = .ok
  inside : fits asked card = true
  small : [asked.x, asked.y, asked.width, asked.height].all inRange = true
  room : inRange w.database.walls.next = true

/-- The walls that may be placed are those that are read, of a card that is there, and stored. -/
theorem placeable_iff :
    w.mode = .ok ∧ Placeable user room body w.database wall ↔
      ∃ asked card, readWall (some room) body = .ok asked ∧ namedCard? asked.card w.database = some card ∧
        Storable asked card w ∧ wall = asked.wall card user w.database.walls.next := by
  constructor
  · rintro ⟨writes, ⟨entries, named, read, asks, number⟩, creator, ⟨card, found, inside⟩, new, small⟩
    have same : card.id = wall.cardId := (Table.find?_eq_some_iff.mp found).2
    rw [← same] at number small found
    simp only [List.mem_cons, List.not_mem_nil, or_false, forall_eq_or_imp, forall_eq] at small
    obtain ⟨room, range, small⟩ := small
    refine ⟨_, card, readWall_eq_ok_iff.mpr ⟨entries, read, asks⟩,
      namedCard?_eq_some_iff.mpr ⟨number, range, found⟩, ⟨writes, ?_, ?_, new ▸ room⟩, ?_⟩
    · simp [fits, inside.right, inside.lower]
    · simp [small]
    · simp [WallRequest.wall, same, ← new, ← creator]
  · rintro ⟨asked, card, read, named, ⟨writes, inside, small, room⟩, rfl⟩
    obtain ⟨entries, read, asks⟩ := readWall_eq_ok_iff.mp read
    obtain ⟨number, range, found⟩ := namedCard?_eq_some_iff.mp named
    simp only [fits, Bool.and_eq_true, decide_eq_true_eq] at inside
    refine ⟨writes, ⟨entries, asked.card, read, asks, number⟩, rfl,
      ⟨card, found, inside.1, inside.2⟩, rfl, ?_⟩
    simp only [List.all_cons, List.all_nil, Bool.and_true, Bool.and_eq_true] at small
    simpa [WallRequest.wall] using ⟨room, range, small⟩

/-- A wall that can be stored is stored, and reported. -/
theorem run_placeOn (known : w.database.users.find? user.id = some user)
    (found : w.database.cards.find? card.id = some card) (stores : Storable asked card w) :
    (placeOn user asked card).run w =
      (.ok (wallAdded (asked.wall card user w.database.walls.next)),
        { w with
          database := w.database.put (.wall (asked.wall card user w.database.walls.next)) }) := by
  have allowed : w.database.violation? (.wall (asked.wall card user w.database.walls.next)) = none :=
    (violation?_wall rfl found known).mpr stores.room
  have inserted :=
    Action.run_insert .wall (fun id => .wall (asked.wall card user id)) stores.writes allowed
  rw [placeOn, if_neg (by simp [stores.inside]), ← List.not_all_eq_any_not, stores.small]
  simp only [Bool.not_true, Bool.false_eq_true, if_false, Action.run_bind, inserted, Action.run_pure]
  rfl

/-- A wall that cannot be stored is refused with a reply, and nothing is written. -/
theorem placeOn_refuses (known : w.database.users.find? user.id = some user)
    (found : w.database.cards.find? card.id = some card) (refused : ¬Storable asked card w) :
    ∃ message, (recovering (placeOn user asked card) wallFault).run w =
      (.ok (.ofError 400 message), w) := by
  have recovers : ∀ {fault}, (placeOn user asked card).run w = (.error fault, w) →
      ∃ message, (recovering (placeOn user asked card) wallFault).run w =
        (.ok (.ofError 400 message), w) := by
    intro fault fails
    rw [run_recovering, fails]
    exact ⟨_, rfl⟩
  by_cases inside : fits asked card = true
  · by_cases small : [asked.x, asked.y, asked.width, asked.height].all inRange = true
    · have full : ¬(w.mode = .ok ∧
          w.database.violation? (.wall (asked.wall card user w.database.walls.next)) = none) := by
        rintro ⟨writes, allowed⟩
        exact refused ⟨writes, inside, small, (violation?_wall rfl found known).mp allowed⟩
      obtain ⟨fault, fails⟩ :=
        Action.run_insert_refused .wall (fun id => .wall (asked.wall card user id)) full
      have stops : (placeOn user asked card).run w = (.error fault, w) := by
        rw [placeOn, if_neg (by simp [inside]), ← List.not_all_eq_any_not, small]
        simp only [Bool.not_true, Bool.false_eq_true, if_false, Action.run_bind, fails]
      exact recovers stops
    · have stops : ∃ fault, (placeOn user asked card).run w = (.error fault, w) := by
        rw [placeOn, if_neg (by simp [inside]), ← List.not_all_eq_any_not, if_pos (by simp [small]),
          Action.run_bind, Action.run_writable]
        cases w.mode <;> exact ⟨_, rfl⟩
      exact stops.elim fun _ => recovers
  · rw [placeOn, if_pos (by simp [inside]), run_recovering]
    exact ⟨_, rfl⟩

def wallReport (wall : Wall) : Json.Value :=
  .object [("success", .bool true),
    ("wall", .object [("id", .nat wall.id), ("x", .int wall.x), ("y", .int wall.y),
      ("width", .int wall.width), ("height", .int wall.height)])]

/-- A wall that may be placed is stored and reported.  Otherwise the reply tells whether the card
was missing. -/
theorem addWall_addsOne (known : w.database.users.find? user.id = some user)
    (online : w.mode ≠ .offline) :
    AddsOne .wall wallReport
      (fun wall => w.mode = .ok ∧ Placeable user w.platform.nesting r.bytes w.database wall)
      (MissesCard w.platform.nesting r.bytes w.database) 404 400 (addWall r user) w := by
  unfold AddsOne
  simp only [placeable_iff, missesCard_iff]
  rcases read : readWall (some w.platform.nesting) r.bytes with fault | asked
  · refine .inr ⟨400, fault.message, by simp, .inr ⟨rfl, by simp⟩, ?_⟩
    simp [addWall_eq, run_recovering, Action.run_platform, read, Action.ofExcept, wallFault]
  rcases number : rowNumber asked.card with fault | row
  · refine .inr ⟨400, fault.message, ?_, .inr ⟨rfl, by simp [number]⟩, ?_⟩
    · simp [namedCard?, number]
    · simp [addWall_eq, run_recovering, Action.run_platform, read, Action.ofExcept,
        run_wallCard online, number, wallFault]
  rcases named : namedCard? asked.card w.database with _ | card
  · refine .inr ⟨404, "Field not found", by simp [named],
      .inl ⟨rfl, asked, row, rfl, number, named⟩, ?_⟩
    simp [addWall_eq, run_recovering, Action.run_platform, read, Action.ofExcept,
      run_wallCard online, number, named]
  have found := find?_namedCard named
  by_cases stores : Storable asked card w
  · refine .inl ⟨by simp [named], asked.wall card user w.database.walls.next,
      by simp [named, stores], ?_⟩
    rw [run_addWall_of_named online read named, run_recovering, run_placeOn known found stores]
    rfl
  · obtain ⟨message, refuses⟩ := placeOn_refuses known found stores
    refine .inr ⟨400, message, by simp [named, stores], .inr ⟨rfl, by simp [named]⟩, ?_⟩
    rw [run_addWall_of_named online read named, refuses]

end GridCommons.Web

namespace GridCommons

open Site Web

/-- A request of a signed-in user to add a wall, whatever its body holds, is answered with JSON.  The
status tells of success exactly if one wall came and nothing else changed; that wall is one that the
body asks for, made by the user and ending on the grid of its card, and it is reported as it is
stored.  Every other status leaves the tables alone, and says whether the card was missing.  A
database that can be written takes every wall that may be placed.  A body that is too long or nests
too deep asks for nothing. -/
theorem addWall_all_or_nothing {step : Step} {w : World} {r arrived : Request} {user : User}
    (reaches : step.Reaches .addWall w r arrived user) (posted : r.method = "POST") :
    let before := w.database
    let after := (step.take w).2.database
    let room := w.platform.nesting
    ∃ status value, (step.take w).1.Brings status value ∧
      (status = 200 ↔ ∃ wall, before.Gains after (.wall wall)) ∧
      (∀ wall, before.Gains after (.wall wall) → Placeable user room r.bytes before wall ∧
        value = wallReport wall) ∧
      (status ≠ 200 → after = before ∧ (status = 404 ∨ status = 400)) ∧
      (status = 404 ↔ MissesCard room r.bytes before) ∧
      (w.mode = .ok →
        ∀ wall, Placeable user room r.bytes before wall → before.Gains after (.wall wall)) := by
  intro before after room
  have adds := addWall_addsOne (r := arrived) (w := Step.nextSecond w) reaches.known reaches.online
  rw [reaches.bytes] at adds
  have new : ∀ wall, w.mode = .ok ∧ Placeable user room r.bytes before wall →
      before.find? (Row.wall wall).ref = none := by
    rintro wall ⟨-, places⟩
    have numbered : (Row.wall wall).ref = ⟨.wall, before.next .wall⟩ :=
      congrArg (Ref.mk .wall) places.number
    rw [numbered]
    exact Database.find?_next before .wall
  obtain ⟨status, value, brings, success, gains, reports, refuses, misses⟩ :=
    reaches.brings_of_addsOne posted rfl adds new (fun _ _ => Row.wall.inj) (by decide)
  refine ⟨status, value, brings, success, ?_, refuses, misses, ?_⟩
  · intro wall gained
    have may := (gains wall).mp gained
    exact ⟨may.2, reports wall may⟩
  · exact fun writes wall places => (gains wall).mpr ⟨writes, places⟩

/-- A wall whose numbers are a truth value, a text, a fraction and a whole number. -/
def wallInWords : String :=
  "\x7b\"field_id\": true, \"x\": \" 8 \", \"y\": 9.7, \"width\": 2\x7d"

def wallOfWords : Wall :=
  { id := 1, cardId := 1, x := 8, y := 9, width := 2, height := 1, createdById := 1 }

/-- The wall is stored, as wide as the body says and one square high. -/
theorem addWall_all_or_nothing_words :
    wallSite.database.Gains ((asksForWall wallInWords).take wallSite).2.database (.wall wallOfWords) ∧
      ((asksForWall wallInWords).take wallSite).1.content? =
        some (.json (wallReport wallOfWords)) := by
  have reaches : (asksForWall wallInWords).Reaches .addWall wallSite _ _
      { id := 1, username := "ann", dateJoined := ⟨0⟩, password := .plain "" } :=
    ⟨⟨rfl, by decide +kernel, rfl⟩, rfl, by decide +kernel⟩
  have answered : ((asksForWall wallInWords).take wallSite).1.status? = some 200 := by decide +kernel
  have rows : ((asksForWall wallInWords).take wallSite).2.database.walls.rows = [wallOfWords] := by
    decide +kernel
  obtain ⟨status, value, brings, success, placed, -⟩ := addWall_all_or_nothing reaches rfl
  obtain ⟨wall, gains⟩ := success.mp (Option.some.inj (brings.status.symm.trans answered))
  have stored : wall = wallOfWords := by
    have member : wall ∈ ((asksForWall wallInWords).take wallSite).2.database.walls.rows := by
      rw [gains.stored]
      exact Table.mem_put.mpr (.inl rfl)
    rwa [rows, List.mem_singleton] at member
  rw [stored] at gains
  refine ⟨gains, ?_⟩
  rw [brings.content, (placed wallOfWords gains).2]

end GridCommons
