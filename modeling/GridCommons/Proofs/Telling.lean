import GridCommons.Proofs.Redaction
import GridCommons.Proofs.TwoRuns
import GridCommons.Web.Address
import GridCommons.Web.Reading

/-!
Contract: what answers tell of blocked content.

Owns:
- what the answer at an address tells of a blocked card or comment;
- two sites that differ in blocked content only, and when actions end alike on them;
- that the search and the state of a grid end alike exactly if they tell the same, and
  that the list of cards tells nothing.

Does not own: the page of a card.
-/

namespace GridCommons.Web

open Site Account Database
open GridCommons.Json (Value)

/-! ## What is told -/

/-- What an answer tells of one blocked card or comment. -/
inductive Telling where
  | card (title description : String)
  | grid (cols rows : Int) (walls : List (Nat × Int × Int × Int × Int))
  | comment (text : String)
deriving DecidableEq

/-- The text that a request searches for. -/
def searched (r : Request) : String :=
  Text.trim ((r.param? "q").getD "")

/-- A query finds a card. -/
def finds (query : String) (card : Card) : Bool :=
  holds card.title query || holds card.description query

/-- A wall as the state of a grid shows it. -/
def wallPlace (wall : Wall) : Nat × Int × Int × Int × Int :=
  (wall.id, wall.x, wall.y, wall.width, wall.height)

/-- The card with a number has a page for visitors. -/
def hasPage (d : Database) (id : Nat) : Bool :=
  inRange id && (d.cards.find? id).any fun card => !card.isBlocked

/-- What the answer at an address tells of the blocked card, or of the blocked comment, with
a number. -/
def told (r : Request) (d : Database) : Address → Nat → Option Telling
  | .search, number =>
    if (searched r).isEmpty then none
    else
      ((d.cards.find? number).filter fun card => card.isBlocked && finds (searched r) card).map
        fun card => .card card.title card.description
  | .cardState id, number =>
    if number = id ∧ inRange id = true then
      ((d.cards.find? id).filter Card.isBlocked).map
        fun card => .grid card.cols card.rows ((d.wallsOf id).map wallPlace)
    else none
  | .card id, number =>
    if hasPage d id then
      ((d.comments.find? number).filter fun comment => comment.isBlocked && comment.cardId == id).map
        fun comment => .comment comment.text
    else none
  | _, _ => none

/-- The answers at an address tell the same of blocked content. -/
def SameTold (r : Request) (d d' : Database) (address : Address) : Prop :=
  ∀ number, told r d' address number = told r d address number

variable {r : Request} {d d' : Database} {w w' : World} {id number : Nat} {telling : Telling}

/-- The databases are two given ones, with the same squares in both. -/
def Refilled (d d' here there : Database) : Prop :=
  ∃ cells, here = { d with cells } ∧ there = { d' with cells }

/-- The states differ in the database only, and the databases are two given ones up to
squares. -/
abbrev Sites (d d' : Database) : World → World → Prop :=
  Action.DifferBy (Refilled d d')

/-- On the two sites, the actions end with the same value exactly if a fact holds. -/
abbrev AgreesIff (d d' : Database) (fact : Prop) {α : Type} (left right : Action α) : Prop :=
  Action.Agrees (Sites d d') (Sites d d') (fun a b => b = a ↔ fact) left right

/-- The rows of a table other than the squares are those of the given databases. -/
theorem rows_agree {α : Type} [Numbered α] (table : Database → Table α)
    (aside : ∀ (d : Database) cells, table { d with cells } = table d) :
    Action.Agrees (Sites d d') (Sites d d')
      (fun rows rows' => rows = (table d).rows ∧ rows' = (table d').rows)
      (Action.rows table) (Action.rows table) := by
  refine .rows ?_
  rintro _ _ ⟨cells, rfl, rfl⟩
  rw [aside d, aside d']
  exact ⟨rfl, rfl⟩

theorem lookup_card_agrees (id : Nat) :
    Action.Agrees (Sites d d') (Sites d d')
      (fun found found' => found = (if inRange id then d.cards.find? id else none) ∧
        found' = if inRange id then d'.cards.find? id else none)
      (Action.lookup Database.cards id) (Action.lookup Database.cards id) := by
  refine .lookup (fun large => ?_) fun small => ?_
  · rw [large]
    exact ⟨rfl, rfl⟩
  · rintro _ _ ⟨cells, rfl, rfl⟩
    rw [small]
    exact ⟨rfl, rfl⟩

/-- Databases tell the same if each tells what the other does. -/
theorem sameTold_of_both {address : Address}
    (left : ∀ number telling, told r d address number = some telling →
      told r d' address number = some telling)
    (right : ∀ number telling, told r d' address number = some telling →
      told r d address number = some telling) : SameTold r d d' address :=
  fun number => Option.ext fun telling => ⟨right number telling, left number telling⟩

/-! ## Search -/

/-- The search tells of the blocked cards that it finds. -/
theorem told_search_eq_some_iff (asked : (searched r).isEmpty = false) :
    told r d .search number = some telling ↔
      ∃ card ∈ d.cards.rows, card.id = number ∧ card.isBlocked = true ∧
        finds (searched r) card = true ∧ telling = .card card.title card.description := by
  simp only [told, asked, Bool.false_eq_true, if_false, Option.map_eq_some_iff,
    Option.filter_eq_some_iff, Table.find?_eq_some_iff, Bool.and_eq_true]
  constructor
  · rintro ⟨card, ⟨⟨member, named⟩, blocked, found⟩, rfl⟩
    exact ⟨card, member, named, blocked, found, rfl⟩
  · rintro ⟨card, member, named, blocked, found, rfl⟩
    exact ⟨card, ⟨⟨member, named⟩, blocked, found⟩, rfl⟩

theorem told_search_of_mem {card : Card} (asked : (searched r).isEmpty = false)
    (member : card ∈ d.cards.rows) (blocked : card.isBlocked = true) :
    told r d .search card.id =
      if finds (searched r) card then some (.card card.title card.description) else none := by
  have stands : d.cards.find? card.id = some card := Table.find?_eq_some_iff.mpr ⟨member, rfl⟩
  simp only [told, asked, Bool.false_eq_true, if_false, stands, Option.filter_some, blocked,
    Bool.true_and]
  split <;> rfl

theorem map_foundJson (query : String) (cards : List Card) :
    (found query cards).map foundJson =
      cards.filterMap fun card => if finds query card then some (foundJson card) else none := by
  rw [found, ← List.filterMap_eq_filter, List.map_filterMap]
  refine congrArg (List.filterMap · cards) (funext fun card => ?_)
  unfold finds Option.guard
  split <;> rfl

/-- A card that is found shows its number, title and description. -/
theorem foundJson_eq {card card' : Card} (same : foundJson card' = foundJson card) :
    card'.id = card.id ∧ card'.title = card.title ∧ card'.description = card.description := by
  simp only [foundJson, Value.object, Value.nat, Value.text, List.map_cons, Value.obj.injEq,
    List.cons.injEq, Prod.mk.injEq, Value.int.injEq, Value.str.injEq, Json.Text.whole.injEq,
    Int.natCast_inj, true_and] at same
  exact ⟨same.1, same.2.1, same.2.2.1⟩

theorem told_search_of_results (same : SameButBlocked d d') (asked : (searched r).isEmpty = false)
    (results : (found (searched r) d'.cards.rows).map foundJson =
      (found (searched r) d.cards.rows).map foundJson)
    (tells : told r d .search number = some telling) : told r d' .search number = some telling := by
  obtain ⟨card, member, named, blocked, finds, rfl⟩ := (told_search_eq_some_iff asked).mp tells
  have listed : foundJson card ∈ (found (searched r) d'.cards.rows).map foundJson := by
    rw [results]
    exact List.mem_map_of_mem (List.mem_filter.mpr ⟨member, finds⟩)
  obtain ⟨card', inFound, shows⟩ := List.mem_map.mp listed
  obtain ⟨member', finds'⟩ := List.mem_filter.mp inFound
  obtain ⟨sameId, title, description⟩ := foundJson_eq shows
  have blocked' : card'.isBlocked = true := by
    rw [← hides_of_mem member', same.hides_eq, sameId, hides_of_mem member, blocked]
  refine (told_search_eq_some_iff asked).mpr ⟨card', member', sameId.trans named, blocked', finds', ?_⟩
  rw [title, description]

/-- A search has the same results exactly if it tells the same of blocked cards. -/
theorem results_eq_iff (same : SameButBlocked d d') (asked : (searched r).isEmpty = false) :
    (found (searched r) d'.cards.rows).map foundJson =
        (found (searched r) d.cards.rows).map foundJson ↔ SameTold r d d' .search := by
  constructor
  · intro results
    exact sameTold_of_both (fun _ _ => told_search_of_results same asked results)
      fun _ _ => told_search_of_results same.symm asked results.symm
  · intro told
    -- Open cards are the same in both databases, and of a blocked one all that is shown is told.
    rw [map_foundJson, map_foundJson]
    refine filterMap_eq_of_map_eq same.cards fun card member card' member' pair => ?_
    cases blocked : card.isBlocked with
    | false => rw [Card.eq_of_redacted pair blocked]
    | true =>
        have sameId : card'.id = card.id := by
          rw [← Card.id_redacted, pair, Card.id_redacted]
        have created : card'.createdAt = card.createdAt := by
          rw [← Card.createdAt_redacted, pair, Card.createdAt_redacted]
        have blocked' : card'.isBlocked = true := (Card.isBlocked_eq pair).trans blocked
        have tells := told card.id
        rw [told_search_of_mem asked member blocked, ← sameId,
          told_search_of_mem asked member' blocked'] at tells
        split at tells
        · rename_i finds'
          split at tells
          · rename_i finds
            obtain ⟨title, description⟩ := Telling.card.inj (Option.some.inj tells)
            rw [if_pos finds', if_pos finds, foundJson, foundJson, sameId, title, description, created]
          · cases tells
        · rename_i missed'
          split at tells
          · cases tells
          · rename_i missed
            rw [if_neg missed', if_neg missed]

theorem results_reply_eq {results results' : List Value} :
    Reply.ofJson (.object [("results", .arr results')]) =
        Reply.ofJson (.object [("results", .arr results)]) ↔ results' = results := by
  simp [Reply.ofJson, Value.object]

/-- Where there are cards, a query is too long on both sites or on neither. -/
theorem findCards_agrees (same : SameButBlocked d d') (query : String) :
    Action.Agrees (Sites d d') (Sites d d')
      (fun cards cards' => cards = found query d.cards.rows ∧ cards' = found query d'.cards.rows)
      (findCards query) (findCards query) := by
  have empty : d'.cards.rows.isEmpty = d.cards.rows.isEmpty := by
    rw [← List.isEmpty_map (f := Card.redacted), same.cards, List.isEmpty_map]
  refine (rows_agree _ fun _ _ => rfl).bind ?_
  rintro _ _ ⟨rfl, rfl⟩
  rw [empty]
  split
  · exact fun _ _ start => ⟨.fault rfl, start⟩
  · exact .pure ⟨rfl, rfl⟩

theorem searchCards_agrees (same : SameButBlocked d d') :
    AgreesIff d d' (SameTold r d d' .search) (searchCards r) (searchCards r) := by
  unfold searchCards
  dsimp only
  rw [← searched]
  cases asked : (searched r).isEmpty with
  | true =>
      rw [if_pos rfl]
      refine .bind_eq (.pure rfl) fun _ => .pure (iff_of_true rfl fun number => ?_)
      simp [told, asked]
  | false =>
      rw [if_neg Bool.false_ne_true]
      refine (findCards_agrees same _).bind ?_
      rintro _ _ ⟨rfl, rfl⟩
      exact .pure (results_reply_eq.trans (results_eq_iff same asked))

/-! ## The state of a grid -/

/-- The state of a grid tells of no card but its own. -/
theorem sameTold_cardState_iff :
    SameTold r d d' (.cardState id) ↔ told r d' (.cardState id) id = told r d (.cardState id) id := by
  refine ⟨fun same => same id, fun here number => ?_⟩
  by_cases named : number = id
  · rw [named]
    exact here
  · simp [told, named]

/-- The state of a grid tells of a blocked card and its walls. -/
theorem told_cardState_of_blocked {card : Card} (small : inRange id = true)
    (found : d.cards.find? id = some card) (blocked : card.isBlocked = true) :
    told r d (.cardState id) id = some (.grid card.cols card.rows ((d.wallsOf id).map wallPlace)) := by
  simp [told, small, found, Option.filter_some, blocked]

/-- A wall's number, place and size as an answer writes them. -/
def placeJson : Nat × Int × Int × Int × Int → Value :=
  fun (id, x, y, width, height) =>
    .object [("id", .nat id), ("x", .int x), ("y", .int y), ("width", .int width),
      ("height", .int height)]

theorem placeJson_injective : Function.Injective placeJson := by
  rintro ⟨id, x, y, width, height⟩ ⟨id', x', y', width', height'⟩ same
  simpa only [placeJson, Value.object, Value.nat, List.map_cons, List.map_nil, Value.obj.injEq,
    List.cons.injEq, Prod.mk.injEq, Value.int.injEq, Int.natCast_inj, true_and, and_true] using same

theorem map_wallJson (walls : List Wall) :
    walls.map wallJson = (walls.map wallPlace).map placeJson := by
  rw [List.map_map]
  rfl

theorem state_reply_eq_iff {card card' : Card} {walls walls' : List Wall} :
    Reply.ofJson (.object [("cols", .int card'.cols), ("rows", .int card'.rows),
        ("walls", .arr (walls'.map wallJson))]) =
      Reply.ofJson (.object [("cols", .int card.cols), ("rows", .int card.rows),
        ("walls", .arr (walls.map wallJson))]) ↔
      Telling.grid card'.cols card'.rows (walls'.map wallPlace) =
        Telling.grid card.cols card.rows (walls.map wallPlace) := by
  have written : walls'.map wallJson = walls.map wallJson ↔
      walls'.map wallPlace = walls.map wallPlace := by
    rw [map_wallJson, map_wallJson]
    exact List.map_inj_right fun _ _ same => placeJson_injective same
  rw [Telling.grid.injEq, ← written]
  simp [Reply.ofJson, Value.object]

theorem cardState_agrees (same : SameButBlocked d d') :
    AgreesIff d d' (SameTold r d d' (.cardState id)) (cardState id) (cardState id) := by
  rw [sameTold_cardState_iff]
  refine (lookup_card_agrees id).bind ?_
  rintro _ _ ⟨rfl, rfl⟩
  cases small : inRange id with
  | false =>
      refine .pure (iff_of_true rfl ?_)
      simp [told, small]
  | true =>
      rw [if_pos rfl, if_pos rfl]
      cases same.cardsAt id with
      | absent found found' =>
          rw [found, found']
          refine .pure (iff_of_true rfl ?_)
          simp [told, found, found']
      | shown card opened found found' =>
          have hidden : d.hides id = false := by simp [hides, found, opened]
          rw [found, found']
          refine (rows_agree _ fun _ _ => rfl).bind ?_
          rintro _ _ ⟨rfl, rfl⟩
          refine .pure (iff_of_true ?_ ?_)
          · have walls : d'.walls.rows.filter (fun wall => wall.cardId == id) =
              d.walls.rows.filter (fun wall => wall.cardId == id) := same.wallsOf_eq hidden
            rw [walls]
          · simp [told, found, found', Option.filter_some, opened]
      | hidden card card' blocked blocked' found found' =>
          rw [found, found']
          refine (rows_agree _ fun _ _ => rfl).bind ?_
          rintro _ _ ⟨rfl, rfl⟩
          refine .pure ?_
          rw [told_cardState_of_blocked small found blocked,
            told_cardState_of_blocked small found' blocked', Option.some_inj]
          exact state_reply_eq_iff

/-! ## The list of cards -/

/-- Of a blocked card the list shows others than the staff no more than its number. -/
theorem index_eq (same : SameButBlocked d d') :
    Page.index d'.cards.rows false = Page.index d.cards.rows false := by
  have numbered : ∀ cards : List Card, cards.map Card.id = (cards.map Card.redacted).map Card.id := by
    intro cards
    rw [List.map_map]
    exact List.map_congr_left fun card _ => card.id_redacted.symm
  have ids : d'.cards.rows.map Card.id = d.cards.rows.map Card.id := by
    rw [numbered, same.cards, ← numbered]
  have empty : d'.cards.rows.isEmpty = d.cards.rows.isEmpty := by
    rw [← List.isEmpty_map, same.cards, List.isEmpty_map]
  have shown : d'.cards.rows.filter (fun card => !card.isBlocked || false) =
      d.cards.rows.filter fun card => !card.isBlocked || false := by
    rw [← List.filterMap_eq_filter]
    refine filterMap_eq_of_map_eq same.cards fun card _ card' _ pair => ?_
    cases blocked : card.isBlocked with
    | false => rw [Card.eq_of_redacted pair blocked]
    | true => simp [Option.guard, (Card.isBlocked_eq pair).trans blocked, blocked]
  simp only [Page.index, ids, shown, empty]

theorem user_agrees (same : SameButBlocked d d') :
    Action.Agrees (Sites d d') (Sites d d') Eq r.user r.user := by
  refine currentUser_agrees ?_ r.visitor
  rintro _ _ ⟨cells, rfl, rfl⟩
  exact same.users

/-- The states are of the two sites, and the visitor is not served as staff. -/
def PlainSites (r : Request) (d d' : Database) (w w' : World) : Prop :=
  Sites d d' w w' ∧ ∀ user, servedAs r.visitor w = some user → user.isStaff = false

theorem showIndex_agrees (same : SameButBlocked d d') :
    Action.Agrees (Sites d d') (PlainSites r d d')
      (fun reply reply' => reply' = reply ↔ SameTold r d d' .index) (showIndex r) (showIndex r) := by
  have asked : Action.Agrees (Sites d d') (PlainSites r d d')
      (fun user user' => user = user' ∧ (user.map User.isStaff).getD false = false)
      r.user r.user := by
    refine (user_agrees same).knowing (fun _ _ start => start.1) ?_
    rintro w w' ⟨-, plain⟩ user ends
    have served : user = servedAs r.visitor w := currentUser_eq r.visitor w ends
    cases user with
    | none => rfl
    | some user => exact plain user served.symm
  refine asked.bind ?_
  rintro user _ ⟨rfl, plain⟩
  refine (rows_agree _ fun _ _ => rfl).bind ?_
  rintro _ _ ⟨rfl, rfl⟩
  refine .pure (iff_of_true ?_ fun _ => rfl)
  rw [plain, index_eq same]

end GridCommons.Web
