import Mathlib.Data.List.Nodup
import Mathlib.Data.List.ProdSigma
import GridCommons.Proofs.CardPage
import GridCommons.Proofs.Integrity
import GridCommons.Proofs.Walls

/-!
Contract: the squares of cards.

Owns:
- the places of a card's grid, of which filling lists each one once;
- `Database.Tiled`: one square on each place of the grid, and none elsewhere;
- that requests to the site tile a card at once or leave its squares alone;
- that a card whose page was shown is tiled from then on.

Squares come about by reading: the first time that the page of a card is shown.  That
they are never added twice rests on the test whether there are some, and on
references: a new card has a number that no square refers to.
-/

namespace GridCommons.Site

/-! ## Grids -/

/-- The place lies on the grid of the card. -/
def Card.Covers (card : Card) (place : Int × Int) : Prop :=
  (0 ≤ place.1 ∧ place.1 < card.cols) ∧ 0 ≤ place.2 ∧ place.2 < card.rows

instance (card : Card) (place : Int × Int) : Decidable (card.Covers place) :=
  inferInstanceAs (Decidable (_ ∧ _))

namespace Cells

variable {card : Card}

/-- A place as squares store it. -/
def stored (place : Nat × Nat) : Int × Int :=
  (place.1, place.2)

/-- The places at which a card is filled. -/
def grid (card : Card) : List (Int × Int) :=
  (places card.cols card.rows).map stored

theorem places_eq_product (cols rows : Int) :
    places cols rows = List.range cols.toNat ×ˢ List.range rows.toNat :=
  rfl

theorem length_grid (card : Card) : (grid card).length = card.cols.toNat * card.rows.toNat := by
  rw [grid, List.length_map, places_eq_product, List.length_product, List.length_range,
    List.length_range]

theorem mem_grid_iff {place : Int × Int} : place ∈ grid card ↔ card.Covers place := by
  unfold grid Card.Covers stored
  simp only [places_eq_product, List.mem_map, Prod.exists, List.mem_product, List.mem_range]
  constructor
  · rintro ⟨x, y, onGrid, rfl⟩
    dsimp only
    omega
  · intro covers
    have left : (place.1.toNat : Int) = place.1 := by omega
    have right : (place.2.toNat : Int) = place.2 := by omega
    refine ⟨place.1.toNat, place.2.toNat, by omega, ?_⟩
    rw [left, right]

theorem stored_injective : Function.Injective stored := by
  intro place other same
  simp only [stored, Prod.mk.injEq, Int.natCast_inj] at same
  exact Prod.ext same.1 same.2

theorem nodup_places (cols rows : Int) : (places cols rows).Nodup :=
  List.nodup_range.product List.nodup_range

theorem nodup_grid (card : Card) : (grid card).Nodup :=
  (nodup_places card.cols card.rows).map stored_injective

theorem count_grid (card : Card) (place : Int × Int) :
    (grid card).count place = if card.Covers place then 1 else 0 := by
  by_cases covers : card.Covers place
  · rw [if_pos covers, List.count_eq_one_of_mem (nodup_grid card) (mem_grid_iff.mpr covers)]
  · rw [if_neg covers, List.count_eq_zero_of_not_mem (mt mem_grid_iff.mp covers)]

end Cells

namespace Database

variable {d d' d'' : Database} {card later : Card}

/-- The places of a card's squares. -/
def squares (d : Database) (cardId : Nat) : List (Int × Int) :=
  (d.cells.rows.filter fun cell => cell.cardId == cardId).map fun cell => (cell.x, cell.y)

/-- Each place of the card's grid has one square, and no other place has one. -/
def Tiled (d : Database) (card : Card) : Prop :=
  ∀ place, (d.squares card.id).count place = if card.Covers place then 1 else 0

/-- Every card has no squares or is tiled. -/
def GridsWhole (d : Database) : Prop :=
  ∀ card ∈ d.cards.rows, d.squares card.id = [] ∨ d.Tiled card

theorem squares_eq_nil_iff {cardId : Nat} :
    d.squares cardId = [] ↔ (d.cells.rows.any fun cell => cell.cardId == cardId) = false := by
  simp [squares]

/-- A card is tiled exactly if its squares are the places of its grid, in some order. -/
theorem tiled_iff_perm : d.Tiled card ↔ (d.squares card.id).Perm (Cells.grid card) := by
  rw [List.perm_iff_count]
  unfold Tiled
  simp only [Cells.count_grid]

theorem Tiled.length_squares (tiled : d.Tiled card) :
    (d.squares card.id).length = card.cols.toNat * card.rows.toNat := by
  rw [(tiled_iff_perm.mp tiled).length_eq, Cells.length_grid]

theorem Tiled.of_sameGrid (tiled : d.Tiled card) (number : later.id = card.id)
    (same : card.SameGrid later) (squares : d'.squares card.id = d.squares card.id) :
    d'.Tiled later := by
  intro place
  have covers : later.Covers place ↔ card.Covers place := by
    unfold Card.Covers
    rw [same.1, same.2]
  rw [number, squares, tiled place]
  simp only [covers]

/-! ## Filling -/

theorem squares_put_cell {cell : Cell} (new : cell.id = d.cells.next) (cardId : Nat) :
    (d.put (.cell cell)).squares cardId =
      d.squares cardId ++ if cell.cardId = cardId then [(cell.x, cell.y)] else [] := by
  have appended : (d.put (.cell cell)).cells.rows = d.cells.rows ++ [cell] := Table.rows_put_new new
  unfold squares
  rw [appended, List.filter_append, List.map_append]
  by_cases own : cell.cardId = cardId
  · simp [own]
  · simp [own]

/-- Filling adds a square at each of the places to the card, and none to other cards. -/
theorem squares_addAll {cardId : Nat} {places : List (Nat × Nat)}
    (added : Cells.addAll cardId places d = .ok d') (other : Nat) :
    d'.squares other = d.squares other ++
      if cardId = other then places.map Cells.stored else [] := by
  induction places generalizing d with
  | nil =>
      cases added
      simp
  | cons place rest inductionHypothesis =>
      rw [addAll_cons] at added
      cases stores : d.store (.cell { id := d.next .cell, cardId, x := place.1, y := place.2 }) with
      | error =>
          rw [stores] at added
          cases added
      | ok between =>
          rw [stores] at added
          obtain ⟨-, rfl⟩ := store_eq_ok_iff.mp stores
          rw [inductionHypothesis added, squares_put_cell rfl]
          split <;> simp [Cells.stored]

theorem squares_addAll_of_ne {cardId other : Nat} {places : List (Nat × Nat)}
    (added : Cells.addAll cardId places d = .ok d') (differs : cardId ≠ other) :
    d'.squares other = d.squares other := by
  rw [squares_addAll added, if_neg differs, List.append_nil]

/-- A card without squares that gets them all is tiled. -/
theorem tiled_of_addAll (bare : d.squares card.id = [])
    (added : Cells.addAll card.id (Cells.places card.cols card.rows) d = .ok d') : d'.Tiled card := by
  apply tiled_iff_perm.mpr
  rw [squares_addAll added, bare, if_pos rfl]
  exact .refl _

/-- A card that is tiled without squares has no places to fill. -/
theorem Tiled.places_eq_nil (tiled : d.Tiled card) (bare : d.squares card.id = []) :
    Cells.places card.cols card.rows = [] := by
  have perm := tiled_iff_perm.mp tiled
  rw [bare] at perm
  exact List.map_eq_nil_iff.mp perm.nil_eq.symm

theorem GridsWhole.of_addAll (whole : d.GridsWhole) (found : d.cards.find? card.id = some card)
    (bare : d.squares card.id = [])
    (added : Cells.addAll card.id (Cells.places card.cols card.rows) d = .ok d') : d'.GridsWhole := by
  have cards : d'.cards = d.cards := by rw [eq_of_addAll added]
  intro other member
  rw [cards] at member
  by_cases same : card.id = other.id
  · have here : d.cards.find? card.id = some other :=
      Table.find?_eq_some_iff.mpr ⟨member, same.symm⟩
    cases found.symm.trans here
    exact .inr (tiled_of_addAll bare added)
  · have squares := squares_addAll_of_ne added same
    rcases whole other member with none | tiled
    · exact .inl (squares.trans none)
    · exact .inr (tiled.of_sameGrid rfl ⟨rfl, rfl⟩ squares)

/-! ## Changes that leave squares alone -/

/-- The squares are the same, and the cards that were there keep their grids. -/
structure SquaresKept (d d' : Database) : Prop where
  squares : ∀ cardId, d'.squares cardId = d.squares cardId
  cards : d.cards.Persists (fun _ card later => card.SameGrid later) d'.cards

namespace SquaresKept

theorem of_eq (cells : d'.cells = d.cells) (cards : d'.cards = d.cards) : SquaresKept d d' where
  squares cardId := by
    unfold Database.squares
    rw [cells]
  cards := by
    rw [cards]
    exact .of_eq (fun _ => rfl) fun _ _ => ⟨rfl, rfl⟩

theorem put_card (known : ∀ old, d.cards.find? card.id = some old → old.SameGrid card) :
    SquaresKept d (d.put (.card card)) :=
  ⟨fun _ => rfl, (WallsStay.put_card known).cards⟩

theorem put_known {old : Card} (found : d.cards.find? card.id = some old) (same : old.SameGrid card) :
    SquaresKept d (d.put (.card card)) :=
  ⟨fun _ => rfl, (WallsStay.put_known found same).cards⟩

theorem put_withMembers {relation : Relation} {id : Nat} {row : Row} {members : Members}
    (found : d.find? ⟨relation.kind, id⟩ = some row) :
    SquaresKept d (d.put (relation.withMembers members row)) := by
  rcases withMembers_cases members found with
    ⟨card, likes, favorites, here, stored⟩ | ⟨comment, _, _, -, stored⟩
  · rw [stored]
    exact put_known here ⟨rfl, rfl⟩
  · rw [stored]
    exact of_eq rfl rfl

theorem blockCardsOf (user : Nat) : SquaresKept d (Moderation.blockCardsOf user d) :=
  ⟨fun _ => rfl, (WallsStay.blockCardsOf user).cards⟩

theorem delete_leaf {root : Ref} (aside : root.kind.moderated = false)
    (notFile : root.kind ≠ .attachment) (notCell : root.kind ≠ .cell) :
    SquaresKept d (d.delete [root]) := by
  have cells : ∀ id, (d.delete [root]).cells.find? id = d.cells.find? id :=
    Slot.cell.find?_delete_leaf_of_ne aside notFile notCell.symm
  have notCard : root.kind ≠ .card := by
    intro same
    rw [same] at aside
    cases aside
  have cards : ∀ id, (d.delete [root]).cards.find? id = d.cards.find? id :=
    Slot.card.find?_delete_leaf_of_ne aside notFile notCard.symm
  constructor
  · intro cardId
    unfold Database.squares
    rw [Table.rows_eq_of_find?_eq cells]
  · exact .of_eq cards fun _ _ => ⟨rfl, rfl⟩

end SquaresKept

/-- No square refers to a card that is not there. -/
theorem squares_eq_nil (sound : d.Referential) {id : Nat} (absent : d.cards.find? id = none) :
    d.squares id = [] := by
  apply List.map_eq_nil_iff.mpr
  apply List.filter_eq_nil_iff.mpr
  intro cell member refers
  have held := (linksHold_iff.mp (sound _ (Slot.cell.mem_allRows.mpr member))).1
  have present : d.has ⟨.card, cell.cardId⟩ = true := held ⟨⟨.card, cell.cardId⟩, .cascade⟩ (.head _)
  have same : cell.cardId = id := by simpa using refers
  obtain ⟨row, found⟩ := has_iff.mp present
  obtain ⟨card, foundCard, -⟩ := Slot.card.find?_eq_some found
  rw [same] at foundCard
  cases absent.symm.trans foundCard

/-- Grids stay whole while squares and sizes are kept. -/
theorem GridsWhole.of_squaresKept (sound : d.Referential) (whole : d.GridsWhole)
    (kept : SquaresKept d d') : d'.GridsWhole := by
  intro later member
  have present : d'.cards.find? later.id = some later := Table.find?_eq_some_iff.mpr ⟨member, rfl⟩
  cases before : d.cards.find? later.id with
  | none => exact .inl ((kept.squares later.id).trans (squares_eq_nil sound before))
  | some card =>
      obtain ⟨found, number⟩ := Table.find?_eq_some_iff.mp before
      have number : later.id = card.id := number.symm
      obtain ⟨other, foundOther, same⟩ := kept.cards later.id card before
      cases present.symm.trans foundOther
      have squares := kept.squares card.id
      rcases whole card found with none | tiled
      · exact .inl (by rw [number, squares, none])
      · exact .inr (tiled.of_sameGrid number same squares)

/-- The card with a number is there, and tiled. -/
def TiledAt (d : Database) (id : Nat) : Prop :=
  ∃ card, d.cards.find? id = some card ∧ d.Tiled card

theorem TiledAt.of_squaresKept {id : Nat} (tiled : d.TiledAt id) (kept : SquaresKept d d') :
    d'.TiledAt id := by
  obtain ⟨card, found, tiledCard⟩ := tiled
  obtain ⟨later, foundLater, same⟩ := kept.cards id card found
  have number : later.id = card.id :=
    (Table.find?_eq_some_iff.mp foundLater).2.trans (Table.find?_eq_some_iff.mp found).2.symm
  exact ⟨later, foundLater, tiledCard.of_sameGrid number same (kept.squares card.id)⟩

theorem TiledAt.of_addAll {id cardId : Nat} {places : List (Nat × Nat)} (tiled : d.TiledAt id)
    (added : Cells.addAll cardId places d = .ok d') (differs : cardId ≠ id) : d'.TiledAt id := by
  obtain ⟨card, found, tiledCard⟩ := tiled
  obtain ⟨-, rfl⟩ := Table.find?_eq_some_iff.mp found
  have cards : d'.cards = d.cards := by rw [eq_of_addAll added]
  refine ⟨card, by rwa [cards], ?_⟩
  exact tiledCard.of_sameGrid rfl ⟨rfl, rfl⟩ (squares_addAll_of_ne added differs)

/-- References hold, and every card has no squares or is tiled. -/
structure Gridded (d : Database) : Prop where
  sound : d.Referential
  whole : d.GridsWhole

end Database

end GridCommons.Site

namespace GridCommons.Web

open Site

variable {r : Request} {actor : Option User} {address : Address} {d d' : Database}

/-- A deed outside the administration keeps all squares, or is the one that fills a card. -/
theorem Deed.squaresKept_or_filled (deed : Deed r actor address d d')
    (site : ∀ page, address ≠ .admin page) :
    d.SquaresKept d' ∨ ∃ card, address = .card card.id ∧ d.cards.find? card.id = some card ∧
      d.squares card.id = [] ∧
      Cells.addAll card.id (Cells.places card.cols card.rows) d = .ok d' := by
  cases deed with
  | cellsFilled card found _ absent added =>
      obtain ⟨-, rfl⟩ := Table.find?_eq_some_iff.mp found
      exact .inr ⟨card, rfl, found, Database.squares_eq_nil_iff.mpr absent, added⟩
  | registered _ _ _ _ stored | passwordStored _ _ _ stored | profileChanged _ _ stored
  | commented _ _ stored | reported _ _ _ stored | noteAdded _ _ _ _ stored | fileStored _ _ stored
  | wallAdded _ _ _ _ _ stored | reportResolved _ _ _ _ _ stored | flagStored _ _ _ stored
  | passwordChanged _ _ _ _ _ stored =>
      obtain ⟨-, rfl⟩ := Database.store_eq_ok_iff.mp stored
      exact .inl (.of_eq rfl rfl)
  | loginNoted | commentBlocked | userBanned | commentsOfBanned => exact .inl (.of_eq rfl rfl)
  | joined _ _ found stored | left _ _ _ found stored =>
      obtain ⟨-, rfl⟩ := Database.store_eq_ok_iff.mp stored
      exact .inl (.put_withMembers found)
  | cardMade v fileId now stored =>
      obtain ⟨-, rfl⟩ := Database.store_eq_ok_iff.mp stored
      refine .inl (.put_card fun old found => ?_)
      cases (Table.find?_next d.cards).symm.trans found
  | cardBlocked card now _ found stored =>
      obtain ⟨-, rfl⟩ := Database.store_eq_ok_iff.mp stored
      exact .inl (.put_known found ⟨rfl, rfl⟩)
  | cardUnblocked card _ found | cardUnblockedByStaff card _ found =>
      obtain ⟨-, rfl⟩ := Table.find?_eq_some_iff.mp found
      exact .inl (.put_known found ⟨rfl, rfl⟩)
  | cardsOfBanned => exact .inl (.blockCardsOf _)
  | wallRemoved | noteRemoved => exact .inl (.delete_leaf rfl nofun nofun)
  | statusChanged | listEdited | listSettled | cardEntered | reportEntered | adminDeleted =>
      exact absurd rfl (site _)

/-- No deed outside the administration breaks a grid. -/
theorem Deed.gridded (deed : Deed r actor address d d') (site : ∀ page, address ≠ .admin page)
    (gridded : d.Gridded) : d'.Gridded := by
  obtain ⟨sound, whole⟩ := gridded
  refine ⟨Database.referential_of_evolves deed.evolves sound, ?_⟩
  rcases deed.squaresKept_or_filled site with kept | ⟨card, -, found, bare, added⟩
  · exact whole.of_squaresKept sound kept
  · exact whole.of_addAll found bare added

/-- A card that is tiled is not filled again. -/
theorem Deed.eq_of_tiledAt {id : Nat} (deed : Deed r actor (.card id) d d') (tiled : d.TiledAt id) :
    d' = d := by
  cases deed with
  | cellsFilled card found _ absent added =>
      obtain ⟨other, foundOther, tiledOther⟩ := tiled
      cases found.symm.trans foundOther
      obtain ⟨-, rfl⟩ := Table.find?_eq_some_iff.mp found
      rw [tiledOther.places_eq_nil (Database.squares_eq_nil_iff.mpr absent)] at added
      cases added
      rfl
  | loginNoted _ _ signsIn => cases signsIn
  | passwordChanged _ _ changes => cases changes
  | joined _ related | left _ related => cases related

theorem Deed.tiledAt {id : Nat} (deed : Deed r actor address d d')
    (site : ∀ page, address ≠ .admin page) (tiled : d.TiledAt id) : d'.TiledAt id := by
  rcases deed.squaresKept_or_filled site with kept | ⟨card, here, found, bare, added⟩
  · exact tiled.of_squaresKept kept
  · by_cases same : card.id = id
    · rw [here, same] at deed
      rw [deed.eq_of_tiledAt tiled]
      exact tiled
    · exact tiled.of_addAll added same

/-! ## Showing a card -/

section Showing

variable {w : World} {id : Nat} {card : Card}

theorem showFilled_silent (r : Request) (id : Nat) (card : Card) : (showFilled r id card).Silent :=
  (user_silent r).bind fun _ => (commentsOn_silent id).bind fun _ => .pure

/-- Faults that no reply is made of. -/
def Unanswerable : Fault → Prop
  | .offline | .readOnly | .violation _ => True
  | _ => False

theorem settled_of_fault {action : Action Reply} {fault : Fault} {reached : World}
    (ends : action.run w = (.error fault, reached)) (unanswerable : Unanswerable fault) :
    ((settled r action).run w).1.isOk = false := by
  rw [settled, Action.run_bind, Action.run_attempt, ends]
  cases fault <;> first | rfl | cases unanswerable

theorem run_openCard_of_shown (online : w.mode ≠ .offline) (small : inRange id = true)
    (found : w.database.cards.find? id = some card) (shown : card.isBlocked = false) :
    (openCard id).run w = (.ok card, w) := by
  rw [run_openCard, if_neg fun both => online both.2, if_pos small, found]
  simp [shown]

/-- A card without squares is filled before it is shown. -/
theorem run_showCard_of_bare (online : w.mode ≠ .offline) (small : inRange id = true)
    (found : w.database.cards.find? id = some card) (shown : card.isBlocked = false)
    (bare : w.database.squares id = []) (wanted : Cells.places card.cols card.rows ≠ []) :
    (showCard r id).run w =
      match (Action.commit (Cells.addAll card.id (Cells.places card.cols card.rows))).run w with
      | (.ok _, reached) => (showFilled r id card).run reached
      | (.error fault, reached) => (.error fault, reached) := by
  have present : (Cells.present id).run w = (.ok false, w) := by
    rw [Cells.present, Action.run_bind, Action.run_rows online, ← Database.squares_eq_nil_iff.mp bare]
    rfl
  have fills : Cells.fill card =
      Action.commit (Cells.addAll card.id (Cells.places card.cols card.rows)) := by
    simp [Cells.fill, wanted]
  rw [showCard, Action.run_bind, run_openCard_of_shown online small found shown]
  dsimp only
  rw [Action.run_bind, present, fills]
  have missing : (!false) = true := rfl
  dsimp only
  rw [if_pos missing, Action.run_bind]
  rcases (Action.commit _).run w with ⟨fault | done, reached⟩ <;> rfl

theorem serveAddress_card (got : r.method = "GET") : serveAddress r (.card id) = showCard r id := by
  simp [serveAddress, got, Methods.reading, Methods.dispatch]

/-- Where a request for a card is answered, showing the card ended with no such fault. -/
theorem answerable_of_answered {fault : Fault} {reached : World} (got : r.method = "GET")
    (there : addressOf r.path = some (.card id)) (answered : ((serve r).run w).1.isOk = true)
    (ends : (showCard r id).run w = (.error fault, reached)) : ¬Unanswerable fault := by
  intro unanswerable
  rw [serve, there] at answered
  dsimp only at answered
  rw [serveAddress_card got, settled_of_fault ends unanswerable] at answered
  cases answered

/-- A card without squares is tiled once a request for its page was answered. -/
theorem tiled_of_answered (got : r.method = "GET") (there : addressOf r.path = some (.card id))
    (small : inRange id = true) (found : w.database.cards.find? id = some card)
    (shown : card.isBlocked = false) (bare : w.database.squares id = [])
    (wanted : Cells.places card.cols card.rows ≠ [])
    (answered : ((serve r).run w).1.isOk = true) :
    ((serve r).run w).2.database.cards.find? id = some card ∧
      ((serve r).run w).2.database.Tiled card := by
  have faultless : ∀ fault reached, (showCard r id).run w = (.error fault, reached) →
      ¬Unanswerable fault := fun _ _ => answerable_of_answered got there answered
  have online : w.mode ≠ .offline := by
    intro offline
    have refused : (openCard id).run w = (.error .offline, w) := by
      rw [run_openCard, if_pos ⟨small, offline⟩]
    exact faultless .offline w (by rw [showCard, Action.run_bind, refused]) trivial
  have runs := run_showCard_of_bare (r := r) online small found shown bare wanted
  rw [state_serve there, serveAddress_card got]
  rw [Action.run_commit] at runs
  cases mode : w.mode with
  | offline => exact absurd mode online
  | readOnly =>
      simp only [mode] at runs
      exact absurd trivial (faultless _ _ runs)
  | ok =>
      simp only [mode] at runs
      cases added : Cells.addAll card.id (Cells.places card.cols card.rows) w.database with
      | error violation =>
          simp only [added] at runs
          exact absurd trivial (faultless _ _ runs)
      | ok filled =>
          simp only [added] at runs
          rw [runs, (showFilled_silent r id card).unchanged]
          obtain ⟨-, rfl⟩ := Table.find?_eq_some_iff.mp found
          have cards : filled.cards = w.database.cards := by rw [Database.eq_of_addAll added]
          exact ⟨cards ▸ found, Database.tiled_of_addAll bare added⟩

end Showing

end GridCommons.Web

namespace GridCommons

open Site Account Web

namespace Step

variable {step : Step} {r : Request} {w : World} {id : Nat} {card : Card}

/-- The request of the step arrives and is served without a fault. -/
def answered (step : Step) (w : World) : Bool :=
  (step.delivered? (nextSecond w)).any fun arrived => ((serve arrived).run (nextSecond w)).1.isOk

/-- No request to the site breaks a grid. -/
theorem ToSite.gridded (toSite : step.ToSite) (gridded : w.database.Gridded) :
    (step.take w).2.database.Gridded := by
  obtain ⟨r, sent, site⟩ := toSite
  refine take_keeps (fun d d' => d.Gridded → d'.Gridded) (fun _ => id) ?_ sent ?_ gridded
  · intro d d' d'' first second start
    exact second (first start)
  · intro body address there d d' deed
    exact deed.gridded fun page same => site page (there.trans (congrArg some same))

theorem ToSite.tiledAt (toSite : step.ToSite) (tiled : w.database.TiledAt id) :
    (step.take w).2.database.TiledAt id := by
  obtain ⟨r, sent, site⟩ := toSite
  refine take_keeps (fun d d' => d.TiledAt id → d'.TiledAt id) (fun _ same => same) ?_ sent ?_ tiled
  · intro d d' d'' first second start
    exact second (first start)
  · intro body address there d d' deed
    exact deed.tiledAt fun page same => site page (there.trans (congrArg some same))

/-- The step asks for the page of the card with a number. -/
def AsksForCard (step : Step) (id : Nat) : Prop :=
  ∃ r, step.sent? = some r ∧ r.method = "GET" ∧ addressOf r.path = some (.card id)

/-- The step asks for the page of a card that is there and open, and is answered. -/
structure ShowsCard (step : Step) (id : Nat) (card : Card) (w : World) : Prop where
  asks : step.AsksForCard id
  small : inRange id = true
  found : w.database.cards.find? id = some card
  shown : card.isBlocked = false
  answered : step.answered w = true

/-- Asking for a tiled card changes nothing. -/
theorem AsksForCard.unchanged (asks : step.AsksForCard id) (tiled : w.database.TiledAt id) :
    (step.take w).2.database = w.database := by
  obtain ⟨r, sent, -, there⟩ := asks
  refine take_keeps (fun d d' => d.TiledAt id → d' = d) (fun _ _ => rfl) ?_ sent ?_ tiled
  · intro d d' d'' first second start
    have same := first start
    rw [same] at second
    exact second start
  · intro body address here d d' deed
    cases there.symm.trans here
    exact deed.eq_of_tiledAt

/-- Showing a card leaves it tiled. -/
theorem ShowsCard.tiled (shows : step.ShowsCard id card w) (whole : w.database.GridsWhole) :
    (step.take w).2.database.cards.find? id = some card ∧ (step.take w).2.database.Tiled card := by
  obtain ⟨asks, small, found, shown, answered⟩ := shows
  obtain ⟨member, rfl⟩ := Table.find?_eq_some_iff.mp found
  by_cases tiled : w.database.Tiled card
  · rw [asks.unchanged ⟨card, found, tiled⟩]
    exact ⟨found, tiled⟩
  · have bare : w.database.squares card.id = [] := (whole card member).resolve_right tiled
    have wanted : Cells.places card.cols card.rows ≠ [] := by
      intro empty
      apply tiled
      apply Database.tiled_iff_perm.mpr
      rw [bare, Cells.grid, empty]
      exact .refl _
    obtain ⟨r, sent, got, there⟩ := asks
    rw [database_take sent]
    cases delivers : step.delivered? (nextSecond w) with
    | none => simp [Step.answered, delivers] at answered
    | some arrived =>
        obtain ⟨body, rfl⟩ := delivered?_eq_some delivers sent
        have served : ((serve { r with body }).run (nextSecond w)).1.isOk = true := by
          simpa [Step.answered, delivers] using answered
        exact tiled_of_answered got there small found shown bare wanted served

end Step

/-- Grids stay whole along every run of requests to the site. -/
theorem gridded_runSteps {w : World} {steps : List Step} (toSite : ∀ step ∈ steps, step.ToSite)
    (gridded : w.database.Gridded) : (runSteps steps w).2.database.Gridded :=
  holds_runSteps (fun w => w.database.Gridded) (fun _ _ toSite => toSite.gridded) toSite gridded

theorem tiledAt_runSteps {w : World} {steps : List Step} {id : Nat}
    (toSite : ∀ step ∈ steps, step.ToSite) (tiled : w.database.TiledAt id) :
    (runSteps steps w).2.database.TiledAt id :=
  holds_runSteps (fun w => w.database.TiledAt id) (fun _ _ toSite => toSite.tiledAt) toSite tiled

/-- Squares are absent or the exact grid.  Where references hold and every card has no
squares or one on each place of its grid, this is so after every run of requests outside the
administration.  Showing an open card leaves it with the exact grid, and whatever such requests
follow, asking for its page again changes nothing. -/
theorem squares_absent_or_exact {w : World} (sound : w.database.Referential)
    (whole : w.database.GridsWhole) {steps : List Step} (toSite : ∀ step ∈ steps, step.ToSite) :
    (runSteps steps w).2.database.GridsWhole ∧
    ∀ step id card, Step.ShowsCard step id card (runSteps steps w).2 →
      let shown := (step.take (runSteps steps w).2).2
      shown.database.Tiled card ∧
      (shown.database.squares id).length = card.cols.toNat * card.rows.toNat ∧
      ∀ later again, (∀ next ∈ later, Step.ToSite next) → Step.AsksForCard again id →
        (again.take (runSteps later shown).2).2.database = (runSteps later shown).2.database := by
  have gridded := gridded_runSteps toSite ⟨sound, whole⟩
  refine ⟨gridded.whole, ?_⟩
  intro step id card shows shown
  obtain ⟨found, tiled⟩ := shows.tiled gridded.whole
  have number : card.id = id := (Table.find?_eq_some_iff.mp found).2
  refine ⟨tiled, ?_, ?_⟩
  · rw [← number]
    exact tiled.length_squares
  · intro later again toSiteLater asks
    exact asks.unchanged (tiledAt_runSteps toSiteLater ⟨card, found, tiled⟩)

/-! ### A card is shown for the first time -/

/-- A card of three columns and two rows, without squares. -/
def bareCard : Card :=
  { id := 1, userId := 1, title := "", description := "", createdAt := ⟨0⟩, updatedAt := ⟨0⟩,
    cols := 3, rows := 2 }

def bareSite : World :=
  { now := ⟨0⟩
    database :=
      [.user { id := 1, username := "ann", dateJoined := ⟨0⟩, password := .plain "" },
        .card bareCard].foldl Database.put {} }

def strangerAsks : Request :=
  { method := "GET", path := "/cards/1/", visitor := .browser "stranger" }

theorem showsCard_strangerAsks : (Step.request strangerAsks).ShowsCard 1 bareCard bareSite where
  asks := ⟨strangerAsks, rfl, rfl, by decide +kernel⟩
  small := by decide
  found := rfl
  shown := rfl
  answered := by decide +kernel

/-- The card gets six squares. -/
theorem squares_absent_or_exact_bare :
    (((Step.request strangerAsks).take bareSite).2.database.squares 1).length = 6 := by
  have sound : bareSite.database.Referential := by
    unfold Database.Referential
    decide
  have whole : bareSite.database.GridsWhole := fun _ _ => .inl rfl
  obtain ⟨-, exactly⟩ := squares_absent_or_exact sound whole (List.forall_mem_nil _)
  obtain ⟨-, count, -⟩ := exactly _ 1 bareCard showsCard_strangerAsks
  exact count

end GridCommons
