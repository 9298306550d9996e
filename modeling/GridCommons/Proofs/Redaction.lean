import GridCommons.Proofs.Change

/-!
Contract: databases that differ in blocked content only.

Owns:
- a card or comment without what it shows, if it is blocked;
- `Database.SameButBlocked`: two databases with the same rows up to the titles,
  descriptions, sizes and walls of blocked cards and the texts of blocked comments;
- what such databases have in common: their open cards, which cards are blocked, and
  which rows exist.
-/

namespace GridCommons.Site

/-- Lists that are the same under a function yield the same values, where elements that are
the same under it do. -/
theorem filterMap_eq_of_map_eq {α β γ : Type} {f : α → β} {g : α → Option γ}
    {left right : List α} (same : right.map f = left.map f)
    (each : ∀ a ∈ left, ∀ b ∈ right, f b = f a → g b = g a) :
    right.filterMap g = left.filterMap g := by
  induction left generalizing right with
  | nil =>
      rw [List.map_eq_nil_iff.mp same]
  | cons a rest inductionHypothesis =>
      obtain ⟨b, others, rfl, head, tail⟩ := List.map_eq_cons_iff.mp same
      have first : g b = g a := each a List.mem_cons_self b List.mem_cons_self head
      have later := inductionHypothesis tail fun x inRest y inOthers =>
        each x (List.mem_cons_of_mem _ inRest) y (List.mem_cons_of_mem _ inOthers)
      rw [List.filterMap_cons, List.filterMap_cons, first, later]

/-- A card without title, description and size, if it is blocked. -/
def Card.redacted (card : Card) : Card :=
  if card.isBlocked then { card with title := "", description := "", cols := 0, rows := 0 } else card

/-- A comment without its text, if it is blocked. -/
def Comment.redacted (comment : Comment) : Comment :=
  if comment.isBlocked then { comment with text := "" } else comment

namespace Card

@[simp] theorem id_redacted (card : Card) : card.redacted.id = card.id := by
  unfold redacted
  split <;> rfl

@[simp] theorem isBlocked_redacted (card : Card) : card.redacted.isBlocked = card.isBlocked := by
  unfold redacted
  split <;> rfl

@[simp] theorem createdAt_redacted (card : Card) : card.redacted.createdAt = card.createdAt := by
  unfold redacted
  split <;> rfl

theorem isBlocked_eq {card card' : Card} (same : card'.redacted = card.redacted) :
    card'.isBlocked = card.isBlocked := by
  rw [← isBlocked_redacted, same, isBlocked_redacted]

theorem redacted_of_open {card : Card} (shown : card.isBlocked = false) : card.redacted = card := by
  simp [redacted, shown]

/-- An open card is the same if it is the same redacted. -/
theorem eq_of_redacted {card card' : Card} (same : card'.redacted = card.redacted)
    (shown : card.isBlocked = false) : card' = card := by
  rw [← redacted_of_open shown, ← same, redacted_of_open ((isBlocked_eq same).trans shown)]

end Card

namespace Comment

@[simp] theorem cardId_redacted (comment : Comment) : comment.redacted.cardId = comment.cardId := by
  unfold redacted
  split <;> rfl

@[simp] theorem createdAt_redacted (comment : Comment) :
    comment.redacted.createdAt = comment.createdAt := by
  unfold redacted
  split <;> rfl

@[simp] theorem isBlocked_redacted (comment : Comment) :
    comment.redacted.isBlocked = comment.isBlocked := by
  unfold redacted
  split <;> rfl

theorem isBlocked_eq {comment comment' : Comment} (same : comment'.redacted = comment.redacted) :
    comment'.isBlocked = comment.isBlocked := by
  rw [← isBlocked_redacted, same, isBlocked_redacted]

/-- An open comment is the same if it is the same redacted. -/
theorem eq_of_redacted {comment comment' : Comment} (same : comment'.redacted = comment.redacted)
    (shown : comment.isBlocked = false) : comment' = comment := by
  have shown' : comment'.isBlocked = false := (isBlocked_eq same).trans shown
  simpa [redacted, shown, shown'] using same

/-- Comments that are the same redacted differ in their texts only. -/
theorem eq_with_text {comment comment' : Comment} (same : comment'.redacted = comment.redacted) :
    comment' = { comment with text := comment'.text } := by
  cases blocked : comment.isBlocked with
  | false => rw [eq_of_redacted same blocked, ← blocked]
  | true =>
      have blocked' : comment'.isBlocked = true := (isBlocked_eq same).trans blocked
      rw [redacted, redacted, if_pos blocked', if_pos blocked] at same
      obtain ⟨⟩ := comment
      obtain ⟨⟩ := comment'
      simp_all

end Comment

namespace Database

variable {d d' : Database}

/-- The card with a number is there, and blocked. -/
def hides (d : Database) (id : Nat) : Bool :=
  (d.cards.find? id).any Card.isBlocked

theorem hides_of_mem {card : Card} (member : card ∈ d.cards.rows) :
    d.hides card.id = card.isBlocked := by
  have found : d.cards.find? card.id = some card := Table.find?_eq_some_iff.mpr ⟨member, rfl⟩
  rw [hides, found, Option.any_some]

/-- The walls of cards that are not blocked. -/
def openWalls (d : Database) : List Wall :=
  d.walls.rows.filter fun wall => !d.hides wall.cardId

/-- The walls of a card. -/
def wallsOf (d : Database) (id : Nat) : List Wall :=
  d.walls.rows.filter fun wall => wall.cardId == id

/-- Two databases differ only in titles, descriptions, sizes and walls of blocked cards, and
in texts of blocked comments. -/
structure SameButBlocked (d d' : Database) : Prop where
  cards : d'.cards.rows.map Card.redacted = d.cards.rows.map Card.redacted
  walls : d'.openWalls = d.openWalls
  comments : d'.comments.rows.map Comment.redacted = d.comments.rows.map Comment.redacted
  rest : d' = { d with cards := d'.cards, walls := d'.walls, comments := d'.comments }

namespace SameButBlocked

theorem users (same : SameButBlocked d d') : d'.users = d.users := by
  have rest := congrArg Database.users same.rest
  exact rest

theorem cells (same : SameButBlocked d d') : d'.cells = d.cells := by
  have rest := congrArg Database.cells same.rest
  exact rest

theorem symm (same : SameButBlocked d d') : SameButBlocked d' d where
  cards := same.cards.symm
  walls := same.walls.symm
  comments := same.comments.symm
  rest := by rw [same.rest]

/-- At a number stands no card, one open card, or two cards that are blocked. -/
inductive CardsAt (d d' : Database) (id : Nat) : Prop where
  | absent : d.cards.find? id = none → d'.cards.find? id = none → CardsAt d d' id
  | shown (card : Card) : card.isBlocked = false → d.cards.find? id = some card →
      d'.cards.find? id = some card → CardsAt d d' id
  | hidden (card card' : Card) : card.isBlocked = true → card'.isBlocked = true →
      d.cards.find? id = some card → d'.cards.find? id = some card' → CardsAt d d' id

/-- Two states that differ in what is blocked have the same numbers, and the same open cards. -/
theorem cardsAt (same : SameButBlocked d d') (id : Nat) : CardsAt d d' id := by
  have redacted : (d'.cards.find? id).map Card.redacted = (d.cards.find? id).map Card.redacted := by
    rw [← Table.find?_rows_map d'.cards Card.redacted Card.id_redacted, same.cards,
      Table.find?_rows_map d.cards Card.redacted Card.id_redacted]
  cases found : d.cards.find? id with
  | none =>
      rw [found, Option.map_none, Option.map_eq_none_iff] at redacted
      exact .absent found redacted
  | some card =>
      rw [found, Option.map_some, Option.map_eq_some_iff] at redacted
      obtain ⟨card', found', pair⟩ := redacted
      cases blocked : card.isBlocked with
      | false =>
          rw [Card.eq_of_redacted pair blocked] at found'
          exact .shown card blocked found found'
      | true => exact .hidden card card' blocked ((Card.isBlocked_eq pair).trans blocked) found found'

theorem hides_eq (same : SameButBlocked d d') (id : Nat) : d'.hides id = d.hides id := by
  unfold hides
  cases same.cardsAt id with
  | absent found found' => rw [found, found']
  | shown card _ found found' => rw [found, found']
  | hidden card card' blocked blocked' found found' =>
      rw [found, found', Option.any_some, Option.any_some, blocked, blocked']

theorem has_card (same : SameButBlocked d d') (id : Nat) :
    d'.has ⟨.card, id⟩ = d.has ⟨.card, id⟩ := by
  have stands : ∀ d : Database, d.has ⟨.card, id⟩ = (d.cards.find? id).isSome :=
    fun d => Slot.card.has_eq d id
  rw [stands, stands]
  cases same.cardsAt id with
  | absent found found' => rw [found, found']
  | shown card _ found found' => rw [found, found']
  | hidden card card' _ _ found found' => rw [found, found', Option.isSome_some, Option.isSome_some]

/-- A card that is not blocked has the same walls. -/
theorem wallsOf_eq (same : SameButBlocked d d') {id : Nat} (shown : d.hides id = false) :
    d'.wallsOf id = d.wallsOf id := by
  have among : ∀ {d : Database}, d.hides id = false →
      d.wallsOf id = d.openWalls.filter fun wall => wall.cardId == id := by
    intro d shown
    unfold wallsOf openWalls
    rw [List.filter_filter]
    refine List.filter_congr fun wall _ => ?_
    by_cases here : wall.cardId = id
    · simp [here, shown]
    · simp [here]
  rw [among shown, among ((same.hides_eq id).trans shown), same.walls]

end SameButBlocked

end Database

end GridCommons.Site
