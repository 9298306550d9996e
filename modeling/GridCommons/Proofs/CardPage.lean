import GridCommons.Proofs.Outcome
import GridCommons.Proofs.Telling

/-!
Contract: what the page of a card tells of blocked comments.

Owns:
- that the comments on a page, and the text of each, can be read off it;
- that the page ends alike on two sites exactly if it tells the same of blocked comments;
- that a blocked card has no page.
-/

namespace GridCommons.Web

open Site Account Database

variable {r : Request} {d d' : Database} {w w' : World} {id number : Nat} {telling : Telling}

/-! ## Comments on a page -/

/-- Of two comments that are the same redacted, a page tells the texts apart. -/
theorem shownComment_append_eq_iff {comment comment' : Comment} {author : String}
    {rest rest' : List Page.Item} (pair : comment'.redacted = comment.redacted) :
    Page.shownComment comment' author ++ rest' = Page.shownComment comment author ++ rest ↔
      comment' = comment ∧ rest' = rest := by
  have differ := Comment.eq_with_text pair
  have same : comment' = comment ↔ comment'.text = comment.text :=
    ⟨fun same => same ▸ rfl, fun text => by rw [differ, text]⟩
  rw [same, differ]
  simp [Page.shownComment, Page.say]

/-- Comments that are the same redacted make the same page exactly if they are the same. -/
theorem flatMap_shown_eq_iff (author : Nat → String) {comments comments' : List Comment}
    (pairs : comments'.map Comment.redacted = comments.map Comment.redacted) :
    (comments'.flatMap fun comment => Page.shownComment comment (author comment.authorId)) =
        (comments.flatMap fun comment => Page.shownComment comment (author comment.authorId)) ↔
      comments' = comments := by
  induction comments generalizing comments' with
  | nil =>
      rw [List.map_eq_nil_iff.mp pairs]
      exact iff_of_true rfl rfl
  | cons comment rest inductionHypothesis =>
      obtain ⟨comment', rest', rfl, pair, pairs⟩ := List.map_eq_cons_iff.mp pairs
      have author' : comment'.authorId = comment.authorId := by
        rw [Comment.eq_with_text pair]
      rw [List.flatMap_cons, List.flatMap_cons, author', shownComment_append_eq_iff pair,
        inductionHypothesis pairs, List.cons.injEq]

/-- The comments on a card, as its page lists them. -/
def listed (d : Database) (id : Nat) : List Comment :=
  newestFirst Comment.createdAt (d.comments.rows.filter fun comment => comment.cardId == id)

theorem mem_listed {comment : Comment} :
    comment ∈ listed d id ↔ comment ∈ d.comments.rows ∧ comment.cardId = id := by
  simp [listed, newestFirst]

theorem listed_redacted (same : SameButBlocked d d') :
    (listed d' id).map Comment.redacted = (listed d id).map Comment.redacted := by
  have sorted : ∀ d : Database, (listed d id).map Comment.redacted =
      newestFirst Comment.createdAt
        ((d.comments.rows.map Comment.redacted).filter fun comment => comment.cardId == id) := by
    intro d
    have kept : ((fun comment => comment.cardId == id) ∘ Comment.redacted : Comment → Bool) =
        fun comment => comment.cardId == id := by
      funext comment
      simp
    unfold listed newestFirst
    rw [List.filter_map, kept]
    refine List.map_mergeSort fun a _ b _ => ?_
    simp
  rw [sorted, sorted, same.comments]

/-- The page of a card tells of the blocked comments on it, and of nothing else that is blocked. -/
theorem told_card_eq_some_iff (page : hasPage d id = true) :
    told r d (.card id) number = some telling ↔
      ∃ comment ∈ listed d id, comment.id = number ∧ comment.isBlocked = true ∧
        telling = .comment comment.text := by
  simp only [told, page, if_true, Option.map_eq_some_iff, Option.filter_eq_some_iff,
    Table.find?_eq_some_iff, Bool.and_eq_true, beq_iff_eq, mem_listed]
  constructor
  · rintro ⟨comment, ⟨⟨member, named⟩, blocked, here⟩, rfl⟩
    exact ⟨comment, ⟨member, here⟩, named, blocked, rfl⟩
  · rintro ⟨comment, ⟨member, here⟩, named, blocked, rfl⟩
    exact ⟨comment, ⟨⟨member, named⟩, blocked, here⟩, rfl⟩

theorem hasPage_eq (same : SameButBlocked d d') : hasPage d' id = hasPage d id := by
  unfold hasPage
  cases same.cardsAt id with
  | absent found found' => rw [found, found']
  | shown card _ found found' => rw [found, found']
  | hidden card card' blocked blocked' found found' =>
      rw [found, found', Option.any_some, Option.any_some, blocked, blocked']

theorem told_card_of_listed (page : hasPage d id = true) (page' : hasPage d' id = true)
    (alike : listed d' id = listed d id) (tells : told r d (.card id) number = some telling) :
    told r d' (.card id) number = some telling := by
  rw [told_card_eq_some_iff page', alike]
  exact (told_card_eq_some_iff page).mp tells

/-- The comments on a card are the same exactly if the page tells the same of the blocked
ones. -/
theorem listed_eq_iff (same : SameButBlocked d d') (page : hasPage d id = true) :
    listed d' id = listed d id ↔ SameTold r d d' (.card id) := by
  have page' : hasPage d' id = true := (hasPage_eq same).trans page
  constructor
  · intro alike
    exact sameTold_of_both (fun _ _ => told_card_of_listed page page' alike)
      fun _ _ => told_card_of_listed page' page alike.symm
  · intro told
    rw [← List.filterMap_some (l := listed d' id), ← List.filterMap_some (l := listed d id)]
    refine filterMap_eq_of_map_eq (listed_redacted same) fun comment member comment' member' pair => ?_
    cases blocked : comment.isBlocked with
    | false => rw [Comment.eq_of_redacted pair blocked]
    | true =>
        have differ := Comment.eq_with_text pair
        have sameId : comment'.id = comment.id := by
          rw [differ]
        have blocked' : comment'.isBlocked = true := by
          rw [differ]
          exact blocked
        have tells : Web.told r d (.card id) comment.id = some (.comment comment.text) :=
          (told_card_eq_some_iff page).mpr ⟨comment, member, rfl, blocked, rfl⟩
        have tells' : Web.told r d' (.card id) comment.id = some (.comment comment'.text) :=
          (told_card_eq_some_iff page').mpr ⟨comment', member', sameId, blocked', rfl⟩
        have text : comment'.text = comment.text := by
          have alike := tells'.symm.trans ((told comment.id).trans tells)
          exact Telling.comment.inj (Option.some.inj alike)
        rw [differ, text]

/-! ## The page of a card -/

theorem openCard_agrees {card : Card} (small : inRange id = true)
    (found : d.cards.find? id = some card) (found' : d'.cards.find? id = some card)
    (opened : card.isBlocked = false) :
    Action.Agrees (Sites d d') (Sites d d') (fun left right => left = card ∧ right = card)
      (openCard id) (openCard id) := by
  refine (lookup_card_agrees id).bind ?_
  rintro _ _ ⟨rfl, rfl⟩
  rw [if_pos small, if_pos small, found, found']
  dsimp only
  rw [if_neg (ne_true_of_eq_false opened)]
  exact .pure ⟨rfl, rfl⟩

/-- The same constraints hold for a square, as it refers to nothing but its card. -/
theorem store_cell (same : SameButBlocked d d') (cells : Table Cell) (cell : Cell) :
    (Database.store { d with cells } (.cell cell) = .ok { d with cells := cells.put cell } ∧
        Database.store { d' with cells } (.cell cell) = .ok { d' with cells := cells.put cell }) ∨
      ∃ violation, Database.store { d with cells } (.cell cell) = .error violation ∧
        Database.store { d' with cells } (.cell cell) = .error violation := by
  have linked : ∀ d : Database, Database.linksHold { d with cells } (.cell cell) =
      ((d.has ⟨.card, cell.cardId⟩ && true) && true) := fun _ => rfl
  have violates : Database.violation? { d' with cells } (.cell cell) =
      Database.violation? { d with cells } (.cell cell) := by
    have full : ∀ d : Database, Database.isFull { d with cells } (.cell cell) =
        Database.isFull { cells } (.cell cell) := fun _ => rfl
    unfold Database.violation?
    rw [linked, linked, full d, full d', same.has_card]
    rfl
  unfold Database.store
  rw [violates]
  cases Database.violation? { d with cells } (.cell cell) with
  | none => exact .inl ⟨rfl, rfl⟩
  | some violation => exact .inr ⟨violation, rfl, rfl⟩

/-- Squares can be added to both databases, or to none. -/
theorem addAll_refilled (same : SameButBlocked d d') (places : List (Nat × Nat))
    (cells : Table Cell) :
    (∃ added, Cells.addAll id places { d with cells } = .ok { d with cells := added } ∧
        Cells.addAll id places { d' with cells } = .ok { d' with cells := added }) ∨
      ∃ violation, Cells.addAll id places { d with cells } = .error violation ∧
        Cells.addAll id places { d' with cells } = .error violation := by
  induction places generalizing cells with
  | nil => exact .inl ⟨cells, rfl, rfl⟩
  | cons place rest inductionHypothesis =>
      have first : ∀ d : Database, Cells.addAll id (place :: rest) { d with cells } =
          (Database.store { d with cells }
            (.cell { id := cells.next, cardId := id, x := place.1, y := place.2 })).bind
              (Cells.addAll id rest) := fun d => addAll_cons id place rest { d with cells }
      rw [first, first]
      rcases store_cell same cells { id := cells.next, cardId := id, x := place.1, y := place.2 } with
        ⟨here, there⟩ | ⟨violation, here, there⟩
      · rw [here, there]
        exact inductionHypothesis _
      · rw [here, there]
        exact .inr ⟨violation, rfl, rfl⟩

theorem fill_agrees (same : SameButBlocked d d') {card : Card} :
    Action.Agrees (Sites d d') (Sites d d') Eq (Cells.fill card) (Cells.fill card) := by
  unfold Cells.fill
  dsimp only
  split
  · refine .commit ?_
    rintro _ _ ⟨cells, rfl, rfl⟩
    rcases addAll_refilled same (Cells.places card.cols card.rows) cells with
      ⟨added, here, there⟩ | ⟨violation, here, there⟩
    · exact .inl ⟨_, _, here, there, added, rfl, rfl⟩
    · exact .inr ⟨violation, here, there⟩
  · exact .pure rfl

theorem present_agrees :
    Action.Agrees (Sites d d') (Sites d d') Eq (Cells.present id) (Cells.present id) := by
  have read : Action.Agrees (Sites d d') (Sites d d') Eq (Action.rows Database.cells)
      (Action.rows Database.cells) := by
    refine .rows ?_
    rintro _ _ ⟨cells, rfl, rfl⟩
    rfl
  exact read.bind_eq fun _ => .pure rfl

/-- The comments of a page with the names of their authors. -/
def listedBy (d : Database) (id : Nat) : List (Comment × String) :=
  (listed d id).map fun comment =>
    (comment, ((d.users.find? comment.authorId).map User.username).getD "")

theorem commentsOn_agrees :
    Action.Agrees (Sites d d') (Sites d d')
      (fun left right => left = listedBy d id ∧ right = listedBy d' id)
      (commentsOn id) (commentsOn id) := by
  refine Action.Agrees.query.bind ?_
  rintro _ _ ⟨cells, rfl, rfl⟩
  exact .pure ⟨rfl, rfl⟩

/-- The page of a card shows the same exactly if its comments do. -/
theorem cardPage_eq_iff (same : SameButBlocked d d') {card : Card} {isLiked isFavorite : Bool} :
    Reply.ofPage (Page.card card (listedBy d' id) isLiked isFavorite) =
        Reply.ofPage (Page.card card (listedBy d id) isLiked isFavorite) ↔
      listed d' id = listed d id := by
  have items : ∀ comments comments' : List (Comment × String),
      Reply.ofPage (Page.card card comments' isLiked isFavorite) =
          Reply.ofPage (Page.card card comments isLiked isFavorite) ↔
        (comments'.flatMap fun shown => Page.shownComment shown.1 shown.2) =
          comments.flatMap fun shown => Page.shownComment shown.1 shown.2 := by
    intro comments comments'
    simp only [Reply.ofPage, Page.card, Reply.mk.injEq, Content.page.injEq, Page.mk.injEq, true_and,
      List.append_cancel_left_eq]
  rw [items, listedBy, listedBy, same.users, List.flatMap_map, List.flatMap_map]
  exact flatMap_shown_eq_iff (fun id => ((d.users.find? id).map User.username).getD "")
    (listed_redacted same)

/-- What is left of showing a card when its squares are there. -/
def showFilled (r : Request) (id : Nat) (card : Card) : Action Reply := do
  let user ← r.user
  let among (members : Members) : Bool := (user.map fun u => members.contains u.id).getD false
  return .ofPage (Page.card card (← commentsOn id) (among card.likes) (among card.favorites))

theorem showFilled_agrees (same : SameButBlocked d d') (page : hasPage d id = true) (card : Card) :
    AgreesIff d d' (SameTold r d d' (.card id)) (showFilled r id card) (showFilled r id card) := by
  refine (user_agrees same).bind_eq fun user => commentsOn_agrees.bind ?_
  rintro _ _ ⟨rfl, rfl⟩
  exact .pure ((cardPage_eq_iff same).trans (listed_eq_iff same page))

theorem showCard_agrees (same : SameButBlocked d d') (page : hasPage d id = true) :
    AgreesIff d d' (SameTold r d d' (.card id)) (showCard r id) (showCard r id) := by
  obtain ⟨small, opened⟩ := (Bool.and_eq_true _ _).mp page
  cases same.cardsAt id with
  | absent found _ =>
      rw [found] at opened
      cases opened
  | hidden card _ blocked _ found _ =>
      rw [found, Option.any_some, blocked] at opened
      cases opened
  | shown card shown found found' =>
      refine (openCard_agrees small found found' shown).bind ?_
      rintro _ _ ⟨rfl, rfl⟩
      refine present_agrees.bind_eq fun present => ?_
      dsimp only
      split
      · exact (fill_agrees same).bind_eq fun _ => showFilled_agrees same page _
      · exact showFilled_agrees same page _

/-- Where asking for an open card ends. -/
theorem run_openCard (id : Nat) (w : World) :
    (openCard id).run w =
      if inRange id = true ∧ w.mode = .offline then (.error .offline, w)
      else
        match if inRange id then w.database.cards.find? id else none with
        | none => (.error (.noPage "No Карта found matching the query"), w)
        | some card =>
          if card.isBlocked then (.error (.noPage "Карта заблокирована и недоступна для просмотра"), w)
          else (.ok card, w) := by
  by_cases small : inRange id = true
  · by_cases offline : w.mode = .offline
    · simp [openCard, Action.lookup, small, offline]
    · rw [if_neg fun both => offline both.2, openCard, Action.run_bind, Action.run_lookup offline]
      dsimp only
      generalize (if inRange id then w.database.cards.find? id else none) = found
      cases found with
      | none => rfl
      | some card =>
          dsimp only
          split <;> rfl
  · rw [if_neg fun both => small both.1, openCard, Action.run_bind, Action.lookup, if_neg small,
      if_neg small]
    rfl

/-- A card without a page is refused alike. -/
theorem run_showCard_of_hidden (same : SameButBlocked d d') (start : Sites d d' w w')
    (hidden : hasPage d id = false) : ((showCard r id).run w').1 = ((showCard r id).run w).1 := by
  have refused : ∃ fault, (openCard id).run w = (.error fault, w) ∧
      (openCard id).run w' = (.error fault, w') := by
    obtain ⟨cells, here, there⟩ := start.database
    rw [run_openCard, run_openCard, start.mode, here, there]
    split
    · exact ⟨.offline, rfl, rfl⟩
    · cases small : inRange id with
      | false => exact ⟨_, rfl, rfl⟩
      | true =>
          cases same.cardsAt id with
          | absent found found' =>
              simp only [found, found', if_true]
              exact ⟨_, rfl, rfl⟩
          | shown card shown found =>
              simp [hasPage, small, found, shown] at hidden
          | hidden card card' blocked blocked' found found' =>
              simp only [found, found', blocked, blocked', if_true]
              exact ⟨_, rfl, rfl⟩
  obtain ⟨fault, ends, ends'⟩ := refused
  simp only [showCard, Action.run_bind, ends, ends']

end GridCommons.Web
