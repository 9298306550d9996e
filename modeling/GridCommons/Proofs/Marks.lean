import Mathlib.Algebra.Group.Nat.Even
import Mathlib.Data.Set.Card
import GridCommons.Proofs.Answers
import GridCommons.Proofs.Ban

/-!
Contract: likes, favorites and reports of comments, counted over runs.

Owns:
- the members of a relation as a set, and its size;
- what a request to an address of a relation does: it enters the user or takes the user out,
  and tells so, or it neither changes anything nor reports success;
- the marks that a run of such requests makes, and the relations after it: toggled as often
  as they were marked, or only joined;
- the lists of cards by the relations of a user.
-/

namespace GridCommons.Site

namespace Members

variable {m : Members} {user : Nat}

theorem mem_ids_of_contains (present : m.contains user = true) : user ∈ m.ids :=
  List.contains_iff_mem.mp present

@[simp] theorem contains_join_self : (m.join user).contains user = true := by
  have placed := Table.find?_place user m.ids user m.ascending
  have same : Numbered.id user = user := rfl
  rw [if_pos same] at placed
  exact List.contains_iff_mem.mpr (List.mem_of_find?_eq_some placed)

@[simp] theorem contains_leave_self : (m.leave user).contains user = false := by
  simp [contains, leave, drop]

theorem join_eq_self (present : m.contains user = true) : m.join user = m := by
  have placed : Table.place user m.ids = m.ids :=
    Table.place_eq_self m.ascending (mem_ids_of_contains present)
  cases m
  simpa [join] using placed

/-- Each member is counted once. -/
theorem ncard_contains (m : Members) : {user | m.contains user = true}.ncard = m.length := by
  have distinct : m.ids.Nodup := m.ascending.imp fun below => Nat.ne_of_lt below
  have members : {user | m.contains user = true} = (m.ids.toFinset : Set Nat) := by
    ext user
    simp [contains]
  rw [members, Set.ncard_coe_finset, List.toFinset_card_of_nodup distinct]
  rfl

end Members

namespace Relation

variable {relation other : Relation} {members : Members} {row : Row}

theorem members_withMembers (kind : row.kind = relation.kind) :
    relation.members (relation.withMembers members row) = members := by
  cases relation <;> cases row <;> first | rfl | cases kind

theorem members_withMembers_of_ne (differs : other ≠ relation) :
    other.members (relation.withMembers members row) = other.members row := by
  cases relation <;> cases row <;> cases other <;> first | rfl | exact absurd rfl differs

theorem withMembers_members : relation.withMembers (relation.members row) row = row := by
  cases relation <;> cases row <;> rfl

/-- The members after a user marked the row: reports are kept, other marks are taken back. -/
def marked (relation : Relation) (user : Nat) (members : Members) : Members :=
  if relation ≠ .commentReports ∧ members.contains user = true then members.leave user
  else members.join user

end Relation

namespace Database

variable {d d' : Database} {relation other : Relation} {id number user : Nat} {row : Row}

/-- The members of a relation of the row with a number. -/
def membersOf (d : Database) (relation : Relation) (id : Nat) : Members :=
  ((d.find? ⟨relation.kind, id⟩).map relation.members).getD {}

theorem isMember_eq : d.isMember relation id user = (d.membersOf relation id).contains user := by
  unfold isMember membersOf
  cases d.find? ⟨relation.kind, id⟩ <;> rfl

/-- The number of members is the number of users that are one. -/
theorem ncard_isMember : {user | d.isMember relation id user = true}.ncard =
    (d.membersOf relation id).length := by
  simp only [isMember_eq]
  exact Members.ncard_contains _

theorem membersOf_of_find? (found : d.find? ⟨relation.kind, id⟩ = some row) :
    d.membersOf relation id = relation.members row := by
  rw [membersOf, found]
  rfl

/-- New members of one row change no other row and no other relation. -/
theorem membersOf_put_withMembers {members : Members}
    (found : d.find? ⟨relation.kind, id⟩ = some row) :
    (d.put (relation.withMembers members row)).membersOf other number =
      if other = relation ∧ number = id then members else d.membersOf other number := by
  have here : row.ref = ⟨relation.kind, id⟩ := (find?_eq_some_iff.mp found).2
  have kind : row.kind = relation.kind := congrArg Ref.kind here
  unfold membersOf
  rw [find?_put, Relation.ref_withMembers, here]
  by_cases same : (⟨relation.kind, id⟩ : Ref) = ⟨other.kind, number⟩
  · have sameId : id = number := congrArg Ref.id same
    rw [if_pos same]
    by_cases relations : other = relation
    · subst relations
      rw [if_pos ⟨rfl, sameId.symm⟩]
      exact Relation.members_withMembers kind
    · rw [if_neg fun both => relations both.1, ← same, found]
      exact Relation.members_withMembers_of_ne relations
  · rw [if_neg same, if_neg]
    rintro ⟨rfl, rfl⟩
    exact same rfl

/-- A user marked the row with a number. -/
def MarkedBy (relation : Relation) (id user : Nat) (d d' : Database) : Prop :=
  ∃ row, d.find? ⟨relation.kind, id⟩ = some row ∧
    d' = d.put (relation.withMembers (relation.marked user (relation.members row)) row)

/-- A mark changes the members of one relation of one row. -/
theorem MarkedBy.membersOf (marks : MarkedBy relation id user d d') (other : Relation) (number : Nat) :
    d'.membersOf other number =
      if other = relation ∧ number = id then relation.marked user (d.membersOf relation id)
      else d.membersOf other number := by
  obtain ⟨row, found, rfl⟩ := marks
  rw [membersOf_put_withMembers found, membersOf_of_find? found]

/-- A mark is taken back where there was one, unless it is a report. -/
theorem MarkedBy.isMember_self (marks : MarkedBy relation id user d d') :
    d'.isMember relation id user = (relation == .commentReports || !d.isMember relation id user) := by
  rw [isMember_eq, isMember_eq, marks.membersOf, if_pos ⟨rfl, rfl⟩, Relation.marked]
  by_cases reports : relation = .commentReports
  · simp [reports]
  · cases (d.membersOf relation id).contains user <;> simp [reports]

/-- A mark changes nothing for others, and nothing elsewhere. -/
theorem MarkedBy.isMember_of_ne (marks : MarkedBy relation id user d d') {someone : Nat}
    (differs : (other, number, someone) ≠ (relation, id, user)) :
    d'.isMember other number someone = d.isMember other number someone := by
  rw [isMember_eq, isMember_eq, marks.membersOf]
  by_cases here : other = relation ∧ number = id
  · obtain ⟨rfl, rfl⟩ := here
    have foreign : user ≠ someone := by
      rintro rfl
      exact differs rfl
    rw [if_pos ⟨rfl, rfl⟩, Relation.marked]
    split
    · exact Members.contains_leave_of_ne foreign
    · exact Members.contains_join_of_ne foreign
  · rw [if_neg here]

end Database

namespace Action

variable {relation : Relation} {id user : Nat} {row : Row} {w : World}

theorem run_members (relation : Relation) (id : Nat) (online : w.mode ≠ .offline) :
    (members relation id).run w = (.ok (w.database.membersOf relation id), w) := by
  rw [members, run_bind, run_query_of_online online]
  unfold Database.membersOf
  dsimp only
  cases w.database.find? ⟨relation.kind, id⟩ <;> rfl

/-- Other members of a row are stored, or a fault ends the change. -/
theorem changeMembers_stores_or_fails (found : w.database.find? ⟨relation.kind, id⟩ = some row)
    (change : Members → Members) :
    (changeMembers relation id change).run w =
        (.ok (), { w with
          database := w.database.put (relation.withMembers (change (relation.members row)) row) }) ∨
      ∃ fault, (changeMembers relation id change).run w = (.error fault, w) := by
  rw [changeMembers, run_commit, found]
  cases w.mode with
  | ok =>
      dsimp only
      cases stored : w.database.store (relation.withMembers (change (relation.members row)) row) with
      | ok d' =>
          obtain ⟨-, rfl⟩ := Database.store_eq_ok_iff.mp stored
          exact .inl rfl
      | error violation => exact .inr ⟨_, rfl⟩
  | readOnly | offline => exact .inr ⟨_, rfl⟩

/-- A user enters a relation, or a fault ends the attempt.  A member stays one. -/
theorem join_stores_or_fails (online : w.mode ≠ .offline)
    (found : w.database.find? ⟨relation.kind, id⟩ = some row) (user : Nat) :
    (join relation id [user]).run w =
        (.ok (), { w with
          database := w.database.put (relation.withMembers ((relation.members row).join user) row) }) ∨
      ∃ fault, (join relation id [user]).run w = (.error fault, w) := by
  have here : w.database.find? row.ref = some row := by
    rw [(Database.find?_eq_some_iff.mp found).2]
    exact found
  rw [join, run_bind, run_members relation id online, Database.membersOf_of_find? found]
  cases present : (relation.members row).contains user with
  | true =>
      left
      rw [Members.join_eq_self present, Relation.withMembers_members,
        Database.put_eq_self here]
      simp [present]
  | false =>
      simp only [List.filter_cons, present, Bool.not_false, ↓reduceIte, List.filter_nil,
        List.isEmpty_cons]
      exact changeMembers_stores_or_fails found _

end Action

end GridCommons.Site

namespace GridCommons.Web

open Site Account
open GridCommons.Json (Value)

variable {relation : Relation} {id : Nat} {user : User} {row : Row} {w : World}

/-- A user marks a row or takes the mark back, or a fault ends the attempt. -/
theorem toggle_stores_or_fails (user : User) (online : w.mode ≠ .offline)
    (found : w.database.find? ⟨relation.kind, id⟩ = some row) (toggles : relation ≠ .commentReports) :
    (∃ d', Database.MarkedBy relation id user.id w.database d' ∧ (toggle relation id user).run w =
        (.ok (d'.isMember relation id user.id), { w with database := d' })) ∨
      ∃ fault, (toggle relation id user).run w = (.error fault, w) := by
  have marks : Database.MarkedBy relation id user.id w.database _ := ⟨row, found, rfl⟩
  have now := marks.isMember_self
  have members := Database.membersOf_of_find? found
  rw [Database.isMember_eq (d := w.database), members] at now
  rw [toggle, Action.run_bind, Action.run_members relation id online, members]
  dsimp only
  cases present : (relation.members row).contains user.id with
  | true =>
      have marked : relation.marked user.id (relation.members row) =
          (relation.members row).leave user.id := if_pos ⟨toggles, present⟩
      rw [if_pos rfl, Action.run_bind, Action.leave]
      rcases Action.changeMembers_stores_or_fails found (Members.leave user.id) with stores | ⟨fault, fails⟩
      · left
        refine ⟨_, marks, ?_⟩
        rw [stores, now, marked]
        simp [toggles, present]
      · right
        exact ⟨fault, by rw [fails]⟩
  | false =>
      have marked : relation.marked user.id (relation.members row) =
          (relation.members row).join user.id := if_neg fun both => by simp [present] at both
      rw [if_neg (by simp), Action.run_bind]
      rcases Action.join_stores_or_fails online found user.id with stores | ⟨fault, fails⟩
      · left
        refine ⟨_, marks, ?_⟩
        rw [stores, now, marked]
        simp [present]
      · right
        exact ⟨fault, by rw [fails]⟩

/-- The user is stored among those who complained, or a fault leaves everything as it was. -/
theorem join_marks_or_fails (user : User) (online : w.mode ≠ .offline)
    (found : w.database.find? ⟨Relation.kind .commentReports, id⟩ = some row) :
    (∃ d', Database.MarkedBy .commentReports id user.id w.database d' ∧
        (Action.join .commentReports id [user.id]).run w = (.ok (), { w with database := d' })) ∨
      ∃ fault, (Action.join .commentReports id [user.id]).run w = (.error fault, w) :=
  (Action.join_stores_or_fails online found user.id).imp_left fun stores =>
    ⟨_, ⟨row, found, rfl⟩, stores⟩

/-! ## Requests -/

/-- What a user is told who marked a row: whether the user is a member now, and how many
there are. -/
def toldMark (isMember : Bool) (count : Nat) : Relation → Value
  | .cardLikes => .object [("is_liked", .bool isMember), ("likes_count", .nat count)]
  | .cardFavorites => .object [("is_favorited", .bool isMember)]
  | .commentLikes =>
    .object [("success", .bool true), ("is_liked", .bool isMember), ("likes_count", .nat count)]
  | .commentReports => .object [("success", .bool true), ("reports_count", .nat count)]

/-- What a user is told after a mark of the user led to a database. -/
def toldAfter (d : Database) (relation : Relation) (id user : Nat) : Value :=
  toldMark (d.isMember relation id user) (d.membersOf relation id).length relation

/-- A user of the request marked a row and is told so, or nothing changed and no success is
reported. -/
def Marks (actor : Option User) (relation : Relation) (id : Nat) (d : Database)
    (outcome : Except Fault Reply) (d' : Database) : Prop :=
  (∃ user ∈ actor, d.MarkedBy relation id user.id d' ∧
      outcome = .ok (.ofJson (toldAfter d' relation id user.id))) ∨
    ((∀ reply, outcome = .ok reply → reply.status ≠ 200) ∧ d' = d)

/-- The operation behind the address of a relation. -/
def marking (user : User) (id : Nat) : Relation → Action Reply
  | .cardLikes => toggleLike user id
  | .cardFavorites => toggleFavorite user id
  | .commentLikes => toggleCommentLike user id
  | .commentReports => reportComment user id

theorem Marks.of_error {actor : Option User} {d : Database} {fault : Fault} :
    Marks actor relation id d (.error fault) d :=
  .inr ⟨nofun, rfl⟩

theorem Marks.of_reply {actor : Option User} {d : Database} {reply : Reply} (status : reply.status ≠ 200) :
    Marks actor relation id d (.ok reply) d := by
  refine .inr ⟨?_, rfl⟩
  rintro _ ⟨⟩
  exact status

/-- The reply to a mark tells the members after it. -/
theorem Marks.of_marked {d d' : Database} (marks : d.MarkedBy relation id user.id d') :
    Marks (some user) relation id d (.ok (.ofJson (toldAfter d' relation id user.id))) d' :=
  .inl ⟨user, rfl, marks, rfl⟩

theorem toggleLike_marks (user : User) (id : Nat) (d : Database) :
    (toggleLike user id).Ends d (Marks (some user) .cardLikes id d) := by
  rintro w rfl
  have refused : ∀ fault : Fault, (Reply.ofError 500 fault.message).status ≠ 200 := fun _ => by
    simp [Reply.ofError]
  rw [toggleLike, recovering, Action.run_bind, Action.run_attempt, Action.run_bind]
  rcases load_finds_or_fails Database.cards (.noRow .card) id w with
    ⟨card, ⟨online, -, found⟩, loads⟩ | ⟨-, fault, fails⟩
  · have here : w.database.find? ⟨Relation.kind .cardLikes, id⟩ = some (.card card) :=
      Database.Slot.card.find?_inject found
    rcases toggle_stores_or_fails user online here (by decide) with
      ⟨d', marks, stores⟩ | ⟨fault, fails⟩
    · have read := Action.run_members (w := { w with database := d' }) .cardLikes id online
      simp only [loads, Action.run_bind, stores, read]
      exact .of_marked marks
    · simp only [loads, Action.run_bind, fails]
      exact .of_reply (refused fault)
  · simp only [fails]
    exact .of_reply (refused fault)

theorem toggleFavorite_marks (user : User) (id : Nat) (d : Database) :
    (toggleFavorite user id).Ends d (Marks (some user) .cardFavorites id d) := by
  rintro w rfl
  rw [toggleFavorite, Action.run_bind]
  rcases load_finds_or_fails Database.cards (.noRow .card) id w with
    ⟨card, ⟨online, -, found⟩, loads⟩ | ⟨-, fault, fails⟩
  · have here : w.database.find? ⟨Relation.kind .cardFavorites, id⟩ = some (.card card) :=
      Database.Slot.card.find?_inject found
    rcases toggle_stores_or_fails user online here (by decide) with
      ⟨d', marks, stores⟩ | ⟨fault, fails⟩
    · simp only [loads, Action.run_bind, stores]
      exact .of_marked marks
    · simp only [loads, Action.run_bind, fails]
      exact .of_error
  · simp only [fails]
    exact .of_error

/-- A comment is found with the database in reach, or it is not there, or the look-up ends with
a fault. -/
theorem lookup_comment_cases (id : Nat) (w : World) :
    (∃ comment, w.mode ≠ .offline ∧ w.database.find? ⟨.comment, id⟩ = some (.comment comment) ∧
        (Action.lookup Database.comments id).run w = (.ok (some comment), w)) ∨
      (Action.lookup Database.comments id).run w = (.ok none, w) ∨
      ∃ fault, (Action.lookup Database.comments id).run w = (.error fault, w) := by
  by_cases small : inRange id = true
  · by_cases offline : w.mode = .offline
    · refine .inr (.inr ⟨.offline, ?_⟩)
      rw [Action.lookup, if_pos small, Action.run_bind, Action.run_query, offline]
    · rw [Action.run_lookup offline, if_pos small]
      cases found : w.database.comments.find? id with
      | none => exact .inr (.inl rfl)
      | some comment => exact .inl ⟨comment, offline, Database.Slot.comment.find?_inject found, rfl⟩
  · exact .inr (.inl (by simp [Action.lookup, small]))

theorem toggleCommentLike_marks (user : User) (id : Nat) (d : Database) :
    (toggleCommentLike user id).Ends d (Marks (some user) .commentLikes id d) := by
  rintro w rfl
  rw [toggleCommentLike, Action.run_bind]
  rcases lookup_comment_cases id w with ⟨comment, online, here, loads⟩ | missing | ⟨fault, fails⟩
  · have here : w.database.find? ⟨Relation.kind .commentLikes, id⟩ = some (.comment comment) := here
    rcases toggle_stores_or_fails user online here (by decide) with
      ⟨d', marks, stores⟩ | ⟨fault, fails⟩
    · have read := Action.run_members (w := { w with database := d' }) .commentLikes id online
      simp only [loads, Action.run_bind, stores, read]
      exact .of_marked marks
    · simp only [loads, Action.run_bind, fails]
      exact .of_error
  · simp only [missing]
    exact .of_reply (by decide)
  · simp only [fails]
    exact .of_error

theorem reportComment_marks (user : User) (id : Nat) (d : Database) :
    (reportComment user id).Ends d (Marks (some user) .commentReports id d) := by
  rintro w rfl
  rw [reportComment, Action.run_bind]
  rcases lookup_comment_cases id w with ⟨comment, online, here, loads⟩ | missing | ⟨fault, fails⟩
  · rcases join_marks_or_fails user online here with ⟨d', marks, stores⟩ | ⟨fault, fails⟩
    · have read := Action.run_members (w := { w with database := d' }) .commentReports id online
      simp only [loads, Action.run_bind, stores, read]
      exact .of_marked marks
    · simp only [loads, Action.run_bind, fails]
      exact .of_error
  · simp only [missing]
    exact .of_reply (by decide)
  · simp only [fails]
    exact .of_error

/-- However a mark is made, the reply tells what was written. -/
theorem marking_marks (user : User) (id : Nat) (relation : Relation) (d : Database) :
    (marking user id relation).Ends d (Marks (some user) relation id d) := by
  cases relation with
  | cardLikes => exact toggleLike_marks user id d
  | cardFavorites => exact toggleFavorite_marks user id d
  | commentLikes => exact toggleCommentLike_marks user id d
  | commentReports => exact reportComment_marks user id d

/-- The addresses for marks take submissions of signed-in users. -/
theorem serveAddress_of_relation? {r : Request} {address : Address}
    (marks : address.relation? = some (relation, id)) :
    serveAddress r address = submission r fun user => marking user id relation := by
  cases address <;> first | cases marks; rfl | cases marks

/-- Only submissions mark a row. -/
theorem run_serve_unposted {r : Request} {address : Address} (there : addressOf r.path = some address)
    (marks : address.relation? = some (relation, id)) (unposted : r.method ≠ "POST") (w : World) :
    (serve r).run w = (.ok (.notAllowed ["POST"]), w) := by
  apply run_serve there
  rw [serveAddress_of_relation? marks, submission, Guard.postOnly, if_neg unposted]
  rfl

/-- A request to the address of a relation marks a row, or it changes nothing and reports no
success. -/
theorem serve_marks {r : Request} {address : Address} (there : addressOf r.path = some address)
    (marks : address.relation? = some (relation, id)) (w : World) :
    Marks (servedAs r.visitor w) relation id w.database ((serve r).run w).1
      ((serve r).run w).2.database := by
  by_cases posted : r.method = "POST"
  · rw [serve, there]
    apply ends_settled
    · rw [serveAddress_of_relation? marks, submission, Guard.postOnly, if_pos posted]
      apply ends_signedIn
      · intro user served
        rw [served]
        exact marking_marks user id relation w.database
      · exact fun _ => .of_error
      · exact .of_reply (by simp [signInFirst, Reply.redirect])
    · rintro fault reply d - unsuccessful (⟨user, -, -, told⟩ | ⟨-, same⟩)
      · cases told
      · rw [same]
        exact .of_reply (unsuccessful posted)
  · rw [run_serve_unposted there marks posted]
    exact .of_reply (by decide)

/-! ## Lists of cards -/

/-- The name under which the cards are listed that a user has a relation to. -/
def listName? : Relation → Option String
  | .cardLikes => some "liked"
  | .cardFavorites => some "favorites"
  | _ => none

/-- The cards that a user has a relation to. -/
def cardsMarked (d : Database) (relation : Relation) (user : Nat) : List Card :=
  d.cards.rows.filter fun card => d.isMember relation card.id user

/-- The numbers that the entries of a list of cards have, in the list's order. -/
def listedIds (answer : Value) : List (Option Int) :=
  ((answer.get? "fields").elim [] Value.items).map fun entry => (entry.get? "id").bind Value.asInt?

/-- The answer lists the cards with a property, in any order and each of them once. -/
structure ListsOnce (answer : Value) (wanted : Nat → Prop) : Prop where
  distinct : (listedIds answer).Nodup
  listed : ∀ number, number ∈ listedIds answer ↔ ∃ id : Nat, number = some (id : Int) ∧ wanted id

/-- The numbers in an answer are those of the listed cards. -/
theorem listedIds_listedJson (cards : List Card) :
    listedIds (.object [("fields", .arr (cards.map listedJson))]) =
      cards.map fun card => some (card.id : Int) := by
  show (cards.map listedJson).map _ = _
  rw [List.map_map]
  rfl

/-- A card is listed exactly if the user is one of its members. -/
theorem mem_cardsMarked {d : Database} {user id : Nat} (kind : relation.kind = .card) :
    (∃ card ∈ cardsMarked d relation user, card.id = id) ↔ d.isMember relation id user = true := by
  constructor
  · rintro ⟨card, marked, rfl⟩
    exact (List.mem_filter.mp marked).2
  · intro member
    obtain ⟨row, found, -⟩ := (Option.any_eq_true _ _).mp member
    rw [kind] at found
    obtain ⟨card, found, -⟩ := Database.Slot.card.find?_eq_some found
    obtain ⟨present, rfl⟩ := Table.find?_eq_some_iff.mp found
    exact ⟨card, List.mem_filter.mpr ⟨present, member⟩, rfl⟩

/-- A list of the cards that a user has a relation to has each of them once. -/
theorem listsOnce_cardsMarked {d : Database} {user : Nat} (kind : relation.kind = .card) :
    ListsOnce (.object [("fields", .arr ((cardsMarked d relation user).map listedJson))])
      fun id => d.isMember relation id user = true where
  distinct := by
    rw [listedIds_listedJson]
    apply List.pairwise_map.mpr
    refine (d.cards.ascending.filter _).imp fun {earlier later} below same => ?_
    exact Nat.ne_of_lt below (Int.ofNat.inj (Option.some.inj same))
  listed number := by
    rw [listedIds_listedJson, List.mem_map]
    constructor
    · rintro ⟨card, marked, rfl⟩
      exact ⟨card.id, rfl, (mem_cardsMarked kind).mp ⟨card, marked, rfl⟩⟩
    · rintro ⟨id, rfl, member⟩
      obtain ⟨card, marked, rfl⟩ := (mem_cardsMarked kind).mpr member
      exact ⟨card, marked, rfl⟩

theorem filter_isMember {d : Database} {user : Nat} (relation : Relation) (keeps : Card → Members)
    (kept : ∀ card, relation.members (.card card) = keeps card) (kind : relation.kind = .card) :
    (d.cards.rows.filter fun card => (keeps card).contains user) = cardsMarked d relation user := by
  apply List.filter_congr
  intro card member
  have found : d.find? ⟨relation.kind, card.id⟩ = some (.card card) := by
    rw [kind]
    exact Database.Slot.card.find?_inject (Table.find?_eq_some_iff.mpr ⟨member, rfl⟩)
  rw [Database.isMember_eq, Database.membersOf_of_find? found, kept]

/-- A list that is asked for tells the cards that the user has the relation to. -/
theorem run_profileCards {r : Request} {name : String} (online : w.mode ≠ .offline)
    (served : servedAs r.visitor w = some user) (named : r.param? "type" = some name)
    (lists : listName? relation = some name) :
    (profileCards r).run w = (.ok (.ofJson (.object
      [("fields", .arr ((cardsMarked w.database relation user.id).map listedJson))])), w) := by
  have asked : ∀ fault, (listOwner r fault).run w = (.ok user, w) := by
    intro fault
    have current : r.user.run w = (.ok (some user), w) := run_currentUser served
    rw [listOwner, Action.run_bind, current]
    rfl
  unfold profileCards
  rw [named]
  cases relation with
  | cardLikes =>
      cases lists
      simp only [Option.getD_some, Action.run_bind, asked, Action.run_rows online, Action.run_pure]
      rw [filter_isMember .cardLikes Card.likes (fun _ => rfl) rfl]
  | cardFavorites =>
      cases lists
      simp only [Option.getD_some, Action.run_bind, asked, Action.run_rows online, Action.run_pure]
      rw [filter_isMember .cardFavorites Card.favorites (fun _ => rfl) rfl]
  | commentLikes | commentReports => cases lists

end GridCommons.Web

namespace GridCommons

open Site Account Web

namespace Step

variable {step : Step} {r : Request} {relation : Relation} {w : World}

/-- The step sends a request to the address of a relation. -/
def MarksRelation (step : Step) : Prop :=
  ∃ r address, step.sent? = some r ∧ addressOf r.path = some address ∧
    address.relation?.isSome = true

/-- The mark that a step makes where it reports success: the relation with the number of the row,
and the user. -/
def mark? (step : Step) (w : World) : Option (Relation × Nat × Nat) := do
  let r ← step.sent?
  let (relation, id) ← (addressOf r.path).bind Address.relation?
  let user ← servedAs r.visitor (nextSecond w)
  if (step.take w).1.status? = some 200 then some (relation, id, user.id) else none

/-- Success is reported with the relation as it is after the step. -/
def TellsMark (step : Step) (w : World) : Prop :=
  (step.take w).1.status? = some 200 →
    ∃ relation id user, step.mark? w = some (relation, id, user) ∧
      let after := (step.take w).2.database
      (step.take w).1.content? = some (.json (toldMark (after.isMember relation id user)
        {someone | after.isMember relation id someone = true}.ncard relation))

/-- A step to the address of a relation makes a mark and tells of it, or it changes nothing and
reports no success. -/
theorem MarksRelation.cases (marking : step.MarksRelation) (w : World) :
    (∃ relation id user, step.mark? w = some (relation, id, user) ∧
        w.database.MarkedBy relation id user (step.take w).2.database ∧
        (step.take w).1.content? = some (.json (toldAfter (step.take w).2.database relation id user))) ∨
      (step.mark? w = none ∧ (step.take w).1.status? ≠ some 200 ∧
        (step.take w).2.database = w.database) := by
  obtain ⟨r, address, sends, there, marks⟩ := marking
  obtain ⟨⟨relation, id⟩, marks⟩ := Option.isSome_iff_exists.mp marks
  have unmarked : (step.take w).1.status? ≠ some 200 → step.mark? w = none := by
    intro failed
    simp [mark?, failed]
  have written := database_take sends w
  cases delivers : step.delivered? (nextSecond w) with
  | none =>
      rw [delivers] at written
      have failed : (step.take w).1.status? ≠ some 200 := by
        rw [ne_eq, status?_eq_some_iff sends (by decide)]
        simp [reply?, delivers]
      exact .inr ⟨unmarked failed, failed, written⟩
  | some arrived =>
      have replied : ∀ reply, step.reply? w = some reply ↔ _ := fun _ => reply?_eq_some_iff delivers
      obtain ⟨body, rfl⟩ := delivered?_eq_some delivers sends
      rw [delivers] at written
      dsimp only at written
      rcases serve_marks (r := { r with body }) there marks (nextSecond w) with
        ⟨user, served, marked, told⟩ | ⟨failed, same⟩
      · rw [← written] at told
        have answer := tells_of_reply? sends ((replied _).mpr told)
        have posted : r.method ≠ "HEAD" := by
          intro head
          have refused := run_serve_unposted (r := { r with body }) there marks (by simp [head])
            (nextSecond w)
          rw [refused] at told
          cases told
        refine .inl ⟨relation, id, user.id, ?_, ?_, answer.content posted⟩
        · have served : servedAs r.visitor (nextSecond w) = some user := served
          simp [mark?, sends, there, marks, served, answer.status, Reply.ofJson]
        · rw [written]
          exact marked
      · have status : (step.take w).1.status? ≠ some 200 := by
          rw [ne_eq, status?_eq_some_iff sends (by decide)]
          rintro ⟨reply, replies, success⟩
          exact failed reply ((replied reply).mp replies) success
        exact .inr ⟨unmarked status, status, written.trans same⟩

/-- Every step that marks tells what it marked. -/
theorem MarksRelation.tells (marking : step.MarksRelation) (w : World) : step.TellsMark w := by
  intro success
  rcases marking.cases w with ⟨relation, id, user, marks, -, told⟩ | ⟨-, failed, -⟩
  · refine ⟨relation, id, user, marks, ?_⟩
    dsimp only
    rw [told, Database.ncard_isMember]
    rfl
  · exact absurd success failed

/-- The step asks for a list of cards by its name, arrives, and is served as a user. -/
structure AsksForList (step : Step) (name : String) (user : User) (w : World) (r : Request) : Prop where
  sent : step.sent? = some r
  client : r.visitor.isClient = true
  got : r.method = "GET"
  there : addressOf r.path = some .profileCards
  named : r.param? "type" = some name
  arrives : (step.delivered? (nextSecond w)).isSome = true
  served : servedAs r.visitor (nextSecond w) = some user

/-- A list that is asked for names each card of the user once. -/
theorem AsksForList.lists {name : String} {user : User} (asks : step.AsksForList name user w r)
    (lists : listName? relation = some name) :
    (step.take w).1.status? = some 200 ∧
      ∃ answer, (step.take w).1.content? = some (.json answer) ∧
        ListsOnce answer fun id => w.database.isMember relation id user.id = true := by
  have online : w.mode ≠ .offline := online_of_servedAs (w := nextSecond w) asks.client asks.served
  have replies : step.reply? w = some (.ofJson (.object
      [("fields", .arr ((cardsMarked w.database relation user.id).map listedJson))])) := by
    apply reply?_of_serves asks.sent asks.arrives
    intro body
    have chosen : serveAddress { r with body } .profileCards = profileCards { r with body } := by
      simp [serveAddress, asks.got, Methods.reading, Methods.dispatch]
    have runs := run_profileCards (w := nextSecond w) (r := { r with body }) online asks.served
      asks.named lists
    rw [run_serve (r := { r with body }) asks.there (chosen ▸ runs)]
    rfl
  have told := tells_of_reply? asks.sent replies
  have kind : relation.kind = .card := by
    cases relation with
    | cardLikes | cardFavorites => rfl
    | commentLikes | commentReports => cases lists
  exact ⟨told.status, _, told.content (by simp [asks.got]), listsOnce_cardsMarked kind⟩

end Step

/-- The marks that a run makes, in order. -/
def marksAlong : List Step → World → List (Relation × Nat × Nat)
  | [], _ => []
  | step :: rest, w => (step.mark? w).toList ++ marksAlong rest (step.take w).2

section Runs

variable {steps : List Step} {w : World} {relation : Relation} {id user : Nat}

/-- A relation that is toggled is as it was at first, but for an odd number of marks. -/
theorem isMember_runSteps_of_toggled (marking : ∀ step ∈ steps, step.MarksRelation)
    (toggles : relation ≠ .commentReports) :
    (runSteps steps w).2.database.isMember relation id user =
      (w.database.isMember relation id user ^^
        decide (Odd ((marksAlong steps w).count (relation, id, user)))) := by
  induction steps generalizing w with
  | nil => simp [runSteps, marksAlong]
  | cons step rest inductionHypothesis =>
      obtain ⟨first, later⟩ := List.forall_mem_cons.mp marking
      have ends := inductionHypothesis (w := (step.take w).2) later
      show (runSteps rest (step.take w).2).2.database.isMember relation id user = _
      rw [ends]
      rcases first.cases w with ⟨relation', id', user', marks, marked, -⟩ | ⟨nothing, -, same⟩
      · rw [marksAlong, marks, Option.toList_some, List.singleton_append]
        by_cases here : (relation', id', user') = (relation, id, user)
        · cases here
          have toggled : (relation == .commentReports) = false := by simp [toggles]
          rw [marked.isMember_self, toggled, List.count_cons_self]
          simp only [Nat.odd_add_one, decide_not, Bool.false_or, Bool.not_xor, Bool.xor_not]
        · rw [marked.isMember_of_ne (Ne.symm here), List.count_cons_of_ne here]
      · rw [marksAlong, nothing, same]
        rfl

/-- Whoever reported a comment stays among those who did. -/
theorem isMember_runSteps_of_reported (marking : ∀ step ∈ steps, step.MarksRelation) :
    (runSteps steps w).2.database.isMember .commentReports id user = true ↔
      w.database.isMember .commentReports id user = true ∨
        (.commentReports, id, user) ∈ marksAlong steps w := by
  induction steps generalizing w with
  | nil => simp [runSteps, marksAlong]
  | cons step rest inductionHypothesis =>
      obtain ⟨first, later⟩ := List.forall_mem_cons.mp marking
      have ends := inductionHypothesis (w := (step.take w).2) later
      show (runSteps rest (step.take w).2).2.database.isMember .commentReports id user = true ↔ _
      rw [ends]
      rcases first.cases w with ⟨relation', id', user', marks, marked, -⟩ | ⟨nothing, -, same⟩
      · rw [marksAlong, marks, Option.toList_some, List.singleton_append, List.mem_cons]
        by_cases here : (relation', id', user') = (.commentReports, id, user)
        · cases here
          rw [marked.isMember_self]
          simp
        · rw [marked.isMember_of_ne (Ne.symm here)]
          simp [Ne.symm here]
      · rw [marksAlong, nothing, same]
        simp

end Runs

/-- Marks are counted, whoever makes them and in whatever order.  After a run of requests to the
addresses of relations, a user likes a card or a comment, or keeps a card as a favorite, exactly if
this was so at first, but for an odd number of the user's requests there that were answered with
success.  The users who reported a comment are those who did at first and those whose requests
were.  Each success is told with the relation right after it, and a user's lists of cards have
exactly the cards that the user has the relation to, each of them once. -/
theorem marks_count_along_runs {steps : List Step} {w : World}
    (marking : ∀ step ∈ steps, step.MarksRelation) :
    let reached := (runSteps steps w).2
    (∀ relation id user, relation ≠ .commentReports →
      reached.database.isMember relation id user =
        (w.database.isMember relation id user ^^
          decide (Odd ((marksAlong steps w).count (relation, id, user))))) ∧
    (∀ id user, reached.database.isMember .commentReports id user = true ↔
      w.database.isMember .commentReports id user = true ∨
        (.commentReports, id, user) ∈ marksAlong steps w) ∧
    EachStep Step.TellsMark steps w ∧
    ∀ (step : Step) r user relation name, listName? relation = some name →
      step.AsksForList name user reached r →
      (step.take reached).1.status? = some 200 ∧
        ∃ answer, (step.take reached).1.content? = some (.json answer) ∧
          ListsOnce answer fun id => reached.database.isMember relation id user.id = true := by
  refine ⟨fun _ _ _ => isMember_runSteps_of_toggled marking,
    fun _ _ => isMember_runSteps_of_reported marking, ?_, ?_⟩
  · exact (eachStep_of_forall marking).mono fun _ w marks => marks.tells w
  · intro step r user relation name lists asks
    exact asks.lists lists

/-! ### Two users and one card -/

/-- Two users with a card and a comment on it, each signed in from a browser. -/
def markedSite : World :=
  { now := ⟨0⟩
    database :=
      [.user { id := 1, username := "ann", dateJoined := ⟨0⟩, password := .plain "" },
        .user { id := 2, username := "bob", dateJoined := ⟨0⟩, password := .plain "" },
        .card { id := 1, userId := 1, title := "", description := "", createdAt := ⟨0⟩,
                updatedAt := ⟨0⟩ },
        .comment { id := 1, cardId := 1, authorId := 1, text := "", createdAt := ⟨0⟩ }].foldl Database.put {}
    sessions := [⟨1, 1, .plain "", ⟨100⟩⟩, ⟨2, 2, .plain "", ⟨100⟩⟩].foldl Table.put {}
    browsers := [("ann", 1), ("bob", 2)] }

def submits (browser path : String) : Step :=
  .request { method := "POST", path, visitor := .browser browser }

/-- Both users like the card and one of them takes that back, over either path.  The other reports
the comment twice. -/
def marksBoth : List Step :=
  [submits "ann" "/cards/1/toggle-like/", submits "bob" "/api/field/1/toggle-like/",
    submits "ann" "/api/field/1/toggle-like/", submits "bob" "/comments/1/report/",
    submits "bob" "/comments/1/report/"]

def asksForLiked : Request :=
  { method := "GET", path := "/api/profile/fields/", query := "type=liked"
    visitor := .browser "bob" }

theorem marks_count_along_runs_both :
    let reached := (runSteps marksBoth markedSite).2
    (marksAlong marksBoth markedSite =
        [(.cardLikes, 1, 1), (.cardLikes, 1, 2), (.cardLikes, 1, 1), (.commentReports, 1, 2),
          (.commentReports, 1, 2)]) ∧
      reached.database.isMember .cardLikes 1 1 = false ∧
      reached.database.isMember .cardLikes 1 2 = true ∧
      reached.database.isMember .commentReports 1 2 = true ∧
      ∃ answer, ((Step.request asksForLiked).take reached).1.content? = some (.json answer) ∧
        some 1 ∈ listedIds answer := by
  have like : addressOf "/cards/1/toggle-like/" = some (.toggleLike 1) := by decide +kernel
  have like' : addressOf "/api/field/1/toggle-like/" = some (.toggleLike 1) := by decide +kernel
  have report : addressOf "/comments/1/report/" = some (.reportComment 1) := by decide +kernel
  have marking : ∀ step ∈ marksBoth, step.MarksRelation := by
    simp only [marksBoth, List.forall_mem_cons, List.not_mem_nil, false_implies, implies_true, and_true]
    exact ⟨⟨_, _, rfl, like, rfl⟩, ⟨_, _, rfl, like', rfl⟩, ⟨_, _, rfl, like', rfl⟩,
      ⟨_, _, rfl, report, rfl⟩, ⟨_, _, rfl, report, rfl⟩⟩
  have made : marksAlong marksBoth markedSite =
      [(.cardLikes, 1, 1), (.cardLikes, 1, 2), (.cardLikes, 1, 1), (.commentReports, 1, 2),
        (.commentReports, 1, 2)] := by decide +kernel
  obtain ⟨toggled, reported, -, listed⟩ := marks_count_along_runs (w := markedSite) marking
  rw [made] at toggled reported
  have served : ∃ bob, bob.id = 2 ∧
      servedAs asksForLiked.visitor (Step.nextSecond (runSteps marksBoth markedSite).2) = some bob :=
    ⟨{ id := 2, username := "bob", dateJoined := ⟨0⟩, password := .plain "" }, rfl, by decide +kernel⟩
  obtain ⟨bob, second, served⟩ := served
  have asks : (Step.request asksForLiked).AsksForList "liked" bob (runSteps marksBoth markedSite).2
      asksForLiked :=
    { sent := rfl
      client := rfl
      got := rfl
      there := by decide +kernel
      named := by decide +kernel
      arrives := by decide +kernel
      served := served }
  have liked : (runSteps marksBoth markedSite).2.database.isMember .cardLikes 1 2 = true := by
    rw [toggled .cardLikes 1 2 (by decide)]
    decide +kernel
  refine ⟨made, ?_, liked, ?_, ?_⟩
  · rw [toggled .cardLikes 1 1 (by decide)]
    decide +kernel
  · exact (reported 1 2).mpr (.inr (by decide))
  · obtain ⟨-, answer, told, once⟩ :=
      listed (.request asksForLiked) asksForLiked bob .cardLikes "liked" rfl asks
    exact ⟨answer, told, (once.listed (some 1)).mpr ⟨1, rfl, second ▸ liked⟩⟩

end GridCommons
