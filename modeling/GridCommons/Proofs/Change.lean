import GridCommons.Account.Session
import GridCommons.Proofs.Action
import GridCommons.Proofs.Deletion
import GridCommons.Site.Cells
import GridCommons.Web.Panel

/-!
Contract: the ways in which the database changes, and that each keeps its references.

Owns:
- the four sorts of change: a row is stored, columns are altered that tie no rows
  together, rows are deleted, or a row moves to another place;
- what storing a row requires;
- that every change keeps `Database.Referential`.

Does not own: who makes which change.
-/

namespace GridCommons.Site

/-- What ties a row to others: its references, its members and its keys. -/
def Row.ties (row : Row) : List Link × List (String × List Nat) × List UniqueKey :=
  (row.links, row.members, row.uniqueKeys)

@[simp] theorem Relation.ref_withMembers {relation : Relation} {members : Members} {row : Row} :
    (relation.withMembers members row).ref = row.ref := by
  cases relation <;> cases row <;> rfl

namespace Database

variable {d d' : Database} {row old : Row}

/-! ## Changes -/

/-- The same rows stand at the same places, up to columns that tie no rows together. -/
structure Alike (d d' : Database) : Prop where
  next : ∀ kind, d'.next kind = d.next kind
  ties : ∀ place, (d'.find? place).map Row.ties = (d.find? place).map Row.ties

/-- One change of the database. -/
inductive Evolves (d : Database) : Database → Prop where
  | stored {row : Row} {d' : Database} : d.store row = .ok d' → Evolves d d'
  | altered {d' : Database} : Alike d d' → Evolves d d'
  | deleted (roots : List Ref) : Evolves d (d.delete roots)
  | moved {old row : Row} {d' : Database} : d.move old row = .ok d' → Evolves d d'

/-- One change that neither takes a row away nor chooses a number: a row is stored over its older
form, or under the number that was next. -/
inductive Proceeds (d : Database) : Database → Prop where
  | altered {d' : Database} : Alike d d' → Proceeds d d'
  | replaced {row : Row} {d' : Database} : d.has row.ref = true → d.store row = .ok d' → Proceeds d d'
  | next {row : Row} {d' : Database} : row.id = d.next row.kind → d.store row = .ok d' → Proceeds d d'

theorem Proceeds.evolves (proceeds : Proceeds d d') : Evolves d d' := by
  cases proceeds with
  | altered alike => exact .altered alike
  | replaced _ stored | next _ stored => exact .stored stored

/-! ## Storing -/

/-- A row is stored exactly if no constraint forbids it. -/
theorem store_eq_ok_iff : d.store row = .ok d' ↔ d.violation? row = none ∧ d.put row = d' := by
  unfold store
  cases d.violation? row with
  | none => simp
  | some violation => simp

/-- The constraints in the order in which they are checked. -/
theorem violation?_eq_none_iff :
    d.violation? row = none ↔
      d.isFull row = false ∧ outOfRange? row = none ∧ d.sharedKey? row = none ∧
        d.linksHold row = true := by
  unfold violation?
  cases d.isFull row <;> cases outOfRange? row <;> cases d.sharedKey? row <;> cases d.linksHold row <;>
    simp

theorem linksHold_of_violation? (allowed : d.violation? row = none) : d.linksHold row = true :=
  (violation?_eq_none_iff.mp allowed).2.2.2

/-- Only cards and comments keep members, and with other members they are the same otherwise. -/
theorem withMembers_cases {relation : Relation} {id : Nat} (members : Members)
    (found : d.find? ⟨relation.kind, id⟩ = some row) :
    (∃ card likes favorites, d.cards.find? card.id = some card ∧
      relation.withMembers members row = .card { card with likes, favorites }) ∨
    ∃ comment likes reports, d.comments.find? comment.id = some comment ∧
      relation.withMembers members row = .comment { comment with likes, reports } := by
  cases relation with
  | cardLikes =>
      obtain ⟨card, here, rfl⟩ := Slot.card.find?_eq_some found
      exact .inl ⟨card, members, card.favorites, Table.find?_self here, rfl⟩
  | cardFavorites =>
      obtain ⟨card, here, rfl⟩ := Slot.card.find?_eq_some found
      exact .inl ⟨card, card.likes, members, Table.find?_self here, rfl⟩
  | commentLikes =>
      obtain ⟨comment, here, rfl⟩ := Slot.comment.find?_eq_some found
      exact .inr ⟨comment, members, comment.reports, Table.find?_self here, rfl⟩
  | commentReports =>
      obtain ⟨comment, here, rfl⟩ := Slot.comment.find?_eq_some found
      exact .inr ⟨comment, comment.likes, members, Table.find?_self here, rfl⟩

/-- A row that is there already needs no number. -/
theorem isFull_of_has (present : d.has row.ref = true) : d.isFull row = false := by
  simp [isFull, present]

/-- A new row needs a number that the database can hold. -/
theorem isFull_of_new (new : d.has row.ref = false) : d.isFull row = !inRange row.id := by
  simp [isFull, new]

theorem isFull_of_inRange (room : inRange row.id = true) : d.isFull row = false := by
  simp [isFull, room]

/-- A new row that shares no key, and of which every reference exists, takes only a number. -/
theorem violation?_new (new : d.has row.ref = false) (bounded : outOfRange? row = none)
    (unshared : d.sharedKey? row = none) (holds : d.linksHold row = true) :
    d.violation? row = none ↔ inRange row.id = true := by
  simp [violation?_eq_none_iff, isFull_of_new new, bounded, unshared, holds]

/-- A key is shared with a row of the same kind and another number. -/
theorem sharedKey?_eq_none_iff :
    d.sharedKey? row = none ↔
      ∀ key ∈ row.uniqueKeys, ∀ other ∈ d.rowsOf row.kind, other.id ≠ row.id →
        key ∉ other.uniqueKeys := by
  simp [sharedKey?]

/-- A row that was stored shares no more keys than before. -/
theorem sharedKey?_put_self (d : Database) (row : Row) :
    (d.put row).sharedKey? row = d.sharedKey? row := by
  have rows : (d.put row).rowsOf row.kind = ((d.tableOf row.kind).put row).rows :=
    congrArg Table.rows (tableOf_put d row)
  unfold sharedKey?
  congr 1
  funext key
  rw [Bool.eq_iff_iff, List.any_eq_true, List.any_eq_true, rows]
  constructor
  · rintro ⟨other, member, shares⟩
    rcases Table.mem_put.mp member with rfl | ⟨before, -⟩
    · simp at shares
    · exact ⟨other, before, shares⟩
  · rintro ⟨other, before, shares⟩
    have differs : other.id ≠ row.id := by simp_all
    exact ⟨other, Table.mem_put.mpr (.inr ⟨before, differs⟩), shares⟩

theorem storeFresh_eq_ok (stored : d.storeFresh row = .ok d') :
    d.has row.ref = false ∧ d.store row = .ok d' := by
  unfold storeFresh at stored
  split at stored
  · cases stored
  · split at stored
    · cases stored
    · rename_i vacant
      exact ⟨by simpa using vacant, stored⟩

/-- Adding squares adds the first one, if no constraint forbids it, and then the others. -/
theorem addAll_cons (cardId : Nat) (place : Nat × Nat) (rest : List (Nat × Nat)) (d : Database) :
    Cells.addAll cardId (place :: rest) d =
      (d.store (.cell { id := d.next .cell, cardId, x := place.1, y := place.2 })).bind
        (Cells.addAll cardId rest) := by
  obtain ⟨x, y⟩ := place
  rw [Cells.addAll]
  cases d.store (.cell { id := d.next .cell, cardId, x, y }) <;> rfl

/-- Adding squares writes nothing else. -/
theorem eq_of_addAll {cardId : Nat} {places : List (Nat × Nat)}
    (added : Cells.addAll cardId places d = .ok d') : d' = { d with cells := d'.cells } := by
  induction places generalizing d with
  | nil =>
      cases added
      rfl
  | cons place rest inductionHypothesis =>
      rw [addAll_cons] at added
      cases stored : d.store (.cell { id := d.next .cell, cardId, x := place.1, y := place.2 }) with
      | error =>
          rw [stored] at added
          cases added
      | ok =>
          rw [stored] at added
          obtain ⟨-, rfl⟩ := store_eq_ok_iff.mp stored
          have later := inductionHypothesis added
          exact later

/-! ## References -/

theorem linksHold_iff :
    d.linksHold row = true ↔
      (∀ link ∈ row.links, d.has link.target = true) ∧
        ∀ relation ∈ row.members, ∀ id ∈ relation.2, d.has ⟨.user, id⟩ = true := by
  simp [linksHold]

/-- Links that hold go on holding while no row disappears. -/
theorem linksHold_mono (kept : ∀ place, d.has place = true → d'.has place = true)
    (holds : d.linksHold row = true) : d'.linksHold row = true := by
  obtain ⟨links, members⟩ := linksHold_iff.mp holds
  refine linksHold_iff.mpr ⟨fun link member => kept _ (links link member), ?_⟩
  exact fun relation member id joined => kept _ (members relation member id joined)

theorem referential_iff_find? :
    d.Referential ↔ ∀ place row, d.find? place = some row → d.linksHold row = true := by
  constructor
  · intro sound place row found
    exact sound row (find?_eq_some_iff.mp found).1
  · intro sound row member
    exact sound row.ref row (find?_ref_of_mem member)

theorem has_put_of_has {place : Ref} (present : d.has place = true) :
    (d.put row).has place = true := by
  unfold has at present ⊢
  rw [find?_put]
  split
  · rfl
  · exact present

/-- A row that was stored may be stored once more. -/
theorem violation?_put_self (allowed : d.violation? row = none) :
    (d.put row).violation? row = none := by
  obtain ⟨-, ranged, unshared, holds⟩ := violation?_eq_none_iff.mp allowed
  refine violation?_eq_none_iff.mpr ⟨isFull_of_has ?_, ranged, ?_, ?_⟩
  · simp [has]
  · rw [sharedKey?_put_self, unshared]
  · exact linksHold_mono (fun _ present => has_put_of_has present) holds

/-- Storing a row that is there already changes nothing. -/
theorem put_eq_self (found : d.find? row.ref = some row) : d.put row = d := by
  have member : row ∈ d.rowsOf row.kind := mem_allRows.mp (find?_eq_some_iff.mp found).1
  cases row <;>
    · obtain ⟨part, present, same⟩ := List.mem_map.mp member
      cases same
      simp only [put, Table.put_eq_self present]

theorem put_put_self (d : Database) (row : Row) : (d.put row).put row = d.put row := by
  apply put_eq_self
  simp

/-- References go on holding if a row is stored whose own references hold. -/
theorem referential_put (sound : d.Referential) (holds : d.linksHold row = true) :
    (d.put row).Referential := by
  rw [referential_iff_find?] at sound ⊢
  intro place other found
  refine linksHold_mono (fun _ present => has_put_of_has present) ?_
  rw [find?_put] at found
  split at found
  · cases found
    exact holds
  · exact sound place other found

/-- References go on holding whatever row is stored. -/
theorem referential_store (sound : d.Referential) (stored : d.store row = .ok d') : d'.Referential := by
  obtain ⟨allowed, rfl⟩ := store_eq_ok_iff.mp stored
  exact referential_put sound (linksHold_of_violation? allowed)

/-- References go on holding where rows keep their places and links. -/
theorem referential_alike (sound : d.Referential) (alike : Alike d d') : d'.Referential := by
  rw [referential_iff_find?] at sound ⊢
  have kept : ∀ place, d.has place = true → d'.has place = true := by
    intro place present
    have same := congrArg Option.isSome (alike.ties place)
    rw [Option.isSome_map, Option.isSome_map] at same
    exact same.trans present
  intro place row found
  have same := alike.ties place
  rw [found] at same
  obtain ⟨old, foundOld, sameTies⟩ := Option.map_eq_some_iff.mp same.symm
  have holds := linksHold_mono kept (sound place old foundOld)
  have links : old.links = row.links := congrArg Prod.fst sameTies
  have members : old.members = row.members := congrArg (fun ties => ties.2.1) sameTies
  rw [linksHold_iff] at holds ⊢
  rwa [links, members] at holds

/-! ## Deletion -/

/-- An optional reference that survives names no place that goes. -/
theorem mem_filtered_link {gone : Ref → Bool} {kind : Kind} {target : Option Nat} {link : Link}
    (member : link ∈ (target.filter fun id => !gone ⟨kind, id⟩).toList.map fun id =>
      (⟨⟨kind, id⟩, .forget⟩ : Link)) :
    link ∈ (target.toList.map fun id => (⟨⟨kind, id⟩, .forget⟩ : Link)) ∧ gone link.target = false := by
  obtain ⟨id, kept, rfl⟩ := List.mem_map.mp member
  obtain ⟨rfl, stays⟩ := Option.filter_eq_some_iff.mp (Option.mem_toList.mp kept)
  exact ⟨by simp, by simpa using stays⟩

theorem kind_of_forget {link : Link} (member : link ∈ row.links) (forgets : link.onDelete = .forget) :
    row.kind = .card ∨ row.kind = .cardReport := by
  have forgetful : ∀ link ∈ row.links, link.onDelete = .forget →
      row.kind = .card ∨ row.kind = .cardReport := by
    cases row <;> simp [Row.links, Row.kind]
  exact forgetful link member forgets

/-- A survivor keeps no forgettable reference to a place that goes. -/
theorem links_bereft {gone : Ref → Bool} {link : Link} (member : link ∈ (row.bereft gone).links) :
    link ∈ row.links ∧ (link.onDelete = .forget → gone link.target = false) := by
  cases row with
  | card part =>
      obtain rfl | optional := List.mem_cons.mp member
      · refine ⟨by simp [Row.links], fun forgets => ?_⟩
        cases forgets
      · obtain ⟨linked, stays⟩ := mem_filtered_link optional
        exact ⟨List.mem_cons_of_mem _ linked, fun _ => stays⟩
  | cardReport part =>
      obtain rfl | optional := List.mem_cons.mp member
      · refine ⟨by simp [Row.links], fun forgets => ?_⟩
        cases forgets
      · obtain ⟨linked, stays⟩ := mem_filtered_link optional
        exact ⟨List.mem_cons_of_mem _ linked, fun _ => stays⟩
  | _ =>
      refine ⟨member, fun forgets => ?_⟩
      rcases kind_of_forget member forgets with kind | kind <;> cases kind

/-- A survivor keeps no member that goes. -/
theorem members_bereft {gone : Ref → Bool} {relation : String × List Nat} {id : Nat}
    (member : relation ∈ (row.bereft gone).members) (joined : id ∈ relation.2) :
    gone ⟨.user, id⟩ = false ∧ ∃ before ∈ row.members, id ∈ before.2 := by
  have kept : ∃ before ∈ row.members, relation.2 = before.2.filter fun id => !gone ⟨.user, id⟩ := by
    cases row with
    | card part =>
        obtain rfl | last := List.mem_cons.mp member
        · exact ⟨_, List.mem_cons_self, rfl⟩
        · rw [List.mem_singleton.mp last]
          exact ⟨_, List.mem_cons_of_mem _ List.mem_cons_self, rfl⟩
    | comment part =>
        obtain rfl | last := List.mem_cons.mp member
        · exact ⟨_, List.mem_cons_self, rfl⟩
        · rw [List.mem_singleton.mp last]
          exact ⟨_, List.mem_cons_of_mem _ List.mem_cons_self, rfl⟩
    | _ => cases member
  obtain ⟨before, isMember, same⟩ := kept
  rw [same, List.mem_filter] at joined
  exact ⟨by simpa using joined.2, before, isMember, joined.1⟩

theorem has_delete {roots : List Ref} {place : Ref} (present : d.has place = true)
    (stays : place ∉ d.closure roots) : (d.delete roots).has place = true := by
  unfold has at present ⊢
  rw [find?_delete, if_neg stays, Option.isSome_map]
  exact present

/-- References go on holding whatever is deleted: what refers to a row goes with it or forgets it.
-/
theorem referential_delete (sound : d.Referential) (roots : List Ref) :
    (d.delete roots).Referential := by
  rw [referential_iff_find?]
  intro place row found
  rw [find?_delete] at found
  split at found
  · cases found
  rename_i stays
  obtain ⟨old, foundOld, rfl⟩ := Option.map_eq_some_iff.mp found
  obtain ⟨member, rfl⟩ := find?_eq_some_iff.mp foundOld
  obtain ⟨links, members⟩ := linksHold_iff.mp (sound old member)
  refine linksHold_iff.mpr ⟨?_, ?_⟩
  · intro link kept
    obtain ⟨linked, forgotten⟩ := links_bereft kept
    refine has_delete (links link linked) fun goes => ?_
    obtain ⟨target, onDelete⟩ := link
    cases onDelete with
    | cascade => exact stays (closure_saturated member goes linked)
    | forget => simpa [goes] using forgotten rfl
  · intro relation kept id joined
    obtain ⟨remains, before, isMember, joinedBefore⟩ := members_bereft kept joined
    refine has_delete (members before isMember id joinedBefore) fun goes => ?_
    simp [goes] at remains

/-! ## Moving -/

theorem holdsOnTo_eq_false_iff {place : Ref} :
    holdsOnTo place row = false ↔
      (∀ link ∈ row.links, link.target ≠ place) ∧
        ∀ relation ∈ row.members, ∀ id ∈ relation.2, (⟨.user, id⟩ : Ref) ≠ place := by
  simp [holdsOnTo]

theorem has_without {place gone : Ref} (present : d.has place = true) (other : place ≠ gone) :
    (d.without gone).has place = true := by
  unfold has at present ⊢
  rw [find?_without, if_neg other]
  exact present

/-- Nothing that stays held on to the place that a row left. -/
theorem referential_move (sound : d.Referential) (moved : d.move old row = .ok d') :
    d'.Referential := by
  unfold move at moved
  split at moved
  · cases moved
  rename_i stored
  split at moved
  · cases moved
  rename_i free
  cases moved
  refine referential_store ?_ (storeFresh_eq_ok stored).2
  have loose : ∀ other ∈ d.allRows, holdsOnTo old.ref other = false := by
    simp only [Bool.or_eq_true, not_or, Bool.not_eq_true, List.any_eq_false] at free
    exact fun other member => by simpa using free.1 other member
  rw [referential_iff_find?]
  intro place other found
  rw [find?_without] at found
  split at found
  · cases found
  obtain ⟨member, -⟩ := find?_eq_some_iff.mp found
  obtain ⟨links, members⟩ := linksHold_iff.mp (sound other member)
  obtain ⟨linkedElsewhere, joinedElsewhere⟩ := holdsOnTo_eq_false_iff.mp (loose other member)
  refine linksHold_iff.mpr ⟨fun link linked => ?_, fun relation kept id joined => ?_⟩
  · exact has_without (links link linked) (linkedElsewhere link linked)
  · exact has_without (members relation kept id joined) (joinedElsewhere relation kept id joined)

/-! ## Altering -/

/-- A row is stored over one that is tied alike. -/
theorem alike_put (found : d.find? row.ref = some old) (same : row.ties = old.ties) :
    Alike d (d.put row) where
  next kind := by
    have below := id_lt_next found
    rw [next_put]
    split
    · rename_i sameKind
      subst sameKind
      exact Nat.max_eq_left below
    · rfl
  ties place := by
    rw [find?_put]
    split
    · rename_i here
      rw [← here, found, Option.map_some, Option.map_some, same]
    · rfl

/-- A row that is stored again with the same links leaves the database alike. -/
theorem Slot.alike_put {α : Type} [Numbered α] (slot : Slot α) {id : Nat} {part new : α}
    (found : (slot.table d).find? id = some part) (sameId : Numbered.id new = Numbered.id part)
    (same : (slot.inject new).ties = (slot.inject part).ties) : Alike d (d.put (slot.inject new)) := by
  refine Database.alike_put ?_ same
  rw [slot.inject_ref, sameId, slot.find?_eq, Table.find?_self found]
  rfl

/-- Storing a row again with the same links proceeds. -/
theorem Slot.proceeds_store {α : Type} [Numbered α] (slot : Slot α) {id : Nat} {part new : α}
    (found : (slot.table d).find? id = some part) (stored : d.store (slot.inject new) = .ok d')
    (same : Numbered.id new = Numbered.id part) : Proceeds d d' := by
  refine .replaced (has_iff.mpr ⟨slot.inject part, ?_⟩) stored
  rw [slot.inject_ref, same]
  exact slot.find?_inject (Table.find?_self found)

/-- The rows of one table are changed, and stay tied as they were. -/
theorem Slot.alike {α : Type} [Numbered α] (slot : Slot α) {f : α → α}
    (keeps : ∀ part, Numbered.id (f part) = Numbered.id part)
    (here : slot.table d' = (slot.table d).map f keeps)
    (there : ∀ kind, kind ≠ slot.kind → d'.tableOf kind = d.tableOf kind)
    (same : ∀ part, (slot.inject (f part)).ties = (slot.inject part).ties) : Alike d d' where
  next kind := by
    by_cases sameKind : kind = slot.kind
    · subst sameKind
      rw [slot.next_eq, slot.next_eq, here]
      rfl
    · exact congrArg Table.next (there kind sameKind)
  ties place := by
    by_cases sameKind : place.kind = slot.kind
    · obtain ⟨kind, id⟩ := place
      cases sameKind
      rw [slot.find?_eq, slot.find?_eq, here, Table.find?_map]
      cases (slot.table d).find? id with
      | none => rfl
      | some part => exact congrArg some (same part)
    · rw [find?_eq_tableOf, there _ sameKind, find?_eq_tableOf]

theorem alike_noteLogin (id : Nat) (now : Instant) : Alike d (Account.noteLogin id now d) := by
  refine Slot.user.alike (by intro part; split <;> rfl) rfl (fun kind other => ?_) fun user => ?_
  · cases kind with
    | user => exact absurd rfl other
    | _ => rfl
  · split <;> rfl

theorem alike_blockCardsOf (user : Nat) : Alike d (Moderation.blockCardsOf user d) := by
  refine Slot.card.alike (by intro part; split <;> rfl) rfl (fun kind other => ?_) fun card => ?_
  · cases kind with
    | card => exact absurd rfl other
    | _ => rfl
  · split <;> rfl

theorem alike_blockCommentsOf (user : Nat) : Alike d (Moderation.blockCommentsOf user d) := by
  refine Slot.comment.alike (by intro part; split <;> rfl) rfl (fun kind other => ?_) fun comment => ?_
  · cases kind with
    | comment => exact absurd rfl other
    | _ => rfl
  · split <;> rfl

theorem alike_settleIn (verdict : Web.Verdict) (ids : List Nat) :
    Alike d (Web.settleIn verdict ids d) := by
  refine Slot.cardReport.alike (by intro part; split <;> rfl) rfl (fun kind other => ?_) fun report => ?_
  · cases kind with
    | cardReport => exact absurd rfl other
    | _ => rfl
  · split <;> rfl

/-! ## Every change keeps references -/

/-- References hold after every change if they held before it. -/
theorem Evolves.referential (evolves : Evolves d d') (sound : d.Referential) : d'.Referential := by
  cases evolves with
  | stored stored => exact referential_store sound stored
  | altered alike => exact referential_alike sound alike
  | deleted roots => exact referential_delete sound roots
  | moved moved => exact referential_move sound moved

end Database

/-! ## Inserting twice -/

namespace Action

variable {kind : Kind} {build : Nat → Row}

/-- Storing an inserted row once more changes nothing. -/
theorem run_insertTwice (w : World) : (insertTwice kind build).run w = (insert kind build).run w := by
  simp only [insertTwice, insert, save, run_bind, run_get, run_commit]
  cases mode : w.mode with
  | ok =>
      cases stored : w.database.store (build (w.database.next kind)) with
      | error violation => simp
      | ok d' =>
          obtain ⟨allowed, rfl⟩ := Database.store_eq_ok_iff.mp stored
          have again : (w.database.put (build (w.database.next kind))).store
              (build (w.database.next kind)) = .ok (w.database.put (build (w.database.next kind))) :=
            Database.store_eq_ok_iff.mpr
              ⟨Database.violation?_put_self allowed, Database.put_put_self _ _⟩
          simp [again]
  | readOnly | offline => simp

theorem Obeys.insertTwice {moves : Database → Database → Prop} {before : Database → Prop}
    (moved : ∀ d d', before d → d.store (build (d.next kind)) = .ok d' → moves d d') :
    (insertTwice kind build).Obeys moves before fun _ _ => True := by
  intro w start
  rw [run_insertTwice]
  exact Obeys.insert moved w start

end Action

/-! ## Moderation -/

namespace Moderation

open Database

variable {moves : Database → Database → Prop} {before : Database → Prop} {id : Nat}

theorem safeBlockComment_obeys
    (moved : ∀ d comment, d.comments.find? id = some comment →
      moves d (d.put (.comment { comment with isBlocked := true }))) :
    (safeBlockComment (some id)).Obeys moves before fun _ _ => True := by
  refine .succeeds (.touch fun d number row _ same found => ?_)
  cases same
  obtain ⟨comment, here, rfl⟩ := Slot.comment.find?_eq_some found
  exact moved d comment here

theorem safeUnblockCard_obeys
    (moved : ∀ d card, d.cards.find? id = some card →
      moves d (d.put (.card { card with isBlocked := false }))) :
    (safeUnblockCard (some id)).Obeys moves before fun _ _ => True := by
  refine .succeeds (.touch fun d number row _ same found => ?_)
  cases same
  obtain ⟨card, here, rfl⟩ := Slot.card.find?_eq_some found
  exact moved d card here

theorem safeBan_obeys
    (moved : ∀ d user, d.users.find? id = some user →
      moves d (d.put (.user { user with isActive := false })))
    (cards : ∀ d, moves d (blockCardsOf id d)) (comments : ∀ d, moves d (blockCommentsOf id d)) :
    (safeBan (some id)).Obeys moves before fun _ _ => True := by
  refine .succeeds (Action.Obeys.seq (.touch fun d number row _ same found => ?_) fun _ => ?_)
  · cases same
    obtain ⟨user, here, rfl⟩ := Slot.user.find?_eq_some found
    exact moved d user here
  · exact Action.Obeys.seq (.mutate fun d _ => cards d) fun _ => .mutate fun d _ => comments d

end Moderation

end GridCommons.Site
