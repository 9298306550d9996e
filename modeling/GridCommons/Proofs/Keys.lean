import Mathlib.Data.List.Nodup
import GridCommons.Proofs.Integrity

/-!
Contract: rows that no two may share.

Owns:
- that no two rows of a kind share a key, and that every change of the database keeps it so;
- what this says of each table.

Does not own: the numbers of rows.
-/

namespace GridCommons.Site

namespace Database

variable {d d' : Database} {row old : Row}

/-- No two rows of a kind share a key. -/
def Keyed (d : Database) : Prop :=
  ∀ kind id rivalId row rival, d.find? ⟨kind, id⟩ = some row → d.find? ⟨kind, rivalId⟩ = some rival →
    rivalId ≠ id → ∀ key ∈ row.uniqueKeys, key ∉ rival.uniqueKeys

/-! ## Changes -/

/-- A row that shares no key may be stored. -/
theorem Keyed.put (keyed : d.Keyed) (unshared : d.sharedKey? row = none) : (d.put row).Keyed := by
  have apart : ∀ kind id rival, d.find? ⟨kind, id⟩ = some rival → kind = row.kind → id ≠ row.id →
      ∀ key ∈ row.uniqueKeys, key ∉ rival.uniqueKeys := by
    rintro kind id rival found rfl differs key own
    obtain ⟨member, place⟩ := find?_eq_some_iff.mp found
    have sameKind : rival.kind = row.kind := congrArg Ref.kind place
    have sameId : rival.id = id := congrArg Ref.id place
    refine sharedKey?_eq_none_iff.mp unshared key own rival ?_ (sameId ▸ differs)
    rw [← sameKind]
    exact mem_allRows.mp member
  intro kind id rivalId first second found foundRival differs key own shared
  rw [find?_put] at found foundRival
  -- the row that is stored may be either of the two
  split at found <;> split at foundRival
  · rename_i here there
    exact differs (congrArg Ref.id (there.symm.trans here))
  · rename_i here _
    cases here
    cases found
    exact apart row.kind rivalId second foundRival rfl differs key own shared
  · rename_i _ there
    cases there
    cases foundRival
    exact apart row.kind id first found rfl differs.symm key shared own
  · exact keyed kind id rivalId first second found foundRival differs key own shared

/-- Rows that were there before, with no more keys than they had, share none. -/
theorem Keyed.of_fewer (keyed : d.Keyed)
    (fewer : ∀ place row, d'.find? place = some row →
      ∃ old, d.find? place = some old ∧ ∀ key ∈ row.uniqueKeys, key ∈ old.uniqueKeys) : d'.Keyed := by
  intro kind id rivalId first second found foundRival differs key own shared
  obtain ⟨before, stood, keys⟩ := fewer _ _ found
  obtain ⟨rival, rivalStood, rivalKeys⟩ := fewer _ _ foundRival
  exact keyed kind id rivalId before rival stood rivalStood differs key (keys key own)
    (rivalKeys key shared)

/-- A row that forgets others has no new keys. -/
theorem uniqueKeys_bereft (gone : Ref → Bool) (row : Row) :
    ∀ key ∈ (row.bereft gone).uniqueKeys, key ∈ row.uniqueKeys := by
  cases row with
  | card part =>
      intro key own
      obtain ⟨id, kept, rfl⟩ := List.mem_map.mp own
      have named := (Option.filter_eq_some_iff.mp (Option.mem_toList.mp kept)).1
      exact List.mem_map.mpr ⟨id, Option.mem_toList.mpr named, rfl⟩
  | _ => exact fun _ own => own

theorem Keyed.delete (keyed : d.Keyed) (roots : List Ref) : (d.delete roots).Keyed := by
  apply keyed.of_fewer
  intro place row found
  rw [find?_delete] at found
  split at found
  · cases found
  · obtain ⟨old, stood, rfl⟩ := Option.map_eq_some_iff.mp found
    exact ⟨old, stood, uniqueKeys_bereft _ old⟩

theorem Keyed.alike (keyed : d.Keyed) (alike : Alike d d') : d'.Keyed := by
  apply keyed.of_fewer
  intro place row found
  have same := alike.ties place
  rw [found] at same
  obtain ⟨old, stood, ties⟩ := Option.map_eq_some_iff.mp same.symm
  have keys : old.uniqueKeys = row.uniqueKeys := congrArg (fun ties => ties.2.2) ties
  exact ⟨old, stood, fun key own => keys ▸ own⟩

theorem Keyed.without (keyed : d.Keyed) (gone : Ref) : (d.without gone).Keyed := by
  apply keyed.of_fewer
  intro place row found
  rw [find?_without] at found
  split at found
  · cases found
  · exact ⟨row, found, fun _ own => own⟩

/-- Keys stay unique whatever is stored. -/
theorem Keyed.store (keyed : d.Keyed) (stored : d.store row = .ok d') : d'.Keyed := by
  obtain ⟨allowed, rfl⟩ := store_eq_ok_iff.mp stored
  exact keyed.put (violation?_eq_none_iff.mp allowed).2.2.1

theorem Keyed.move (keyed : d.Keyed) (moved : d.move old row = .ok d') : d'.Keyed := by
  unfold Database.move at moved
  split at moved
  · cases moved
  rename_i stored
  split at moved
  · cases moved
  · cases moved
    exact (keyed.without old.ref).store (storeFresh_eq_ok stored).2

/-- Keys are unique after every change if they were before it. -/
theorem Evolves.keyed (evolves : Evolves d d') (keyed : d.Keyed) : d'.Keyed := by
  cases evolves with
  | stored stored => exact keyed.store stored
  | altered alike => exact keyed.alike alike
  | deleted roots => exact keyed.delete roots
  | moved moved => exact keyed.move moved

theorem keyed_of_evolves (run : Relation.ReflTransGen Evolves d d') (keyed : d.Keyed) : d'.Keyed := by
  induction run with
  | refl => exact keyed
  | tail _ evolves inductionHypothesis => exact evolves.keyed inductionHypothesis

/-! ## Tables -/

section Tables

variable {α β : Type} [Numbered α]

/-- Values that a key holds are different in different rows. -/
theorem Keyed.nodup_filterMap (keyed : d.Keyed) (slot : Slot α) {column : α → Option β}
    (key : β → UniqueKey)
    (holds : ∀ part value, column part = some value → key value ∈ (slot.inject part).uniqueKeys) :
    ((slot.table d).rows.filterMap column).Nodup := by
  apply List.pairwise_filterMap.mpr
  refine (slot.table d).ascending.imp_of_mem fun {earlier later} first second below => ?_
  rintro value early _ late rfl
  have found := slot.find?_inject (Table.find?_eq_some_iff.mpr ⟨first, rfl⟩)
  have foundLater := slot.find?_inject (Table.find?_eq_some_iff.mpr ⟨second, rfl⟩)
  exact keyed _ _ _ _ _ found foundLater (Nat.ne_of_gt below) (key value) (holds earlier value early)
    (holds later value late)

/-- A column whose values are keys has no value twice. -/
theorem Keyed.nodup_map (keyed : d.Keyed) (slot : Slot α) {column : α → β} (key : β → UniqueKey)
    (holds : ∀ part, key (column part) ∈ (slot.inject part).uniqueKeys) :
    ((slot.table d).rows.map column).Nodup := by
  rw [← List.filterMap_eq_map]
  apply keyed.nodup_filterMap slot key
  rintro part _ ⟨⟩
  exact holds part

end Tables

/-- No pair is in a relation twice. -/
theorem nodup_pairs (d : Database) (relation : Relation) : (d.pairs relation).Nodup := by
  apply List.nodup_flatMap.mpr
  constructor
  · intro row _
    have members : (relation.members row).ids.Nodup :=
      (relation.members row).ascending.imp fun below => Nat.ne_of_lt below
    exact members.map fun _ _ same => (Prod.mk.inj same).2
  · refine (d.rowsOf_ascending relation.kind).imp fun {earlier later} below pair first second => ?_
    obtain ⟨_, -, rfl⟩ := List.mem_map.mp first
    obtain ⟨_, -, same⟩ := List.mem_map.mp second
    exact Nat.ne_of_gt below (Prod.mk.inj same).1

/-- What has to be unique is: names of users, squares of a card, dated marks of a user, files of
cards, and pairs of a relation. -/
structure Unrepeated (d : Database) : Prop where
  usernames : (d.users.rows.map User.username).Nodup
  cells : (d.cells.rows.map fun cell => (cell.cardId, cell.x, cell.y)).Nodup
  cardLikes : (d.cardLikes.rows.map fun mark => (mark.userId, mark.cardId)).Nodup
  cardFavorites : (d.cardFavorites.rows.map fun mark => (mark.userId, mark.cardId)).Nodup
  commentLikes : (d.commentLikes.rows.map fun mark => (mark.userId, mark.commentId)).Nodup
  files : (d.cards.rows.filterMap Card.fileId).Nodup
  pairs : ∀ relation, (d.pairs relation).Nodup

theorem Keyed.unrepeated (keyed : d.Keyed) : d.Unrepeated where
  usernames := keyed.nodup_map .user (fun name => ⟨["username"], [.text name]⟩) fun _ =>
    List.mem_singleton_self _
  cells := keyed.nodup_map .cell
    (fun place => ⟨["field_id", "x", "y"], [.number place.1, .number place.2.1, .number place.2.2]⟩)
    fun _ => List.mem_singleton_self _
  cardLikes := keyed.nodup_map .cardLike
    (fun pair => ⟨["user_id", "field_id"], [.number pair.1, .number pair.2]⟩) fun _ =>
    List.mem_singleton_self _
  cardFavorites := keyed.nodup_map .cardFavorite
    (fun pair => ⟨["user_id", "field_id"], [.number pair.1, .number pair.2]⟩) fun _ =>
    List.mem_singleton_self _
  commentLikes := keyed.nodup_map .commentLike
    (fun pair => ⟨["user_id", "comment_id"], [.number pair.1, .number pair.2]⟩) fun _ =>
    List.mem_singleton_self _
  files := keyed.nodup_filterMap .card (fun id => ⟨["file_id"], [.number id]⟩) fun card id kept => by
    simp [Slot.card, Row.uniqueKeys, kept]
  pairs := nodup_pairs d

theorem keyed_empty : ({} : Database).Keyed := by
  intro kind id _ row _ found
  have member : row ∈ [] := (find?_eq_some_iff.mp found).1
  cases member

end Database

end GridCommons.Site

namespace GridCommons

open Site

/-- Whatever steps are taken from the empty site, nothing that has to be unique is there twice. -/
theorem runSteps_unrepeated (steps : List Step) (now : Instant) :
    (runSteps steps { now }).2.database.Unrepeated :=
  (Database.keyed_of_evolves (runSteps_evolves steps { now }) Database.keyed_empty).unrepeated

end GridCommons
