import GridCommons.Site.Database

/-!
Contract: the database as one map from places to rows.

Owns:
- the table of a kind as a table of rows of any kind;
- look-up by place after a row is stored, changed or left out;
- the bridge from a place to the typed table it lies in.

Does not own: which rows may be stored, and which a deletion takes.  Both are told in
terms of the look-up that is described here.
-/

namespace GridCommons.Site

instance : Numbered Row := ⟨Row.id⟩

@[simp] theorem numbered_row (row : Row) : Numbered.id row = row.id := rfl

theorem Kind.mem_all (kind : Kind) : kind ∈ Kind.all := by
  cases kind <;> decide

namespace Table

variable {α β : Type} [Numbered α] [Numbered β]

/-- Placing commutes with a map that keeps numbers. -/
theorem map_place (f : α → β) (keeps : ∀ row, Numbered.id (f row) = Numbered.id row) (row : α)
    (rows : List α) : (place row rows).map f = place (f row) (rows.map f) := by
  induction rows with
  | nil => rfl
  | cons first rest inductionHypothesis =>
      simp only [place, List.map_cons, keeps]
      split
      · rfl
      · split
        · rfl
        · rw [List.map_cons, inductionHypothesis]

theorem find?_rows_map (t : Table α) (f : α → β)
    (keeps : ∀ row, Numbered.id (f row) = Numbered.id row) (id : Nat) :
    ((t.rows.map f).find? fun row => Numbered.id row == id) = (t.find? id).map f := by
  rw [List.find?_map]
  unfold find?
  congr 2
  funext row
  simp [keeps]

theorem find?_self {t : Table α} {id : Nat} {row : α} (found : t.find? id = some row) :
    t.find? (Numbered.id row) = some row := by
  rw [(find?_eq_some_iff.mp found).2]
  exact found

theorem find?_next (t : Table α) : t.find? t.next = none := by
  cases found : t.find? t.next with
  | none => rfl
  | some row => exact absurd (lt_next_of_find? found) (Nat.lt_irrefl _)

theorem mem_iff_find? {t : Table α} {row : α} :
    row ∈ t.rows ↔ t.find? (Numbered.id row) = some row := by
  simp [find?_eq_some_iff]

theorem mem_put {t : Table α} {row other : α} :
    other ∈ (t.put row).rows ↔ other = row ∨ other ∈ t.rows ∧ Numbered.id other ≠ Numbered.id row := by
  rw [mem_iff_find?, mem_iff_find?, find?_put]
  split
  · rename_i same
    simp [same, eq_comm]
  · rename_i differs
    constructor
    · exact fun there => .inr ⟨there, Ne.symm differs⟩
    · rintro (rfl | ⟨there, -⟩)
      · exact absurd rfl differs
      · exact there

/-- Placing a row drops no row with another number. -/
theorem mem_place_of_ne {row other : α} {rows : List α} (member : other ∈ rows)
    (differs : Numbered.id other ≠ Numbered.id row) :
    other ∈ place row rows := by
  induction rows with
  | nil => cases member
  | cons first rest inductionHypothesis =>
      unfold place
      split
      · exact List.mem_cons_of_mem _ member
      · split
        · rename_i same
          rcases List.mem_cons.mp member with rfl | later
          · exact absurd same.symm differs
          · exact List.mem_cons_of_mem _ later
        · rcases List.mem_cons.mp member with rfl | later
          · exact List.mem_cons_self
          · exact List.mem_cons_of_mem _ (inductionHypothesis later)

theorem place_eq_self {row : α} {rows : List α}
    (ascending : rows.Pairwise fun earlier later => Numbered.id earlier < Numbered.id later)
    (member : row ∈ rows) : place row rows = rows := by
  induction rows with
  | nil => cases member
  | cons first rest inductionHypothesis =>
      obtain ⟨beforeRest, restAscending⟩ := List.pairwise_cons.mp ascending
      rcases List.mem_cons.mp member with rfl | later
      · simp [place]
      · have below := beforeRest row later
        rw [place, if_neg (by omega), if_neg (by omega), inductionHypothesis restAscending later]

/-- A row with a number above all others comes last. -/
theorem place_eq_append {row : α} {rows : List α}
    (above : ∀ other ∈ rows, Numbered.id other < Numbered.id row) : place row rows = rows ++ [row] := by
  induction rows with
  | nil => rfl
  | cons first rest inductionHypothesis =>
      obtain ⟨below, later⟩ := List.forall_mem_cons.mp above
      rw [place, if_neg (by omega), if_neg (by omega), inductionHypothesis later, List.cons_append]

/-- A row under the next number comes last. -/
theorem rows_put_new {t : Table α} {row : α} (new : Numbered.id row = t.next) :
    (t.put row).rows = t.rows ++ [row] :=
  place_eq_append fun other member => new ▸ t.given other member

theorem eq_of_rows_of_next {left right : Table α} (rows : left.rows = right.rows)
    (next : left.next = right.next) : left = right := by
  cases left
  cases right
  simp_all

/-- The rows are told by look-up. -/
theorem rows_eq_of_find?_eq {t t' : Table α}
    (same : ∀ id, t'.find? id = t.find? id) : t'.rows = t.rows := by
  have members : ∀ row, row ∈ t'.rows ↔ row ∈ t.rows := by
    intro row
    rw [mem_iff_find?, mem_iff_find?, same]
  have differ : ∀ {t : Table α}, t.rows.Nodup := by
    intro t
    apply t.ascending.imp
    rintro earlier later below rfl
    exact absurd below (Nat.lt_irrefl _)
  have perm := (List.perm_ext_iff_of_nodup differ differ).mpr members
  apply perm.eq_of_pairwise _ t'.ascending t.ascending
  intro earlier later _ _ below above
  exact absurd (Nat.lt_trans below above) (Nat.lt_irrefl _)

/-- Storing a row that is there already changes nothing. -/
theorem put_eq_self {t : Table α} {row : α} (member : row ∈ t.rows) : t.put row = t := by
  apply eq_of_rows_of_next
  · exact place_eq_self t.ascending member
  · have given := t.given row member
    rw [next_put]
    omega

end Table

namespace Database

theorem Slot.inject_id {α : Type} [Numbered α] (slot : Slot α) (part : α) :
    Numbered.id (slot.inject part) = Numbered.id part :=
  congrArg Ref.id (slot.inject_ref part)

theorem Slot.inject_kind {α : Type} [Numbered α] (slot : Slot α) (part : α) :
    (slot.inject part).kind = slot.kind :=
  congrArg Ref.kind (slot.inject_ref part)

/-- What holds of the kind of every table holds of every kind. -/
theorem forall_kind_of_slots {motive : Kind → Prop}
    (each : ∀ {α : Type} [Numbered α] (slot : Slot α), motive slot.kind) (kind : Kind) :
    motive kind := by
  cases kind with
  | user => exact each Slot.user
  | profileNote => exact each Slot.profileNote
  | attachment => exact each Slot.attachment
  | card => exact each Slot.card
  | cell => exact each Slot.cell
  | wall => exact each Slot.wall
  | comment => exact each Slot.comment
  | cardLike => exact each Slot.cardLike
  | cardFavorite => exact each Slot.cardFavorite
  | commentLike => exact each Slot.commentLike
  | commentFlag => exact each Slot.commentFlag
  | cardReport => exact each Slot.cardReport

/-- What holds of the rows of every table holds of every row. -/
theorem forall_row_of_slots {motive : Row → Prop}
    (each : ∀ {α : Type} [Numbered α] (slot : Slot α) (part : α), motive (slot.inject part))
    (row : Row) : motive row := by
  cases row with
  | user part => exact each Slot.user part
  | profileNote part => exact each Slot.profileNote part
  | attachment part => exact each Slot.attachment part
  | card part => exact each Slot.card part
  | cell part => exact each Slot.cell part
  | wall part => exact each Slot.wall part
  | comment part => exact each Slot.comment part
  | cardLike part => exact each Slot.cardLike part
  | cardFavorite part => exact each Slot.cardFavorite part
  | commentLike part => exact each Slot.commentLike part
  | commentFlag part => exact each Slot.commentFlag part
  | cardReport part => exact each Slot.cardReport part

theorem kind_of_mem_rowsOf {d : Database} {kind : Kind} {row : Row} (member : row ∈ d.rowsOf kind) :
    row.kind = kind := by
  revert member
  refine forall_kind_of_slots (motive := fun kind => row ∈ d.rowsOf kind → row.kind = kind) ?_ kind
  intro α _ slot member
  rw [slot.rowsOf_eq] at member
  obtain ⟨part, -, rfl⟩ := List.mem_map.mp member
  exact slot.inject_kind part

theorem mem_allRows {d : Database} {row : Row} : row ∈ d.allRows ↔ row ∈ d.rowsOf row.kind := by
  unfold allRows
  constructor
  · intro member
    obtain ⟨kind, -, inKind⟩ := List.mem_flatMap.mp member
    rwa [kind_of_mem_rowsOf inKind]
  · intro member
    exact List.mem_flatMap.mpr ⟨row.kind, Kind.mem_all _, member⟩

/-! ## The table of a kind -/

theorem rowsOf_ascending (d : Database) (kind : Kind) :
    (d.rowsOf kind).Pairwise fun earlier later => earlier.id < later.id := by
  refine forall_kind_of_slots (motive := fun kind =>
    (d.rowsOf kind).Pairwise fun earlier later => earlier.id < later.id) ?_ kind
  intro α _ slot
  rw [slot.rowsOf_eq, List.pairwise_map]
  refine (slot.table d).ascending.imp ?_
  intro earlier later below
  have left := slot.inject_id earlier
  have right := slot.inject_id later
  simp only [numbered_row] at left right
  omega

/-- The rows of a kind and its next number, as one table. -/
def tableOf (d : Database) (kind : Kind) : Table Row where
  rows := d.rowsOf kind
  next := d.next kind
  ascending := d.rowsOf_ascending kind
  given := by
    intro row member
    cases kind <;>
      · obtain ⟨part, present, rfl⟩ := List.mem_map.mp member
        exact Table.given _ part present

theorem find?_eq_tableOf (d : Database) (place : Ref) :
    d.find? place = (d.tableOf place.kind).find? place.id :=
  rfl

/-- A place finds exactly the row that stands there. -/
theorem find?_eq_some_iff {d : Database} {place : Ref} {row : Row} :
    d.find? place = some row ↔ row ∈ d.allRows ∧ row.ref = place := by
  rw [find?_eq_tableOf, Table.find?_eq_some_iff, mem_allRows]
  constructor
  · rintro ⟨member, sameId⟩
    have sameKind := kind_of_mem_rowsOf member
    refine ⟨by rwa [sameKind], ?_⟩
    cases place
    exact congr (congrArg Ref.mk sameKind) sameId
  · rintro ⟨member, rfl⟩
    exact ⟨member, rfl⟩

theorem find?_ref_of_mem {d : Database} {row : Row} (member : row ∈ d.allRows) :
    d.find? row.ref = some row :=
  find?_eq_some_iff.mpr ⟨member, rfl⟩

theorem has_iff {d : Database} {place : Ref} : d.has place = true ↔ ∃ row, d.find? place = some row :=
  Option.isSome_iff_exists

/-! ## Look-up after a change -/

theorem tableOf_put (d : Database) (row : Row) :
    (d.put row).tableOf row.kind = (d.tableOf row.kind).put row := by
  refine forall_row_of_slots
    (motive := fun row => (d.put row).tableOf row.kind = (d.tableOf row.kind).put row) ?_ row
  intro α _ slot part
  have sameId : (slot.inject part).id = Numbered.id part := slot.inject_id part
  apply Table.eq_of_rows_of_next
  · change (d.put _).rowsOf _ = Table.place _ (d.rowsOf _)
    rw [slot.inject_kind, slot.rowsOf_eq, slot.rowsOf_eq, slot.table_put]
    exact Table.map_place slot.inject slot.inject_id part _
  · change (d.put _).next _ = max (d.next _) ((slot.inject part).id + 1)
    rw [slot.inject_kind, slot.next_eq, slot.next_eq, slot.table_put, sameId]
    rfl

theorem tableOf_put_of_ne (d : Database) {row : Row} {kind : Kind} (differs : row.kind ≠ kind) :
    (d.put row).tableOf kind = d.tableOf kind := by
  apply Table.eq_of_rows_of_next
  · cases row <;> cases kind <;> first | rfl | exact absurd rfl differs
  · cases row <;> cases kind <;> first | rfl | exact absurd rfl differs

@[simp] theorem find?_put (d : Database) (row : Row) (place : Ref) :
    (d.put row).find? place = if row.ref = place then some row else d.find? place := by
  rw [find?_eq_tableOf, find?_eq_tableOf]
  by_cases sameKind : row.kind = place.kind
  · rw [← sameKind, tableOf_put, Table.find?_put]
    cases place
    simp_all [Row.ref]
  · rw [tableOf_put_of_ne d sameKind, if_neg (fun same => sameKind (congrArg Ref.kind same))]

theorem next_put (d : Database) (row : Row) (kind : Kind) :
    (d.put row).next kind = if row.kind = kind then max (d.next kind) (row.id + 1) else d.next kind := by
  by_cases sameKind : row.kind = kind
  · subst sameKind
    rw [if_pos rfl]
    exact congrArg Table.next (tableOf_put d row)
  · rw [if_neg sameKind]
    exact congrArg Table.next (tableOf_put_of_ne d sameKind)

/-- A table of one kind, changed as rows of any kind or as rows of its own. -/
theorem Slot.rows_mapTable {α : Type} [Numbered α] (slot : Slot α) (d : Database)
    (f : Row → Option Row) (keeps : ∀ row kept, f row = some kept → kept.ref = row.ref) :
    (slot.mapTable f keeps d).rows.map slot.inject = (d.rowsOf slot.kind).filterMap f := by
  rw [slot.rowsOf_eq, List.filterMap_map]
  unfold mapTable Table.filterMap
  rw [List.map_filterMap]
  congr 1
  funext part
  simp only [Function.comp]
  cases changed : f (slot.inject part) with
  | none => rfl
  | some kept =>
      have sameKind : kept.kind = slot.kind := by
        rw [← slot.inject_kind part]
        exact congrArg Ref.kind (keeps _ _ changed)
      obtain ⟨keptPart, projected⟩ := Option.isSome_iff_exists.mp (slot.project_isSome sameKind)
      rw [Option.bind_some, projected, Option.map_some, slot.inject_project projected]

theorem rowsOf_mapRows (d : Database) (f : Row → Option Row)
    (keeps : ∀ row kept, f row = some kept → kept.ref = row.ref) (kind : Kind) :
    (d.mapRows f keeps).rowsOf kind = (d.rowsOf kind).filterMap f := by
  cases kind with
  | user => exact Slot.user.rows_mapTable d f keeps
  | profileNote => exact Slot.profileNote.rows_mapTable d f keeps
  | attachment => exact Slot.attachment.rows_mapTable d f keeps
  | card => exact Slot.card.rows_mapTable d f keeps
  | cell => exact Slot.cell.rows_mapTable d f keeps
  | wall => exact Slot.wall.rows_mapTable d f keeps
  | comment => exact Slot.comment.rows_mapTable d f keeps
  | cardLike => exact Slot.cardLike.rows_mapTable d f keeps
  | cardFavorite => exact Slot.cardFavorite.rows_mapTable d f keeps
  | commentLike => exact Slot.commentLike.rows_mapTable d f keeps
  | commentFlag => exact Slot.commentFlag.rows_mapTable d f keeps
  | cardReport => exact Slot.cardReport.rows_mapTable d f keeps

theorem next_mapRows (d : Database) (f : Row → Option Row)
    (keeps : ∀ row kept, f row = some kept → kept.ref = row.ref) (kind : Kind) :
    (d.mapRows f keeps).next kind = d.next kind := by
  cases kind <;> rfl

theorem id_eq_of_ref_eq {left right : Row} (same : left.ref = right.ref) :
    Numbered.id left = Numbered.id right :=
  congrArg Ref.id same

theorem tableOf_mapRows (d : Database) (f : Row → Option Row)
    (keeps : ∀ row kept, f row = some kept → kept.ref = row.ref) (kind : Kind) :
    (d.mapRows f keeps).tableOf kind =
      (d.tableOf kind).filterMap f fun row kept changed => id_eq_of_ref_eq (keeps row kept changed) :=
  Table.eq_of_rows_of_next (rowsOf_mapRows d f keeps kind) (next_mapRows d f keeps kind)

/-- Rows that keep their places are found where they were. -/
@[simp] theorem find?_mapRows (d : Database) (f : Row → Option Row)
    (keeps : ∀ row kept, f row = some kept → kept.ref = row.ref) (place : Ref) :
    (d.mapRows f keeps).find? place = (d.find? place).bind f := by
  rw [find?_eq_tableOf, tableOf_mapRows, Table.find?_filterMap]
  rfl

@[simp] theorem find?_without (d : Database) (gone place : Ref) :
    (d.without gone).find? place = if place = gone then none else d.find? place := by
  rw [without, find?_mapRows]
  cases found : d.find? place with
  | none => simp
  | some row =>
      obtain ⟨-, rfl⟩ := find?_eq_some_iff.mp found
      simp

/-! ## From places to typed tables -/

theorem Slot.find?_eq {α : Type} [Numbered α] (slot : Slot α) (d : Database) (id : Nat) :
    d.find? ⟨slot.kind, id⟩ = ((slot.table d).find? id).map slot.inject := by
  unfold find?
  rw [slot.rowsOf_eq]
  exact Table.find?_rows_map (slot.table d) slot.inject slot.inject_id id

theorem Slot.find?_eq_some {α : Type} [Numbered α] (slot : Slot α) {d : Database} {id : Nat} {row : Row}
    (found : d.find? ⟨slot.kind, id⟩ = some row) :
    ∃ part, (slot.table d).find? id = some part ∧ row = slot.inject part := by
  rw [slot.find?_eq] at found
  obtain ⟨part, here, rfl⟩ := Option.map_eq_some_iff.mp found
  exact ⟨part, here, rfl⟩

theorem Slot.find?_inject {α : Type} [Numbered α] (slot : Slot α) {d : Database} {id : Nat} {part : α}
    (found : (slot.table d).find? id = some part) :
    d.find? ⟨slot.kind, id⟩ = some (slot.inject part) := by
  rw [slot.find?_eq, found, Option.map_some]

theorem Slot.find?_congr {α : Type} [Numbered α] (slot : Slot α) {d d' : Database} {id : Nat}
    (same : d'.find? ⟨slot.kind, id⟩ = d.find? ⟨slot.kind, id⟩) :
    (slot.table d').find? id = (slot.table d).find? id := by
  rw [slot.find?_eq, slot.find?_eq] at same
  have injective : Function.Injective slot.inject := by
    intro left right equal
    have parts := congrArg slot.project equal
    rw [slot.project_inject, slot.project_inject] at parts
    exact Option.some.inj parts
  exact Option.map_injective injective same

theorem Slot.has_eq {α : Type} [Numbered α] (slot : Slot α) (d : Database) (id : Nat) :
    d.has ⟨slot.kind, id⟩ = (slot.table d).has id := by
  unfold has Table.has
  rw [slot.find?_eq, Option.isSome_map]

/-- A row of a table stands at its place. -/
theorem Slot.has_of_find? {α : Type} [Numbered α] (slot : Slot α) {d : Database} {id : Nat} {part : α}
    (found : (slot.table d).find? id = some part) : d.has ⟨slot.kind, id⟩ = true := by
  rw [slot.has_eq, Table.has, found, Option.isSome_some]

theorem Slot.mem_allRows {α : Type} [Numbered α] (slot : Slot α) {d : Database} {part : α} :
    slot.inject part ∈ d.allRows ↔ part ∈ (slot.table d).rows := by
  rw [Database.mem_allRows, slot.inject_kind, slot.rowsOf_eq]
  constructor
  · intro member
    obtain ⟨other, present, same⟩ := List.mem_map.mp member
    have parts : some other = some part := by
      rw [← slot.project_inject other, ← slot.project_inject part, same]
    cases parts
    exact present
  · intro member
    exact List.mem_map_of_mem member

/-- No row stands at the next number. -/
theorem find?_next (d : Database) (kind : Kind) : d.find? ⟨kind, d.next kind⟩ = none :=
  Table.find?_next (d.tableOf kind)

theorem has_next (d : Database) (kind : Kind) : d.has ⟨kind, d.next kind⟩ = false :=
  congrArg Option.isSome (find?_next d kind)

theorem id_lt_next {d : Database} {place : Ref} {row : Row} (found : d.find? place = some row) :
    place.id < d.next place.kind :=
  Table.lt_next_of_find? (t := d.tableOf place.kind) found

end Database

end GridCommons.Site
