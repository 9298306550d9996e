import GridCommons.Proofs.Change

/-!
Contract: databases whose rows are rewritten where they stand.

Owns:
- that look-up and the next numbers tell a database;
- `Database.Rewritten`: each row is rewritten in its place, none comes or goes, and no number
  is drawn;
- that a rewriting leads to one database only, and that rewritings follow one another;
- the rewritings of a single row and of a single table.

A rewriting says at once what changes and that nothing else does.  Two ways to change the
database agree if they are the same rewriting.
-/

namespace GridCommons.Site.Database

variable {d d' d'' : Database} {rewrite next : Row → Row}

/-- A database is determined by its rows and its next numbers. -/
theorem eq_of_find?_eq (rows : ∀ place, d'.find? place = d.find? place)
    (numbers : ∀ kind, d'.next kind = d.next kind) : d' = d := by
  have table : ∀ {α : Type} [Numbered α] (slot : Slot α), slot.table d' = slot.table d := by
    intro α _ slot
    apply Table.eq_of_rows_of_next
    · apply Table.rows_eq_of_find?_eq
      intro id
      exact slot.find?_congr (rows ⟨slot.kind, id⟩)
    · rw [← slot.next_eq, ← slot.next_eq, numbers]
  have users : d'.users = d.users := table Slot.user
  have profileNotes : d'.profileNotes = d.profileNotes := table Slot.profileNote
  have attachments : d'.attachments = d.attachments := table Slot.attachment
  have cards : d'.cards = d.cards := table Slot.card
  have cells : d'.cells = d.cells := table Slot.cell
  have walls : d'.walls = d.walls := table Slot.wall
  have comments : d'.comments = d.comments := table Slot.comment
  have cardLikes : d'.cardLikes = d.cardLikes := table Slot.cardLike
  have cardFavorites : d'.cardFavorites = d.cardFavorites := table Slot.cardFavorite
  have commentLikes : d'.commentLikes = d.commentLikes := table Slot.commentLike
  have commentFlags : d'.commentFlags = d.commentFlags := table Slot.commentFlag
  have cardReports : d'.cardReports = d.cardReports := table Slot.cardReport
  cases d
  cases d'
  simp_all

/-- Each row is rewritten in its place.  None comes or goes, and no number is drawn. -/
structure Rewritten (rewrite : Row → Row) (d d' : Database) : Prop where
  rows : ∀ place, d'.find? place = (d.find? place).map rewrite
  numbers : ∀ kind, d'.next kind = d.next kind

namespace Rewritten

theorem refl (d : Database) : Rewritten id d d where
  rows _ := Option.map_id'.symm
  numbers _ := rfl

theorem trans (first : Rewritten rewrite d d') (second : Rewritten next d' d'') :
    Rewritten (next ∘ rewrite) d d'' where
  rows place := by rw [second.rows, first.rows, Option.map_map]
  numbers kind := (second.numbers kind).trans (first.numbers kind)

theorem congr (rewritten : Rewritten rewrite d d') (same : ∀ row, next row = rewrite row) :
    Rewritten next d d' := by
  rwa [funext same]

/-- A rewriting leaves no choice. -/
theorem unique (one : Rewritten rewrite d d') (other : Rewritten rewrite d d'') : d'' = d' := by
  apply eq_of_find?_eq
  · intro place
    rw [other.rows, one.rows]
  · intro kind
    rw [other.numbers, one.numbers]

/-- A rewriting that changes nothing the second time is done after the first. -/
theorem done (first : Rewritten rewrite d d') (second : Rewritten rewrite d' d'')
    (settled : ∀ row, rewrite (rewrite row) = rewrite row) : d'' = d' := by
  have twice : Rewritten rewrite d d'' := (first.trans second).congr fun row => (settled row).symm
  exact first.unique twice

theorem has (rewritten : Rewritten rewrite d d') (place : Ref) : d'.has place = d.has place := by
  rw [Database.has, rewritten.rows, Option.isSome_map, Database.has]

/-- A single row is stored over its older form. -/
theorem put {row : Row} (found : d.find? row.ref = some row) (stays : (rewrite row).ref = row.ref)
    (others : ∀ other, other.ref ≠ row.ref → rewrite other = other) :
    Rewritten rewrite d (d.put (rewrite row)) where
  rows place := by
    rw [find?_put, stays]
    by_cases here : row.ref = place
    · subst here
      rw [if_pos rfl, found, Option.map_some]
    · rw [if_neg here]
      cases there : d.find? place with
      | none => rfl
      | some other =>
          have apart : other.ref ≠ row.ref := by
            rw [(find?_eq_some_iff.mp there).2]
            exact Ne.symm here
          rw [Option.map_some, others other apart]
  numbers kind := by
    rw [next_put]
    split
    · rename_i same
      subst same
      have given : row.id < d.next row.kind := id_lt_next found
      have number : (rewrite row).id = row.id := congrArg Ref.id stays
      have kind : (rewrite row).kind = row.kind := congrArg Ref.kind stays
      rw [kind, number]
      omega
    · rfl

end Rewritten

/-! ## One table -/

namespace Slot

variable {α : Type} [Numbered α] (slot : Slot α) {f : α → α}

/-- Rewrite the rows of one table. -/
def rewriting (f : α → α) (row : Row) : Row :=
  ((slot.project row).map fun part => slot.inject (f part)).getD row

theorem rewriting_inject (part : α) : slot.rewriting f (slot.inject part) = slot.inject (f part) := by
  rw [rewriting, slot.project_inject, Option.map_some, Option.getD_some]

theorem rewriting_of_ne {row : Row} (apart : row.kind ≠ slot.kind) : slot.rewriting f row = row := by
  have foreign : slot.project row = none := by
    cases projected : slot.project row with
    | none => rfl
    | some part =>
        rw [← slot.inject_project projected] at apart
        exact absurd (slot.inject_kind part) apart
  rw [rewriting, foreign, Option.map_none, Option.getD_none]

/-- All rows of a table are changed. -/
theorem rewritten (keeps : ∀ part, Numbered.id (f part) = Numbered.id part)
    (here : slot.table d' = (slot.table d).map f keeps)
    (there : ∀ kind, kind ≠ slot.kind → d'.tableOf kind = d.tableOf kind) :
    Rewritten (slot.rewriting f) d d' where
  rows place := by
    by_cases sameKind : place.kind = slot.kind
    · obtain ⟨kind, id⟩ := place
      cases sameKind
      rw [slot.find?_eq, slot.find?_eq, here, Table.find?_map, Option.map_map, Option.map_map]
      congr 1
      funext part
      exact (slot.rewriting_inject part).symm
    · rw [find?_eq_tableOf, there _ sameKind, ← find?_eq_tableOf]
      cases found : d.find? place with
      | none => rfl
      | some row =>
          rw [← (find?_eq_some_iff.mp found).2] at sameKind
          rw [Option.map_some, slot.rewriting_of_ne sameKind]
  numbers kind := by
    by_cases sameKind : kind = slot.kind
    · subst sameKind
      rw [slot.next_eq, slot.next_eq, here]
      rfl
    · exact congrArg Table.next (there kind sameKind)

/-- One row of a table is stored over its older form. -/
theorem rewritten_put {id : Nat} {part : α} (keeps : Numbered.id (f part) = Numbered.id part)
    (found : (slot.table d).find? id = some part) :
    Rewritten (slot.rewriting fun other => if Numbered.id other = id then f other else other) d
      (d.put (slot.inject (f part))) := by
  obtain ⟨-, rfl⟩ := Table.find?_eq_some_iff.mp found
  have written := slot.rewriting_inject
    (f := fun other => if Numbered.id other = Numbered.id part then f other else other) part
  rw [if_pos rfl] at written
  rw [← written]
  apply Rewritten.put
  · rw [slot.inject_ref]
    exact slot.find?_inject found
  · rw [written, slot.inject_ref, slot.inject_ref, keeps]
  · intro row apart
    by_cases sameKind : row.kind = slot.kind
    · obtain ⟨other, projected⟩ := Option.isSome_iff_exists.mp (slot.project_isSome sameKind)
      obtain rfl := slot.inject_project projected
      rw [slot.inject_ref, slot.inject_ref] at apart
      have differs : Numbered.id other ≠ Numbered.id part := fun same => apart (congrArg _ same)
      rw [slot.rewriting_inject, if_neg differs]
    · exact slot.rewriting_of_ne sameKind

end Slot

end GridCommons.Site.Database
