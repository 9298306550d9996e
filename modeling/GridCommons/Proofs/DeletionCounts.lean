import GridCommons.Proofs.Action
import GridCommons.Proofs.Deletion
import GridCommons.Site.Call

/-!
Contract: what deleting a row returns, and what it leaves behind.

Owns:
- counting by name: what adding up counts gives for each name;
- the pairs of each relation between users and rows, before and after a deletion;
- the deletion of a row as one statement: which rows and pairs go, what is left of the
  others, and the counts that are returned.
-/

namespace GridCommons.Site

/-! ## Counting by name -/

/-- The sum of the counts under a name. -/
def tally (name : String) : List (String × Nat) → Nat
  | [] => 0
  | entry :: rest => (if entry.1 = name then entry.2 else 0) + tally name rest

namespace Database

@[simp] theorem tally_nil (name : String) : tally name [] = 0 :=
  rfl

@[simp] theorem tally_cons (name : String) (entry : String × Nat) (rest : List (String × Nat)) :
    tally name (entry :: rest) = (if entry.1 = name then entry.2 else 0) + tally name rest :=
  rfl

@[simp] theorem tally_append (name : String) (front back : List (String × Nat)) :
    tally name (front ++ back) = tally name front + tally name back := by
  induction front with
  | nil => simp
  | cons entry rest inductionHypothesis =>
      rw [List.cons_append, tally_cons, tally_cons, inductionHypothesis]
      omega

/-- Counting adds to one name and leaves the others. -/
theorem tally_addCount (name other : String) (n : Nat) (counts : List (String × Nat)) :
    tally name (addCount other n counts) = (if other = name then n else 0) + tally name counts := by
  induction counts with
  | nil => simp [addCount]
  | cons entry rest inductionHypothesis =>
      obtain ⟨first, m⟩ := entry
      by_cases same : first = other
      · subst same
        rw [addCount, if_pos rfl, tally_cons, tally_cons]
        split <;> omega
      · rw [addCount, if_neg same, tally_cons, tally_cons, inductionHypothesis]
        omega

theorem keys_addCount (other : String) (n : Nat) (counts : List (String × Nat)) :
    (addCount other n counts).map Prod.fst =
      if other ∈ counts.map Prod.fst then counts.map Prod.fst else counts.map Prod.fst ++ [other] := by
  induction counts with
  | nil => simp [addCount]
  | cons entry rest inductionHypothesis =>
      obtain ⟨first, m⟩ := entry
      by_cases same : first = other
      · subst same
        simp [addCount]
      · rw [addCount, if_neg same, List.map_cons, inductionHypothesis]
        have different : other ≠ first := fun equal => same equal.symm
        by_cases present : other ∈ rest.map Prod.fst
        · rw [if_pos present, if_pos (by simpa using .inr (by simpa using present))]
          rfl
        · rw [if_neg present, if_neg (by simpa [different] using present)]
          rfl

/-- Adding up counts one after another. -/
def addUp (entries counts : List (String × Nat)) : List (String × Nat) :=
  entries.foldl (fun counts (name, n) => addCount name n counts) counts

/-- Adding up counts keeps the sum under each name. -/
theorem tally_addUp (name : String) (entries counts : List (String × Nat)) :
    tally name (addUp entries counts) = tally name entries + tally name counts := by
  induction entries generalizing counts with
  | nil => simp [addUp]
  | cons entry rest inductionHypothesis =>
      show tally name (addUp rest (addCount entry.1 entry.2 counts)) = _
      rw [inductionHypothesis, tally_addCount, tally_cons]
      omega

theorem nodup_addUp (entries counts : List (String × Nat)) (distinct : (counts.map Prod.fst).Nodup) :
    ((addUp entries counts).map Prod.fst).Nodup := by
  induction entries generalizing counts with
  | nil => exact distinct
  | cons entry rest inductionHypothesis =>
      refine inductionHypothesis (addCount entry.1 entry.2 counts) ?_
      rw [keys_addCount]
      split
      · exact distinct
      · rename_i absent
        refine List.nodup_append.mpr ⟨distinct, by simp, fun name present other last => ?_⟩
        cases List.mem_singleton.mp last
        exact fun same => absent (same ▸ present)

theorem tally_eq_zero_of_notMem {name : String} {counts : List (String × Nat)}
    (absent : name ∉ counts.map Prod.fst) : tally name counts = 0 := by
  induction counts with
  | nil => rfl
  | cons entry rest inductionHypothesis =>
      rw [List.map_cons, List.mem_cons, not_or] at absent
      rw [tally_cons, if_neg (fun same => absent.1 same.symm), inductionHypothesis absent.2]

/-- Where no name stands twice, an entry is all that its name amounts to. -/
theorem tally_eq_of_mem {name : String} {n : Nat} {counts : List (String × Nat)}
    (distinct : (counts.map Prod.fst).Nodup) (member : (name, n) ∈ counts) :
    tally name counts = n := by
  induction counts with
  | nil => cases member
  | cons entry rest inductionHypothesis =>
      obtain ⟨absent, restDistinct⟩ := List.nodup_cons.mp distinct
      rw [tally_cons]
      cases member with
      | head => rw [if_pos rfl, tally_eq_zero_of_notMem absent, Nat.add_zero]
      | tail _ later =>
          have different : entry.1 ≠ name := fun same =>
            absent (same ▸ List.mem_map_of_mem (f := Prod.fst) later)
          rw [if_neg different, Nat.zero_add]
          exact inductionHypothesis restDistinct later

/-- What is left of added counts is the sum under each name, if it is not zero. -/
theorem mem_addUp_iff {name : String} {n : Nat} (entries : List (String × Nat)) :
    ((name, n) ∈ (addUp entries []).filter fun entry => entry.2 ≠ 0) ↔
      n ≠ 0 ∧ tally name entries = n := by
  have distinct := nodup_addUp entries [] .nil
  have total : tally name (addUp entries []) = tally name entries := by simp [tally_addUp]
  rw [List.mem_filter, decide_eq_true_eq]
  constructor
  · rintro ⟨member, nonzero⟩
    exact ⟨nonzero, total.symm.trans (tally_eq_of_mem distinct member)⟩
  · rintro ⟨nonzero, rfl⟩
    refine ⟨?_, nonzero⟩
    by_cases present : name ∈ (addUp entries []).map Prod.fst
    · obtain ⟨⟨_, m⟩, member, rfl⟩ := List.mem_map.mp present
      rw [← total, tally_eq_of_mem distinct member]
      exact member
    · exact absurd (total ▸ tally_eq_zero_of_notMem present) nonzero

end Database

/-! ## Pairs -/

namespace Relation

def all : List Relation :=
  [.cardLikes, .cardFavorites, .commentLikes, .commentReports]

theorem mem_all (relation : Relation) : relation ∈ all := by
  cases relation <;> simp [all]

/-- The name under which the pairs of a relation are counted. -/
def label : Relation → String
  | .cardLikes => Kind.card.label ++ "_likes"
  | .cardFavorites => Kind.card.label ++ "_favorites"
  | .commentLikes => Kind.comment.label ++ "_likes"
  | .commentReports => Kind.comment.label ++ "_reports"

/-- The pairs of a row's number and a user's number that the row keeps. -/
def pairsOf (relation : Relation) (row : Row) : List (Nat × Nat) :=
  (relation.members row).ids.map fun user => (row.id, user)

/-- A pair goes with the row that keeps it, and with its user. -/
def losesPair (relation : Relation) (gone : Ref → Bool) (pair : Nat × Nat) : Bool :=
  gone ⟨relation.kind, pair.1⟩ || gone ⟨.user, pair.2⟩

end Relation

theorem Kind.label_injective {kind other : Kind} (same : kind.label = other.label) : kind = other := by
  have distinct : ∀ kind ∈ Kind.all, ∀ other ∈ Kind.all, kind.label = other.label → kind = other := by
    decide
  exact distinct kind (Kind.mem_all kind) other (Kind.mem_all other) same

theorem Kind.label_ne_relation (kind : Kind) (relation : Relation) : kind.label ≠ relation.label := by
  have distinct : ∀ kind ∈ Kind.all, ∀ relation ∈ Relation.all, kind.label ≠ relation.label := by
    decide
  exact distinct kind (Kind.mem_all kind) relation (Relation.mem_all relation)

namespace Database

/-- The pairs of a relation. -/
def pairs (d : Database) (relation : Relation) : List (Nat × Nat) :=
  (d.rowsOf relation.kind).flatMap relation.pairsOf

theorem filter_allRows (d : Database) (kind : Kind) :
    (d.allRows.filter fun row => row.kind = kind) = d.rowsOf kind := by
  have part : ∀ other, ((d.rowsOf other).filter fun row => row.kind = kind) =
      if other = kind then d.rowsOf other else [] := by
    intro other
    split
    · rename_i same
      refine List.filter_eq_self.mpr fun row member => ?_
      rw [decide_eq_true_eq, kind_of_mem_rowsOf member, same]
    · rename_i different
      refine List.filter_eq_nil_iff.mpr fun row member => ?_
      rw [decide_eq_true_eq, kind_of_mem_rowsOf member]
      exact different
  simp only [allRows, List.filter_flatMap, part]
  cases kind <;> simp [Kind.all]

/-- The pairs that a row loses are those of doomed users, or all if the row is doomed. -/
theorem countP_pairsOf (gone : Ref → Bool) (relation : Relation) {row : Row}
    (same : row.kind = relation.kind) :
    (relation.pairsOf row).countP (relation.losesPair gone) =
      if gone row.ref then (relation.members row).ids.length
      else (relation.members row).ids.countP fun id => gone ⟨.user, id⟩ := by
  have place : row.ref = ⟨relation.kind, row.id⟩ := by rw [← same]; rfl
  rw [Relation.pairsOf, List.countP_map, place]
  split
  · rename_i goes
    exact List.countP_eq_length.mpr fun user _ => by simp [Relation.losesPair, goes]
  · rename_i stays
    congr 1
    funext user
    simp [Relation.losesPair, Bool.eq_false_iff.mpr stays]

/-- The members that go are counted under the name of their relation. -/
theorem tally_lostMembers (doomed : List Ref) (relation : Relation) (row : Row) :
    tally relation.label (lostMembers doomed row) =
      if row.kind = relation.kind then
        (relation.pairsOf row).countP (relation.losesPair fun place => doomed.contains place)
      else 0 := by
  by_cases same : row.kind = relation.kind
  · have gone : userGone doomed = fun id => doomed.contains ⟨.user, id⟩ := rfl
    rw [if_pos same, countP_pairsOf _ _ same, ← gone]
    cases relation <;> cases row <;>
      simp_all [Row.kind, Relation.kind, lostMembers, Row.members, Relation.members, Relation.label,
        Kind.label]
  · rw [if_neg same]
    cases relation <;> cases row <;>
      simp_all [Row.kind, Relation.kind, lostMembers, Row.members, Relation.label, Kind.label]

/-- The count of a row itself. -/
def lostRow (doomed : List Ref) (row : Row) : List (String × Nat) :=
  if doomed.contains row.ref then [(row.kind.label, 1)] else []

/-- What a deletion adds up: a count for each row that goes, and one for each relation of
every row. -/
def removals (d : Database) (doomed : List Ref) : List (String × Nat) :=
  d.allRows.flatMap (lostRow doomed) ++ d.allRows.flatMap (lostMembers doomed)

theorem deletionCounts_eq (d : Database) (roots : List Ref) :
    d.deletionCounts roots = (addUp (d.removals (d.closure roots)) []).filter fun entry => entry.2 ≠ 0 := by
  have rows : ((d.allRows.filter fun row => (d.closure roots).contains row.ref).map fun row =>
      (row.kind.label, 1)) = d.allRows.flatMap (lostRow (d.closure roots)) := by
    induction d.allRows with
    | nil => rfl
    | cons row rest inductionHypothesis =>
        rw [List.flatMap_cons, ← inductionHypothesis, List.filter_cons, lostRow]
        split <;> rfl
  rw [deletionCounts, rows]
  rfl

theorem name_of_mem_lostRow {doomed : List Ref} {row : Row} {entry : String × Nat}
    (member : entry ∈ lostRow doomed row) : entry.1 = row.kind.label := by
  unfold lostRow at member
  split at member
  · rw [List.mem_singleton.mp member]
  · cases member

theorem name_of_mem_lostMembers {doomed : List Ref} {row : Row} {entry : String × Nat}
    (member : entry ∈ lostMembers doomed row) : ∃ relation : Relation, entry.1 = relation.label := by
  cases row with
  | card part =>
      simp only [lostMembers, Row.members, List.map_cons, List.map_nil, List.mem_cons,
        List.not_mem_nil, or_false] at member
      obtain rfl | rfl := member
      · exact ⟨.cardLikes, rfl⟩
      · exact ⟨.cardFavorites, rfl⟩
  | comment part =>
      simp only [lostMembers, Row.members, List.map_cons, List.map_nil, List.mem_cons,
        List.not_mem_nil, or_false] at member
      obtain rfl | rfl := member
      · exact ⟨.commentLikes, rfl⟩
      · exact ⟨.commentReports, rfl⟩
  | _ => cases member

theorem name_of_mem_removals {d : Database} {doomed : List Ref} {name : String}
    (present : name ∈ (d.removals doomed).map Prod.fst) :
    (∃ kind : Kind, name = kind.label) ∨ ∃ relation : Relation, name = relation.label := by
  obtain ⟨entry, member, rfl⟩ := List.mem_map.mp present
  rcases List.mem_append.mp member with member | member
  · obtain ⟨row, -, member⟩ := List.mem_flatMap.mp member
    exact .inl ⟨row.kind, name_of_mem_lostRow member⟩
  · obtain ⟨row, -, member⟩ := List.mem_flatMap.mp member
    exact .inr (name_of_mem_lostMembers member)

theorem tally_lostRow (doomed : List Ref) (kind : Kind) (row : Row) :
    tally kind.label (lostRow doomed row) =
      if row.kind = kind ∧ doomed.contains row.ref then 1 else 0 := by
  unfold lostRow
  by_cases same : row.kind = kind
  · subst same
    split <;> simp_all
  · have different : row.kind.label ≠ kind.label := fun equal => same (Kind.label_injective equal)
    split <;> simp [different, same]

/-- Under the name of a kind stand the rows of the kind among the places that go. -/
theorem tally_removals_kind (d : Database) (doomed : List Ref) (kind : Kind) :
    tally kind.label (d.removals doomed) =
      (d.rowsOf kind).countP fun row => doomed.contains row.ref := by
  have members : tally kind.label (d.allRows.flatMap (lostMembers doomed)) = 0 := by
    refine tally_eq_zero_of_notMem fun present => ?_
    obtain ⟨entry, member, named⟩ := List.mem_map.mp present
    obtain ⟨row, -, member⟩ := List.mem_flatMap.mp member
    obtain ⟨relation, label⟩ := name_of_mem_lostMembers member
    exact Kind.label_ne_relation kind relation (named.symm.trans label)
  have rows : tally kind.label (d.allRows.flatMap (lostRow doomed)) =
      d.allRows.countP fun row => decide (row.kind = kind) && doomed.contains row.ref := by
    induction d.allRows with
    | nil => rfl
    | cons row rest inductionHypothesis =>
        rw [List.flatMap_cons, tally_append, inductionHypothesis, tally_lostRow, List.countP_cons,
          Nat.add_comm]
        simp
  rw [removals, tally_append, rows, members, Nat.add_zero, ← filter_allRows, List.countP_filter]
  congr 1
  funext row
  exact Bool.and_comm _ _

/-- Under the name of a relation stand its pairs that go. -/
theorem tally_removals_relation (d : Database) (doomed : List Ref) (relation : Relation) :
    tally relation.label (d.removals doomed) =
      (d.pairs relation).countP (relation.losesPair fun place => doomed.contains place) := by
  have rows : tally relation.label (d.allRows.flatMap (lostRow doomed)) = 0 := by
    refine tally_eq_zero_of_notMem fun present => ?_
    obtain ⟨entry, member, named⟩ := List.mem_map.mp present
    obtain ⟨row, -, member⟩ := List.mem_flatMap.mp member
    exact Kind.label_ne_relation row.kind relation ((name_of_mem_lostRow member).symm.trans named)
  have members : tally relation.label (d.allRows.flatMap (lostMembers doomed)) =
      ((d.allRows.filter fun row => row.kind = relation.kind).flatMap relation.pairsOf).countP
        (relation.losesPair fun place => doomed.contains place) := by
    induction d.allRows with
    | nil => rfl
    | cons row rest inductionHypothesis =>
        rw [List.flatMap_cons, tally_append, inductionHypothesis, tally_lostMembers]
        by_cases same : row.kind = relation.kind
        · rw [if_pos same, List.filter_cons_of_pos (by simpa using same), List.flatMap_cons,
            List.countP_append]
        · rw [if_neg same, List.filter_cons_of_neg (by simpa using same), Nat.zero_add]
  rw [removals, tally_append, rows, members, Nat.zero_add, filter_allRows]
  rfl

theorem contains_closure (d : Database) (root : Ref) :
    (fun place => (d.closure [root]).contains place) = fun place => decide (Doomed d root place) := by
  funext place
  rw [Bool.eq_iff_iff, List.contains_iff_mem, decide_eq_true_iff, mem_closure_singleton]

/-- The counts of a deletion are those of the rows and of the pairs that go. -/
theorem mem_deletionCounts_iff (d : Database) (root : Ref) (name : String) (n : Nat) :
    (name, n) ∈ d.deletionCounts [root] ↔
      n ≠ 0 ∧
        ((∃ kind : Kind, name = kind.label ∧
            n = (d.rowsOf kind).countP fun row => Doomed d root row.ref) ∨
          ∃ relation : Relation, name = relation.label ∧
            n = (d.pairs relation).countP (relation.losesPair fun place => Doomed d root place)) := by
  have same := contains_closure d root
  have sameRow : (fun row : Row => (d.closure [root]).contains row.ref) =
      fun row => decide (Doomed d root row.ref) := by
    funext row
    exact congrFun same row.ref
  rw [deletionCounts_eq, mem_addUp_iff]
  refine and_congr_right fun nonzero => ?_
  constructor
  · rintro rfl
    have present : name ∈ (d.removals (d.closure [root])).map Prod.fst :=
      Decidable.byContradiction fun absent => nonzero (tally_eq_zero_of_notMem absent)
    rcases name_of_mem_removals present with ⟨kind, rfl⟩ | ⟨relation, rfl⟩
    · exact .inl ⟨kind, rfl, by rw [tally_removals_kind, sameRow]⟩
    · exact .inr ⟨relation, rfl, by rw [tally_removals_relation, same]⟩
  · rintro (⟨kind, rfl, rfl⟩ | ⟨relation, rfl, rfl⟩)
    · rw [tally_removals_kind, sameRow]
    · rw [tally_removals_relation, same]

theorem nodup_deletionCounts (d : Database) (roots : List Ref) :
    ((d.deletionCounts roots).map Prod.fst).Nodup := by
  rw [deletionCounts_eq]
  exact (nodup_addUp _ [] .nil).sublist (List.filter_sublist.map _)

/-! ## What a deletion leaves -/

/-- The rows that are left after a deletion, with what they forget. -/
theorem rowsOf_delete (d : Database) (root : Ref) (kind : Kind) :
    (d.delete [root]).rowsOf kind =
      ((d.rowsOf kind).filter fun row => !decide (Doomed d root row.ref)).map
        (Row.bereft fun place => Doomed d root place) := by
  rw [delete, rowsOf_mapRows]
  induction d.rowsOf kind with
  | nil => rfl
  | cons row rest inductionHypothesis =>
      rw [List.filterMap_cons, survivor_eq, contains_closure, List.filter_cons, inductionHypothesis]
      by_cases goes : Doomed d root row.ref
      · simp [mem_closure_singleton, goes]
      · simp [mem_closure_singleton, goes]

theorem pairsOf_bereft (gone : Ref → Bool) (relation : Relation) (row : Row) :
    relation.pairsOf (row.bereft gone) =
      (relation.pairsOf row).filter fun pair => !gone ⟨.user, pair.2⟩ := by
  have kept : (relation.members (row.bereft gone)).ids =
      (relation.members row).ids.filter fun id => !gone ⟨.user, id⟩ := by
    cases relation <;> cases row <;> rfl
  have number : (row.bereft gone).id = row.id := congrArg Ref.id (Row.ref_bereft gone row)
  rw [Relation.pairsOf, kept, number, Relation.pairsOf, List.filter_map]
  rfl

/-- The pairs that are left after a deletion. -/
theorem pairs_delete (d : Database) (root : Ref) (relation : Relation) :
    (d.delete [root]).pairs relation =
      (d.pairs relation).filter fun pair => !relation.losesPair (fun place => Doomed d root place) pair := by
  have kinds : ∀ row ∈ d.rowsOf relation.kind, row.kind = relation.kind := fun row member =>
    kind_of_mem_rowsOf member
  rw [pairs, rowsOf_delete, pairs]
  generalize d.rowsOf relation.kind = rows at kinds ⊢
  induction rows with
  | nil => rfl
  | cons row rest inductionHypothesis =>
      have same := kinds row (by simp)
      have place : row.ref = ⟨relation.kind, row.id⟩ := by rw [← same]; rfl
      have later := inductionHypothesis fun other member => kinds other (by simp [member])
      rw [List.flatMap_cons, List.filter_append, ← later, List.filter_cons]
      by_cases goes : Doomed d root row.ref
      · have none : (relation.pairsOf row).filter (fun pair =>
            !relation.losesPair (fun place => decide (Doomed d root place)) pair) = [] := by
          refine List.filter_eq_nil_iff.mpr fun pair member => ?_
          obtain ⟨user, -, rfl⟩ := List.mem_map.mp member
          simp [Relation.losesPair, ← place, goes]
        simp [goes, none]
      · have some : (relation.pairsOf row).filter (fun pair =>
            !relation.losesPair (fun place => decide (Doomed d root place)) pair) =
            relation.pairsOf (row.bereft fun place => Doomed d root place) := by
          rw [pairsOf_bereft]
          refine List.filter_congr fun pair member => ?_
          obtain ⟨user, -, rfl⟩ := List.mem_map.mp member
          simp [Relation.losesPair, ← place, goes]
        simp [goes, some]

/-- The deletion of the row at `root`.  The places that go are the least ones with the
root among them that cascading references are followed into.  Rows at other places are
bereft of the places that go, pairs go with either side, and `counts` tells under every
name how many rows or pairs went. -/
structure Deletion (root : Ref) (before after : Database) (total : Nat)
    (counts : List (String × Nat)) : Prop where
  rows : ∀ kind, after.rowsOf kind =
    ((before.rowsOf kind).filter fun row => !decide (Doomed before root row.ref)).map
      (Row.bereft fun place => Doomed before root place)
  numbers : ∀ kind, after.next kind = before.next kind
  pairs : ∀ relation, after.pairs relation =
    (before.pairs relation).filter fun pair =>
      !relation.losesPair (fun place => Doomed before root place) pair
  counted : ∀ name n, (name, n) ∈ counts ↔
    n ≠ 0 ∧
      ((∃ kind : Kind, name = "main_app." ++ kind.label ∧
          n = (before.rowsOf kind).countP fun row => Doomed before root row.ref) ∨
        ∃ relation : Relation, name = "main_app." ++ relation.label ∧
          n = (before.pairs relation).countP
            (relation.losesPair fun place => Doomed before root place))
  distinct : (counts.map Prod.fst).Nodup
  sum : total = counts.foldl (fun total entry => total + entry.2) 0

/-- What a deletion removes is what it counts. -/
theorem deletion_delete (d : Database) (root : Ref) :
    Deletion root d (d.delete [root])
      ((d.deletionCounts [root]).foldl (fun total entry => total + entry.2) 0)
      ((d.deletionCounts [root]).map fun (name, n) => ("main_app." ++ name, n)) where
  rows := d.rowsOf_delete root
  numbers := d.next_delete [root]
  pairs := d.pairs_delete root
  counted name n := by
    rw [List.mem_map]
    constructor
    · rintro ⟨⟨bare, m⟩, member, named⟩
      cases named
      obtain ⟨nonzero, kinds | relations⟩ := (mem_deletionCounts_iff d root bare n).mp member
      · obtain ⟨kind, rfl, count⟩ := kinds
        exact ⟨nonzero, .inl ⟨kind, rfl, count⟩⟩
      · obtain ⟨relation, rfl, count⟩ := relations
        exact ⟨nonzero, .inr ⟨relation, rfl, count⟩⟩
    · rintro ⟨nonzero, ⟨kind, rfl, count⟩ | ⟨relation, rfl, count⟩⟩
      · exact ⟨(kind.label, n), (mem_deletionCounts_iff d root _ n).mpr
          ⟨nonzero, .inl ⟨kind, rfl, count⟩⟩, rfl⟩
      · exact ⟨(relation.label, n), (mem_deletionCounts_iff d root _ n).mpr
          ⟨nonzero, .inr ⟨relation, rfl, count⟩⟩, rfl⟩
  distinct := by
    rw [List.map_map]
    refine List.pairwise_map.mpr ((List.pairwise_map.mp (nodup_deletionCounts d [root])).imp ?_)
    intro first second different same
    exact different ((String.append_right_inj _).mp same)
  sum := by
    rw [List.foldl_map]

end Database

namespace Draft

theorem id?_ofRow (row : Row) : (ofRow row).id? = some row.id := by
  cases row <;> rfl

/-- Deleting a row takes away exactly what depends on it, and tells how much that was.
Where the database cannot be written nothing is taken away. -/
theorem delete_removes_dependents (row : Row) (w : World) :
    ∃ after total counts,
      Database.Deletion row.ref w.database after total counts ∧
      ((ofRow row).call .delete).run w =
        match w.mode with
        | .ok => (.ok ⟨.deleted total counts, (ofRow row).set "id" .null⟩, { w with database := after })
        | .readOnly => (.error .readOnly, w)
        | .offline => (.error .offline, w) := by
  refine ⟨_, _, _, w.database.deletion_delete row.ref, ?_⟩
  show ((ofRow row).delete >>= fun result => pure ⟨result, (ofRow row).set "id" .null⟩ :
    Action CallOutcome).run w = _
  have found := id?_ofRow row
  cases mode : w.mode <;>
    simp only [delete, found, Action.run_bind, Action.run_query, Action.remove, Action.run_mutate,
      mode, Action.run_pure]
  rfl

/-- A user with a card that has a file, on which another user comments, and whom a
complaint about the other's card names. -/
def author : Row :=
  .user { id := 1, username := "ann", dateJoined := ⟨0⟩, password := .plain "" }

def busySite : World :=
  { now := ⟨0⟩
    database :=
      [author, .user { id := 2, username := "bob", dateJoined := ⟨0⟩, password := .plain "" },
        .attachment { id := 1, name := "a", contentType := "", data := [], size := 0, createdAt := ⟨0⟩ },
        .card { id := 1, userId := 1, title := "", description := "", createdAt := ⟨0⟩,
                updatedAt := ⟨0⟩, fileId := some 1, likes := Members.join 2 {} },
        .card { id := 2, userId := 2, title := "", description := "", createdAt := ⟨0⟩,
                updatedAt := ⟨0⟩, favorites := Members.join 1 {} },
        .comment { id := 1, cardId := 1, authorId := 2, text := "", createdAt := ⟨0⟩ },
        .commentLike { id := 1, userId := 2, commentId := 1, createdAt := ⟨0⟩ },
        .cardReport { id := 1, cardId := 2, userId := some 1, reason := "spam",
                      createdAt := ⟨0⟩ }].foldl Database.put {} }

example : busySite.database.deletionCounts [author.ref] =
    [("User", 1), ("Field", 1), ("Comment", 1), ("LikeComment", 1), ("Field_likes", 1),
      ("Field_favorites", 1)] := by
  decide

end Draft

end GridCommons.Site
