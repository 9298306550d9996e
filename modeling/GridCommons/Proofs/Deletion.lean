import GridCommons.Proofs.Rows

/-!
Contract: which rows a deletion takes, and what it leaves of the others.

Owns:
- the rank of a kind, which every cascading reference lowers, so that following
  references comes to rest after four rounds;
- the agreement of the computed closure with `Database.Doomed`;
- the row that a deletion leaves, said in one step instead of place by place.

Does not own: the counts of a deletion.
-/

namespace GridCommons.Site

/-- The length of the longest chain of cascading references that starts at a row of the
kind. -/
def Kind.rank : Kind → Nat
  | .user | .attachment => 0
  | .profileNote | .card | .commentFlag => 1
  | .cell | .wall | .comment | .cardLike | .cardFavorite | .cardReport => 2
  | .commentLike => 3

theorem Kind.rank_le (kind : Kind) : kind.rank ≤ 3 := by
  cases kind <;> decide

/-- A row that goes with another one is of a kind further down, so the rounds of a deletion end. -/
theorem Row.rank_lt_of_cascade {row : Row} {target : Ref}
    (link : ⟨target, .cascade⟩ ∈ row.links) : target.kind.rank < row.kind.rank := by
  have lower : ∀ link ∈ row.links, link.onDelete = .cascade →
      link.target.kind.rank < row.kind.rank := by
    cases row <;> simp [Row.links, Row.kind, Kind.rank]
  exact lower _ link rfl

/-- What a row keeps when places go: references that deletion only forgets, and members
of its relations, are dropped if they name such a place. -/
def Row.bereft (gone : Ref → Bool) : Row → Row
  | .card row =>
    .card { row with
      fileId := row.fileId.filter fun id => !gone ⟨.attachment, id⟩
      likes := row.likes.drop fun id => gone ⟨.user, id⟩
      favorites := row.favorites.drop fun id => gone ⟨.user, id⟩ }
  | .comment row =>
    .comment { row with
      likes := row.likes.drop fun id => gone ⟨.user, id⟩
      reports := row.reports.drop fun id => gone ⟨.user, id⟩ }
  | .cardReport row =>
    .cardReport { row with userId := row.userId.filter fun id => !gone ⟨.user, id⟩ }
  | row => row

namespace Database

variable {d : Database} {roots : List Ref}

/-! ## Following references -/

/-- One round adds the rows that depend on those of the round before. -/
theorem mem_spread {doomed : List Ref} {place : Ref} :
    place ∈ d.spread doomed ↔
      place ∈ doomed ∨
        ∃ row ∈ d.allRows, row.ref = place ∧ ∃ target ∈ doomed, ⟨target, .cascade⟩ ∈ row.links := by
  unfold spread
  rw [List.mem_append, List.mem_map]
  constructor
  · rintro (old | ⟨row, passed, rfl⟩)
    · exact .inl old
    · simp only [List.mem_filter, Bool.and_eq_true, List.any_eq_true, decide_eq_true_eq,
        List.contains_iff_mem] at passed
      obtain ⟨member, -, ⟨target, onDelete⟩, link, rfl, goes⟩ := passed
      exact .inr ⟨row, member, rfl, target, goes, link⟩
  · rintro (old | ⟨row, member, rfl, target, goes, link⟩)
    · exact .inl old
    · by_cases present : row.ref ∈ doomed
      · exact .inl present
      · refine .inr ⟨row, ?_, rfl⟩
        simp only [List.mem_filter, Bool.and_eq_true, List.any_eq_true, decide_eq_true_eq,
          List.contains_iff_mem, Bool.not_eq_true']
        exact ⟨member, by simpa using present, ⟨target, .cascade⟩, link, rfl, goes⟩

/-- The places that go after some rounds of following references. -/
def rounds (d : Database) (roots : List Ref) : Nat → List Ref
  | 0 => roots
  | n + 1 => d.spread (d.rounds roots n)

theorem closure_eq_rounds : d.closure roots = d.rounds roots 4 :=
  rfl

/-- A place that only the last round reached lies as many references above a root. -/
theorem lt_rank_of_newcomer {n : Nat} {place : Ref} (reached : place ∈ d.rounds roots (n + 1))
    (new : place ∉ d.rounds roots n) : n < place.kind.rank := by
  induction n generalizing place with
  | zero =>
      obtain old | ⟨row, -, rfl, target, -, link⟩ := mem_spread.mp reached
      · exact absurd old new
      · exact Nat.zero_lt_of_lt (Row.rank_lt_of_cascade link)
  | succ n inductionHypothesis =>
      obtain old | ⟨row, member, rfl, target, goes, link⟩ := mem_spread.mp reached
      · exact absurd old new
      · have lower : target.kind.rank < row.ref.kind.rank := Row.rank_lt_of_cascade link
        -- a target of an earlier round would have brought the row in one round earlier
        have targetNew : target ∉ d.rounds roots n := fun earlier =>
          new (mem_spread.mpr (.inr ⟨row, member, rfl, target, earlier, link⟩))
        have := inductionHypothesis goes targetNew
        omega

/-- The fourth round finds nothing new. -/
theorem rounds_four_subset : d.rounds roots 4 ⊆ d.rounds roots 3 := by
  intro place reached
  by_cases earlier : place ∈ d.rounds roots 3
  · exact earlier
  · have high := lt_rank_of_newcomer reached earlier
    have := place.kind.rank_le
    omega

/-- A row goes with every place that a cascading reference of it names. -/
theorem closure_saturated {row : Row} {target : Ref} (member : row ∈ d.allRows)
    (goes : target ∈ d.closure roots) (link : ⟨target, .cascade⟩ ∈ row.links) :
    row.ref ∈ d.closure roots := by
  rw [closure_eq_rounds] at goes ⊢
  exact mem_spread.mpr (.inr ⟨row, member, rfl, target, rounds_four_subset goes, link⟩)

/-- Every row that a round reaches depends on a root. -/
theorem doomed_of_mem_rounds {n : Nat} {place : Ref} (reached : place ∈ d.rounds roots n) :
    ∃ root ∈ roots, Doomed d root place := by
  induction n generalizing place with
  | zero => exact ⟨place, reached, .root⟩
  | succ n inductionHypothesis =>
      obtain old | ⟨row, member, rfl, target, goes, link⟩ := mem_spread.mp reached
      · exact inductionHypothesis old
      · obtain ⟨root, isRoot, doomed⟩ := inductionHypothesis goes
        exact ⟨root, isRoot, .follow member doomed link⟩

theorem roots_subset_rounds (n : Nat) : roots ⊆ d.rounds roots n := by
  induction n with
  | zero => exact fun _ isRoot => isRoot
  | succ n inductionHypothesis =>
      exact fun _ isRoot => mem_spread.mpr (.inl (inductionHypothesis isRoot))

/-- Deleting takes exactly the rows that depend on a root. -/
theorem mem_closure_iff {place : Ref} :
    place ∈ d.closure roots ↔ ∃ root ∈ roots, Doomed d root place := by
  constructor
  · intro goes
    rw [closure_eq_rounds] at goes
    exact doomed_of_mem_rounds goes
  · rintro ⟨root, isRoot, doomed⟩
    induction doomed with
    | root => exact roots_subset_rounds 4 isRoot
    | follow member _ link inductionHypothesis =>
        exact closure_saturated member inductionHypothesis link

theorem mem_closure_singleton {root place : Ref} :
    place ∈ d.closure [root] ↔ Doomed d root place := by
  simp [mem_closure_iff]

instance (root place : Ref) : Decidable (Doomed d root place) :=
  decidable_of_iff _ mem_closure_singleton

end Database

/-! ## What is left of a row -/

namespace Row

/-- Forgetting places one after another drops an optional reference that one of them is
the target of. -/
theorem filter_notMem_cons (kind : Kind) (target : Ref) (rest : List Ref) (link : Option Nat) :
    ((if target.kind = kind ∧ link = some target.id then none else link).filter fun id =>
        !rest.contains ⟨kind, id⟩) =
      link.filter fun id => !(target :: rest).contains ⟨kind, id⟩ := by
  obtain ⟨targetKind, targetId⟩ := target
  cases link with
  | none => simp
  | some id =>
      by_cases named : targetKind = kind ∧ id = targetId
      · obtain ⟨rfl, rfl⟩ := named
        simp [Option.filter]
      · have other : (⟨kind, id⟩ : Ref) ≠ ⟨targetKind, targetId⟩ := fun same =>
          named ⟨(congrArg Ref.kind same).symm, congrArg Ref.id same⟩
        rw [if_neg (by simpa using named)]
        simp [Option.filter, other]

theorem foldl_forget_card (targets : List Ref) (row : Card) :
    targets.foldl (fun (kept : Row) target => kept.forget target) (.card row) =
      Row.card { row with fileId := row.fileId.filter fun id => !targets.contains ⟨.attachment, id⟩ } := by
  induction targets generalizing row with
  | nil =>
      have keepsAll : (row.fileId.filter fun _ => true) = row.fileId := by cases row.fileId <;> rfl
      simp [keepsAll]
  | cons target rest inductionHypothesis =>
      rw [List.foldl_cons, forget, inductionHypothesis, filter_notMem_cons]

theorem foldl_forget_cardReport (targets : List Ref) (row : CardReport) :
    targets.foldl (fun (kept : Row) target => kept.forget target) (.cardReport row) =
      Row.cardReport { row with userId := row.userId.filter fun id => !targets.contains ⟨.user, id⟩ } := by
  induction targets generalizing row with
  | nil =>
      have keepsAll : (row.userId.filter fun _ => true) = row.userId := by cases row.userId <;> rfl
      simp [keepsAll]
  | cons target rest inductionHypothesis =>
      rw [List.foldl_cons, forget, inductionHypothesis, filter_notMem_cons]

theorem foldl_forget_of_forget_eq (targets : List Ref) {row : Row}
    (plain : ∀ target, row.forget target = row) :
    targets.foldl (fun kept target => kept.forget target) row = row := by
  induction targets with
  | nil => rfl
  | cons target rest inductionHypothesis => rw [List.foldl_cons, plain, inductionHypothesis]

/-- A row that shares no users and no file with what goes stays as it is. -/
theorem bereft_eq_self {gone : Ref → Bool} (users : ∀ id, gone ⟨.user, id⟩ = false)
    (files : ∀ id, gone ⟨.attachment, id⟩ = false) (row : Row) : row.bereft gone = row := by
  have members : ∀ m : Members, (m.drop fun id => gone ⟨.user, id⟩) = m := by
    rintro ⟨ids, ascending⟩
    have all : (ids.filter fun id => !gone ⟨.user, id⟩) = ids := by simp [users]
    simp only [Members.drop, all]
  have file : ∀ link : Option Nat, (link.filter fun id => !gone ⟨.attachment, id⟩) = link := by
    intro link
    cases link <;> simp [Option.filter, files]
  have user : ∀ link : Option Nat, (link.filter fun id => !gone ⟨.user, id⟩) = link := by
    intro link
    cases link <;> simp [Option.filter, users]
  cases row <;> simp [bereft, members, file, user]

theorem ref_bereft (gone : Ref → Bool) (row : Row) : (row.bereft gone).ref = row.ref := by
  cases row <;> rfl

end Row

namespace Database

/-- A row goes if it is doomed, and otherwise forgets what is. -/
theorem survivor_eq (doomed : List Ref) (row : Row) :
    survivor doomed row =
      if row.ref ∈ doomed then none else some (row.bereft fun place => doomed.contains place) := by
  unfold survivor
  simp only [List.contains_iff_mem]
  split
  · rfl
  · congr 1
    cases row with
    | card part => rw [Row.foldl_forget_card]; rfl
    | cardReport part => rw [Row.foldl_forget_cardReport]; rfl
    | _ => rw [Row.foldl_forget_of_forget_eq _ fun _ => rfl]; rfl

/-- Look-up after a deletion: the doomed places are empty, and what stood elsewhere is
bereft of them. -/
theorem find?_delete (d : Database) (roots : List Ref) (place : Ref) :
    (d.delete roots).find? place =
      if place ∈ d.closure roots then none
      else (d.find? place).map (Row.bereft fun gone => (d.closure roots).contains gone) := by
  rw [delete, find?_mapRows]
  cases found : d.find? place with
  | none => simp
  | some row =>
      obtain ⟨-, rfl⟩ := find?_eq_some_iff.mp found
      rw [Option.bind_some, survivor_eq, Option.map_some]

/-- A row of a typed table after a deletion: it stood there before, and does not go. -/
theorem Slot.mem_delete {α : Type} [Numbered α] (slot : Slot α) {d : Database} {roots : List Ref}
    {part : α} (member : part ∈ (slot.table (d.delete roots)).rows) :
    ∃ old, (slot.table d).find? (Numbered.id part) = some old ∧
      ⟨slot.kind, Numbered.id part⟩ ∉ d.closure roots ∧
        (slot.inject old).bereft (fun gone => (d.closure roots).contains gone) = slot.inject part := by
  have here := slot.find?_inject (Table.find?_eq_some_iff.mpr ⟨member, rfl⟩)
  rw [find?_delete] at here
  split at here
  · cases here
  rename_i stays
  obtain ⟨row, found, bereft⟩ := Option.map_eq_some_iff.mp here
  obtain ⟨old, foundOld, rfl⟩ := slot.find?_eq_some found
  exact ⟨old, foundOld, stays, bereft⟩

/-- Numbers of deleted rows are not given again. -/
theorem next_delete (d : Database) (roots : List Ref) (kind : Kind) :
    (d.delete roots).next kind = d.next kind :=
  next_mapRows d _ _ kind

end Database

end GridCommons.Site
