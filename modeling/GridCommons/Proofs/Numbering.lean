import GridCommons.Proofs.Keys
import GridCommons.Proofs.Runs

/-!
Contract: the numbers of rows.

Owns:
- `Database.Grows` and `Database.Shrinks`: rows came under the numbers that were next, or rows
  went and no number was used up;
- that every step which leaves the numbering to the site is of one of the two sorts;
- that along a run of such steps the numbers that were given are those that rows have had.

Rows come and go in different steps.  So a number that was given in a step is the number of a row
after it, and a run can be looked at between its steps.
-/

namespace GridCommons.Site

namespace Database

variable {d d' d'' : Database} {row : Row}

/-- The same places are taken, and the same numbers are next. -/
structure Steady (d d' : Database) : Prop where
  next : ∀ kind, d'.next kind = d.next kind
  has : ∀ place, d'.has place = d.has place

/-- Rows came, under the numbers that were next. -/
structure Grows (d d' : Database) : Prop where
  next : ∀ kind, d.next kind ≤ d'.next kind
  kept : ∀ place, d.has place = true → d'.has place = true
  old : ∀ place, place.id < d.next place.kind → d'.has place = true → d.has place = true
  new : ∀ kind id, d.next kind ≤ id → id < d'.next kind → d'.has ⟨kind, id⟩ = true

/-- Rows went, and no number was used up. -/
structure Shrinks (d d' : Database) : Prop where
  next : ∀ kind, d'.next kind = d.next kind
  old : ∀ place, d'.has place = true → d.has place = true

theorem has_put (d : Database) (row : Row) (place : Ref) :
    (d.put row).has place = true ↔ row.ref = place ∨ d.has place = true := by
  unfold has
  rw [find?_put]
  split <;> simp_all

/-! ## Steady changes -/

theorem Steady.of_alike (alike : Alike d d') : Steady d d' where
  next := alike.next
  has place := by
    have same := congrArg Option.isSome (alike.ties place)
    rw [Option.isSome_map, Option.isSome_map] at same
    exact same

theorem Steady.put (present : d.has row.ref = true) : Steady d (d.put row) where
  next kind := by
    obtain ⟨old, found⟩ := has_iff.mp present
    have below : row.id < d.next row.kind := id_lt_next found
    rw [next_put]
    split
    · rename_i sameKind
      subst sameKind
      omega
    · rfl
  has place := by
    rw [Bool.eq_iff_iff, has_put]
    constructor
    · rintro (rfl | there)
      · exact present
      · exact there
    · exact .inr

theorem Steady.grows (steady : Steady d d') : Grows d d' where
  next kind := (steady.next kind).ge
  kept place there := (steady.has place).trans there
  old place _ there := (steady.has place).symm.trans there
  new kind id reached below := by
    have same := steady.next kind
    omega

theorem Steady.shrinks (steady : Steady d d') : Shrinks d d' where
  next := steady.next
  old place there := (steady.has place).symm.trans there

/-! ## Growth -/

theorem Grows.refl (d : Database) : Grows d d :=
  Steady.grows ⟨fun _ => rfl, fun _ => rfl⟩

theorem Grows.trans (first : Grows d d') (second : Grows d' d'') : Grows d d'' where
  next kind := (first.next kind).trans (second.next kind)
  kept place there := second.kept place (first.kept place there)
  old place given there :=
    first.old place given (second.old place (Nat.lt_of_lt_of_le given (first.next _)) there)
  new kind id reached below := by
    by_cases early : id < d'.next kind
    · exact second.kept _ (first.new kind id reached early)
    · exact second.new kind id (Nat.le_of_not_lt early) below

theorem Grows.put (new : row.id = d.next row.kind) : Grows d (d.put row) where
  next kind := by
    rw [next_put]
    split <;> omega
  kept place there := (has_put d row place).mpr (.inr there)
  old place given there := by
    rcases (has_put d row place).mp there with rfl | there
    · exact absurd new (Nat.ne_of_lt given)
    · exact there
  new kind id reached below := by
    rw [next_put] at below
    split at below
    · rename_i sameKind
      subst sameKind
      have same : row.id = id := by omega
      exact (has_put d row _).mpr (.inl (same ▸ rfl))
    · omega

theorem Grows.store (stored : d.store row = .ok d') (new : row.id = d.next row.kind) : Grows d d' := by
  obtain ⟨-, rfl⟩ := store_eq_ok_iff.mp stored
  exact .put new

theorem Steady.store (stored : d.store row = .ok d') (present : d.has row.ref = true) : Steady d d' := by
  obtain ⟨-, rfl⟩ := store_eq_ok_iff.mp stored
  exact .put present

/-- What proceeds only adds rows, under new numbers. -/
theorem Proceeds.grows (proceeds : Proceeds d d') : Grows d d' := by
  cases proceeds with
  | altered alike => exact (Steady.of_alike alike).grows
  | replaced present stored => exact (Steady.store stored present).grows
  | next new stored => exact .store stored new

theorem Grows.of_proceeds (run : Relation.ReflTransGen Proceeds d d') : Grows d d' := by
  induction run with
  | refl => exact .refl d
  | tail _ proceeds inductionHypothesis => exact inductionHypothesis.trans proceeds.grows

/-! ## Loss -/

theorem Shrinks.trans (first : Shrinks d d') (second : Shrinks d' d'') : Shrinks d d'' where
  next kind := (second.next kind).trans (first.next kind)
  old place there := first.old place (second.old place there)

theorem Shrinks.refl (d : Database) : Shrinks d d :=
  Steady.shrinks ⟨fun _ => rfl, fun _ => rfl⟩

theorem Shrinks.of_run (run : Relation.ReflTransGen Shrinks d d') : Shrinks d d' := by
  induction run with
  | refl => exact .refl d
  | tail _ shrinks inductionHypothesis => exact inductionHypothesis.trans shrinks

/-- A deletion gives out no number. -/
theorem Shrinks.delete (d : Database) (roots : List Ref) : Shrinks d (d.delete roots) where
  next := next_delete d roots
  old place there := by
    obtain ⟨row, found⟩ := has_iff.mp there
    rw [find?_delete] at found
    split at found
    · cases found
    · obtain ⟨old, stood, -⟩ := Option.map_eq_some_iff.mp found
      exact has_iff.mpr ⟨old, stood⟩

/-! ## Either -/

/-- The numbers that were used up are those of rows that came, and no row came under another. -/
structure Counts (d d' : Database) : Prop where
  next : ∀ kind, d.next kind ≤ d'.next kind
  old : ∀ place, place.id < d.next place.kind → d'.has place = true → d.has place = true
  new : ∀ kind id, d.next kind ≤ id → id < d'.next kind → d'.has ⟨kind, id⟩ = true

theorem Grows.counts (grows : Grows d d') : Counts d d' :=
  ⟨grows.next, grows.old, grows.new⟩

theorem Shrinks.counts (shrinks : Shrinks d d') : Counts d d' where
  next kind := (shrinks.next kind).ge
  old place _ there := shrinks.old place there
  new kind id reached below := by
    have same := shrinks.next kind
    omega

end Database

end GridCommons.Site

namespace GridCommons.Web

open Site Site.Database

/-- The address is one at which rows are removed. -/
def Address.removes : Address → Bool
  | .removeWall _ | .deleteProfileNote _ => true
  | .admin page => !page.entersRow
  | _ => false

variable {r : Request} {actor : Option User} {address : Address} {d d' : Database}

/-- Where no rows are removed, every deed of a client proceeds. -/
theorem Deed.proceeds (deed : Deed r actor address d d') (client : r.visitor.isClient = true)
    (keeps : address.removes = false) : Relation.ReflTransGen Proceeds d d' := by
  cases deed with
  | registered _ _ _ _ stored | commented _ _ stored | reported _ _ _ stored
  | wallAdded _ _ _ _ _ stored | noteAdded _ _ _ _ stored | fileStored _ _ stored
  | cardMade _ _ _ stored => exact .single (.next rfl stored)
  | passwordStored _ _ found stored | passwordChanged _ _ _ _ found stored => exact .single (Slot.user.proceeds_store found stored rfl)
  | profileChanged _ known stored => exact .single (Slot.user.proceeds_store (known client) stored rfl)
  | loginNoted user now => exact .single (.altered (alike_noteLogin user.id now))
  | cellsFilled _ _ _ _ added => exact Cells.proceeds_of_addAll added
  | cardUnblocked _ _ found | cardUnblockedByStaff _ _ found =>
      exact .single (.altered (Slot.card.alike_put found rfl rfl))
  | joined row _ found stored | left row _ _ found stored =>
      refine .single (.replaced (has_iff.mpr ⟨row, ?_⟩) stored)
      rw [Relation.ref_withMembers, (find?_eq_some_iff.mp found).2]
      exact found
  | cardBlocked _ _ _ found stored => exact .single (Slot.card.proceeds_store found stored rfl)
  | reportResolved _ _ _ found _ stored => exact .single (Slot.cardReport.proceeds_store found stored rfl)
  | flagStored _ _ found stored => exact .single (Slot.commentFlag.proceeds_store found stored rfl)
  | commentBlocked _ _ found => exact .single (.altered (Slot.comment.alike_put found rfl rfl))
  | userBanned _ _ found => exact .single (.altered (Slot.user.alike_put found rfl rfl))
  | cardsOfBanned => exact .single (.altered (alike_blockCardsOf _))
  | commentsOfBanned => exact .single (.altered (alike_blockCommentsOf _))
  | statusChanged report settled _ found changed stored =>
      exact .single (.replaced (has_settled found changed) stored)
  | cardEntered _ _ _ _ place stored =>
      rcases place with there | new
      · refine .single (.replaced ?_ stored)
        exact (Slot.card.has_eq d _).trans there
      · refine .single (.next ?_ stored)
        exact new
  | reportEntered _ _ _ _ place stored =>
      rcases place with there | new
      · refine .single (.replaced ?_ stored)
        exact (Slot.cardReport.has_eq d _).trans there
      · refine .single (.next ?_ stored)
        exact new
  | adminDeleted _ _ apart => simp [Address.removes, apart] at keeps
  | wallRemoved | noteRemoved | listEdited | listSettled => cases keeps

/-- Where rows are removed, none is added. -/
theorem Deed.shrinks (deed : Deed r actor address d d') (removes : address.removes = true) :
    Shrinks d d' := by
  cases deed with
  | wallRemoved | noteRemoved => exact .delete d _
  | adminDeleted roots => exact .delete d roots
  | loginNoted user now => exact (Steady.of_alike (alike_noteLogin user.id now)).shrinks
  | statusChanged report settled _ found changed stored =>
      exact (Steady.store stored (has_settled found changed)).shrinks
  | passwordChanged owner _ _ _ found stored =>
      exact (Steady.store stored (Slot.user.has_of_find? found)).shrinks
  | cardEntered _ _ _ enters | reportEntered _ _ _ enters => simp [Address.removes, enters] at removes
  | listEdited report _ _ present stored =>
      exact (Steady.store stored ((Slot.cardReport.has_eq d _).trans present)).shrinks
  | listSettled verdict ids => exact (Steady.of_alike (alike_settleIn verdict ids)).shrinks
  | joined _ marks | left _ marks =>
      -- no address both marks a row and removes one
      revert removes marks
      cases address <;> simp [Address.removes, Address.relation?]
  | _ => cases removes

end GridCommons.Web

namespace GridCommons

open Site

namespace Step

/-- The step leaves it to the site under which numbers rows are stored. -/
def LeavesNumbering : Step → Prop
  | .createUser new => new.others.get "id" = .null
  | .create _ values => values.get "id" = .null
  | .update _ _ changes => ∀ change ∈ changes, change.1 ≠ "id"
  | .call _ (.unsaved values) _ => values.get "id" = .null
  | .request r => r.visitor.isClient = true
  | .arrive arrival => arrival.request.visitor.isClient = true
  | _ => True

variable {step : Step} {r : Web.Request}

theorem LeavesNumbering.isClient (leaves : step.LeavesNumbering) (sends : step.sent? = some r) :
    r.visitor.isClient = true := by
  cases step with
  | request | arrive =>
      cases sends
      exact leaves
  | _ => cases sends

/-- A request of a client never gives a number twice. -/
theorem counts_of_sent (sends : step.sent? = some r) (client : r.visitor.isClient = true) (w : World) :
    w.database.Counts (step.take w).2.database := by
  cases removes : (Web.addressOf r.path).any Web.Address.removes with
  | false =>
      refine Database.Grows.counts ?_
      apply take_keeps _ Database.Grows.refl Database.Grows.trans sends
      intro body address there d d' deed
      rw [there] at removes
      exact .of_proceeds (deed.proceeds client removes)
  | true =>
      refine Database.Shrinks.counts ?_
      apply take_keeps _ Database.Shrinks.refl Database.Shrinks.trans sends
      intro body address there d d' deed
      rw [there] at removes
      exact deed.shrinks removes

/-- Deleting a row by an operation gives out no number. -/
theorem call_shrinks (draft : Draft) {before : Database → Prop} :
    (draft.call .delete).Obeys Database.Shrinks before fun _ _ => True := by
  refine Action.Obeys.then_pure ?_
  unfold Draft.delete
  split
  · exact .fail
  refine Action.query_reads.silent.then fun d => Action.Obeys.seq ?_ fun _ => .done
  exact .mutate fun d _ => .delete d _

theorem call_proceeds {draft : Draft} {before : Database → Prop} {operation : Operation}
    (placed : draft.Placed before) (keeps : operation ≠ .delete) :
    (draft.call operation).Obeys Database.Proceeds before fun _ _ => True := by
  refine Draft.call_obeys .altered (fun flag => Draft.save_proceeds ?_) fun same => absurd same keeps
  rw [Draft.Placed, Draft.column, Draft.set, Record.get_set_of_ne (by decide)]
  exact placed

/-- Calling an operation of a row does what the operation of its draft does.  The draft of a stored
row has the number of the row. -/
theorem act_call_obeys {moves : Database → Database → Prop} {kind : Kind} {subject : Subject}
    {operation : Operation} (leaves : (Step.call kind subject operation).LeavesNumbering)
    (calls : ∀ draft before, Draft.Placed before draft →
      (draft.call operation).Obeys moves before fun _ _ => True) :
    (Step.call kind subject operation).act.Obeys moves (fun _ => True) fun _ _ => True := by
  cases subject with
  | stored id =>
      refine (Action.loadRow_reads _).then fun row => ?_
      rw [pure_bind]
      refine (calls (Draft.ofRow row) _ (.inr ⟨row.id, row.get_id_values, ?_⟩)).then_pure
      rintro d ⟨-, found⟩
      refine Database.has_iff.mpr ⟨row, ?_⟩
      rw [← (Database.find?_eq_some_iff.mp found).2] at found
      exact found
  | unsaved values =>
      refine Action.now_silent.then fun now => ?_
      rw [pure_bind]
      exact (calls _ _ (.inl (Draft.column_id_make now leaves))).then_pure

/-- A step that leaves the numbering to the site uses up the numbers of the rows that it stores,
and no others. -/
theorem take_counts (leaves : step.LeavesNumbering) (w : World) :
    w.database.Counts (step.take w).2.database := by
  have proceeding : ∀ {acted : Step}, acted.act.Proceeding → w.database.Counts (acted.take w).2.database :=
    fun obeys => (Database.Grows.of_proceeds (obeys (nextSecond w) trivial).1).counts
  cases sends : step.sent? with
  | some r => exact counts_of_sent sends (leaves.isClient sends) w
  | none =>
      cases apart : step.handsIn with
      | false => exact proceeding (act_proceeding sends apart)
      | true =>
          cases step with
          | createUser new =>
              refine proceeding (Account.create_obeys new fun password now values unnamed => ?_).then_pure
              exact Draft.insertAs_proceeds password (Draft.column_id_make now (unnamed leaves))
          | create kind values =>
              refine proceeding (Action.now_silent.then fun now => Action.Obeys.then_pure ?_)
              exact Draft.insertAs_proceeds none (Draft.column_id_make now leaves)
          | update kind id changes => exact proceeding (Draft.update_proceeds kind id leaves).then_pure
          | call kind subject operation =>
              by_cases deletes : operation = .delete
              · subst deletes
                have obeys := act_call_obeys leaves fun draft _ _ => call_shrinks draft
                exact (Database.Shrinks.of_run (obeys (nextSecond w) trivial).1).counts
              · exact proceeding (act_call_obeys leaves fun _ _ placed => call_proceeds placed deletes)
          | _ => cases apart

end Step

/-! ## Runs -/

/-- At some moment of the run, a row of the kind had the number. -/
def EverHeld (kind : Kind) (id : Nat) (steps : List Step) (w : World) : Prop :=
  ∃ earlier, earlier <+: steps ∧ (runSteps earlier w).2.database.has ⟨kind, id⟩ = true

variable {kind : Kind} {id : Nat} {steps : List Step} {w : World}

theorem everHeld_nil : EverHeld kind id [] w ↔ w.database.has ⟨kind, id⟩ = true := by
  constructor
  · rintro ⟨earlier, begins, there⟩
    rw [List.prefix_nil.mp begins] at there
    exact there
  · exact fun there => ⟨[], List.prefix_rfl, there⟩

theorem everHeld_cons {step : Step} :
    EverHeld kind id (step :: steps) w ↔
      w.database.has ⟨kind, id⟩ = true ∨ EverHeld kind id steps (step.take w).2 := by
  constructor
  · rintro ⟨earlier, begins, there⟩
    rcases List.prefix_cons_iff.mp begins with rfl | ⟨between, rfl, beginsLater⟩
    · exact .inl there
    · exact .inr ⟨between, beginsLater, there⟩
  · rintro (there | ⟨earlier, begins, there⟩)
    · exact ⟨[], List.nil_prefix, there⟩
    · exact ⟨step :: earlier, List.cons_prefix_cons.mpr ⟨rfl, begins⟩, there⟩

/-- The next number of a kind never falls along a run. -/
theorem next_le_runSteps (leaves : ∀ step ∈ steps, step.LeavesNumbering) :
    w.database.next kind ≤ (runSteps steps w).2.database.next kind := by
  induction steps generalizing w with
  | nil => exact Nat.le_refl _
  | cons step rest inductionHypothesis =>
      obtain ⟨first, later⟩ := List.forall_mem_cons.mp leaves
      exact ((step.take_counts first w).next kind).trans (inductionHypothesis later)

/-- The numbers that a run gives are those that rows have in the course of it. -/
theorem everHeld_iff (leaves : ∀ step ∈ steps, step.LeavesNumbering) :
    EverHeld kind id steps w ↔
      w.database.has ⟨kind, id⟩ = true ∨
        w.database.next kind ≤ id ∧ id < (runSteps steps w).2.database.next kind := by
  induction steps generalizing w with
  | nil =>
      rw [everHeld_nil]
      constructor
      · exact .inl
      · rintro (there | ⟨reached, below⟩)
        · exact there
        · exact absurd below (Nat.not_lt.mpr reached)
  | cons step rest inductionHypothesis =>
      obtain ⟨first, later⟩ := List.forall_mem_cons.mp leaves
      have counts := step.take_counts first w
      have started := counts.next kind
      have went : (step.take w).2.database.next kind ≤ (runSteps (step :: rest) w).2.database.next kind :=
        next_le_runSteps later
      rw [everHeld_cons, inductionHypothesis later]
      constructor
      · rintro (there | there | ⟨reached, below⟩)
        · exact .inl there
        · by_cases given : id < w.database.next kind
          · exact .inl (counts.old _ given there)
          · obtain ⟨row, found⟩ := Database.has_iff.mp there
            have below : id < (step.take w).2.database.next kind := Database.id_lt_next found
            exact .inr ⟨by omega, by omega⟩
        · exact .inr ⟨by omega, below⟩
      · rintro (there | ⟨reached, below⟩)
        · exact .inl there
        · by_cases early : id < (step.take w).2.database.next kind
          · exact .inr (.inl (counts.new kind id reached early))
          · exact .inr (.inr ⟨by omega, below⟩)

/-- From an empty site on, the numbers that were ever held are those below the next one. -/
theorem everHeld_iff_of_empty (leaves : ∀ step ∈ steps, step.LeavesNumbering) (now : Instant) :
    EverHeld kind id steps { now } ↔ 1 ≤ id ∧ id < (runSteps steps { now }).2.database.next kind := by
  have first : ({} : Database).next kind = 1 := by cases kind <;> rfl
  have nobody : ({} : Database).has ⟨kind, id⟩ = false := by cases kind <;> rfl
  rw [everHeld_iff leaves, first, nobody]
  simp

/-- In a run from the empty site that leaves the numbering to it, no key comes up twice.  A row that
a step adds has a number above all that rows of its kind have had, and none below it is left out. -/
theorem keys_unique_and_numbers_fresh (steps : List Step) (now : Instant)
    (leaves : ∀ step ∈ steps, step.LeavesNumbering) :
    (runSteps steps { now }).2.database.Unrepeated ∧
      ∀ earlier step, earlier ++ [step] <+: steps → ∀ kind id,
        (runSteps earlier { now }).2.database.has ⟨kind, id⟩ = false →
        (runSteps (earlier ++ [step]) { now }).2.database.has ⟨kind, id⟩ = true →
          (∀ held, EverHeld kind held earlier { now } → held < id) ∧
            ∀ number, 1 ≤ number → number ≤ id → EverHeld kind number (earlier ++ [step]) { now } := by
  refine ⟨runSteps_unrepeated steps now, fun earlier step begins kind id absent present => ?_⟩
  have leavesThen : ∀ taken ∈ earlier ++ [step], taken.LeavesNumbering :=
    fun taken member => leaves taken (begins.subset member)
  have leavesBefore : ∀ taken ∈ earlier, taken.LeavesNumbering :=
    fun taken member => leavesThen taken (List.mem_append_left _ member)
  have counts := step.take_counts (leavesThen step (by simp)) (runSteps earlier { now }).2
  have took := runSteps_append earlier [step] { now }
  obtain ⟨row, found⟩ := Database.has_iff.mp present
  have below : id < (runSteps (earlier ++ [step]) { now }).2.database.next kind := Database.id_lt_next found
  rw [took] at present
  constructor
  · intro held was
    have given := ((everHeld_iff_of_empty leavesBefore now).mp was).2
    by_contra notAbove
    have early : id < (runSteps earlier { now }).2.database.next kind := by omega
    have old := counts.old ⟨kind, id⟩ early present
    rw [absent] at old
    cases old
  · intro number positive upTo
    exact (everHeld_iff_of_empty leavesThen now).mpr ⟨positive, by omega⟩

/-- Somebody comes, the name is refused a second time, and the account is deleted. -/
def annComesAndGoes : List Step :=
  [.createUser { username := "ann" }, .createUser { username := "ann" }, .call .user (.stored 1) .delete]

/-- Whoever comes next gets the second number: the first one is not given again, and the refusal has
used up none. -/
theorem keys_unique_and_numbers_fresh_bob :
    EverHeld .user 1 annComesAndGoes { now := ⟨0⟩ } ∧
      (runSteps (annComesAndGoes ++ [.createUser { username := "bob" }]) { now := ⟨0⟩ }).2.database.has
        ⟨.user, 2⟩ = true ∧
      (∀ held, EverHeld .user held annComesAndGoes { now := ⟨0⟩ } → held < 2) ∧
      EverHeld .user 1 (annComesAndGoes ++ [.createUser { username := "bob" }]) { now := ⟨0⟩ } := by
  have leaves : ∀ step ∈ annComesAndGoes ++ [.createUser { username := "bob" }], step.LeavesNumbering := by
    simp [annComesAndGoes, Step.LeavesNumbering, Record.get]
  have added : (runSteps (annComesAndGoes ++ [.createUser { username := "bob" }])
      { now := ⟨0⟩ }).2.database.has ⟨.user, 2⟩ = true := by decide +kernel
  obtain ⟨above, complete⟩ := (keys_unique_and_numbers_fresh _ ⟨0⟩ leaves).2 annComesAndGoes
    (.createUser { username := "bob" }) List.prefix_rfl .user 2 (by decide +kernel) added
  exact ⟨⟨annComesAndGoes.take 1, List.take_prefix _ _, by decide +kernel⟩, added, above,
    complete 1 (by decide) (by decide)⟩

end GridCommons
