import GridCommons.Form.Registration
import GridCommons.Proofs.Change

/-!
Contract: what storing a draft does to the database.

Owns:
- the one write behind inserting, saving and updating a draft;
- that each of them is a change of the known sorts, and one that proceeds where the draft
  chooses no number;
- the user that a valid registration stores.
-/

namespace GridCommons.Site

/-! ## Numbers among values -/

theorem bind_eq_ok {ε α β : Type} {x : Except ε α} {f : α → Except ε β} {b : β}
    (ends : x >>= f = .ok b) : ∃ a, x = .ok a ∧ f a = .ok b := by
  cases x with
  | error fault => cases ends
  | ok a => exact ⟨a, rfl, ends⟩

theorem Record.get_map {r : Record} {f : String × Datum → String × Datum} {name : String}
    (names : ∀ entry, (f entry).1 = entry.1) (same : ∀ value, f (name, value) = (name, value)) :
    Record.get (r.map f) name = r.get name := by
  unfold Record.get
  congr 1
  induction r with
  | nil => rfl
  | cons entry rest inductionHypothesis =>
      obtain ⟨other, value⟩ := entry
      by_cases here : other = name
      · subst here
        simp [same]
      · have differs : (name == other) = false := by simpa using Ne.symm here
        have kept := names (other, value)
        rw [List.map_cons]
        rcases changed : f (other, value) with ⟨shown, stored⟩
        rw [changed] at kept
        subst kept
        simp only [List.lookup_cons, differs, inductionHypothesis]

theorem Kind.columns_eq (kind : Kind) : kind.columns = .serial :: kind.columns.tail := by
  cases kind <;> rfl

theorem Row.get_id_values (row : Row) : row.values.get "id" = .int row.id := by
  cases row <;> rfl

theorem forall_bind_eq_some {α β : Type} {o : Option α} {f : α → Option β} {good : β → Prop}
    (every : ∀ a, o = some a → ∀ b, f a = some b → good b) :
    ∀ b, o >>= f = some b → good b := by
  intro b ends
  obtain ⟨a, first, second⟩ := Option.bind_eq_some_iff.mp ends
  exact every a first b second

/-- Values make up a row of their kind, under the number that they name. -/
theorem Row.of_ofValues? {kind : Kind} {password : Password} {r : Record} :
    ∀ row, Row.ofValues? kind password r = some row →
      row.kind = kind ∧ (r.get "id").asId? = some row.id := by
  cases kind <;>
  · unfold Row.ofValues?
    refine forall_bind_eq_some fun id numbered => ?_
    -- the other values do not matter
    repeat refine forall_bind_eq_some fun _ _ => ?_
    rintro _ ⟨⟩
    exact ⟨rfl, numbered⟩

theorem Row.ref_takeMembers (row old : Row) : (row.takeMembers old).ref = row.ref := by
  cases row <;> cases old <;> rfl

theorem Record.get_set_self (r : Record) (name : String) (value : Datum) :
    (r.set name value).get name = value := by
  unfold Record.get
  induction r with
  | nil => simp [Record.set]
  | cons entry rest inductionHypothesis =>
      obtain ⟨other, old⟩ := entry
      by_cases here : other = name
      · simp [Record.set, here]
      · have differs : (name == other) = false := by simpa using Ne.symm here
        simpa [Record.set, here, List.lookup_cons, differs] using inductionHypothesis

theorem Record.get_set_of_ne {name other : String} (apart : other ≠ name) (r : Record) (value : Datum) :
    (r.set other value).get name = r.get name := by
  have differs : (name == other) = false := by simpa using Ne.symm apart
  unfold Record.get
  induction r with
  | nil => simp [Record.set, List.lookup_cons, differs]
  | cons entry rest inductionHypothesis =>
      obtain ⟨here, old⟩ := entry
      by_cases same : here = other
      · simp [Record.set, same, List.lookup_cons, differs]
      · by_cases found : name == here
        · simp [Record.set, same, List.lookup_cons, found]
        · simpa [Record.set, same, List.lookup_cons, found] using inductionHypothesis

theorem Record.get_foldl_set {changes : Record} {name : String}
    (unnamed : ∀ change ∈ changes, change.1 ≠ name) (r : Record) :
    (changes.foldl (fun r change => r.set change.1 change.2) r).get name = r.get name := by
  induction changes generalizing r with
  | nil => rfl
  | cons change rest inductionHypothesis =>
      obtain ⟨first, later⟩ := List.forall_mem_cons.mp unnamed
      rw [List.foldl_cons, inductionHypothesis later, Record.get_set_of_ne first]

namespace Draft

variable {moves : Database → Database → Prop} {before : Database → Prop}

/-- How a row is stored in place of an older one, if there is one. -/
def placing (old : Option Row) (row : Row) (d : Database) : Except Database.Violation Database :=
  match old with
  | none => d.storeFresh row
  | some previous =>
    if row.ref = previous.ref then d.store (row.takeMembers previous)
    else d.move previous (row.takeMembers previous)

theorem storeValues_obeys (kind : Kind) (password : Password)
    (r : Record) (old : Option Row)
    (moved : ∀ d d' row, before d → Row.ofValues? kind password r = some row →
      placing old row d = .ok d' → moves d d') :
    (storeValues kind password r old).Obeys moves before fun _ _ => True := by
  unfold storeValues
  refine Action.writable_silent.then fun _ => .ite (fun _ => .fail_bind) fun _ => ?_
  split
  · exact .fail
  split
  · rename_i row made
    exact .commit fun d d' start placed => moved d d' row start made placed
  · exact .fail

/-- The number under which a draft is inserted. -/
def insertId (kind : Kind) (r : Record) (d : Database) : Nat :=
  (r.get "id").asId?.getD (d.next kind)

theorem insertAs_obeys (password : Option Password) (draft : Draft)
    (moved : ∀ now r d d' row, before d → (draft.stamp now true).taken = .ok r →
      Row.ofValues? draft.kind (password.getD (plainPassword r))
        (r.set "id" (.int (insertId draft.kind r d))) = some row →
      d.storeFresh row = .ok d' → moves d d') :
    (draft.insertAs password).Obeys moves before fun _ _ => True := by
  refine Action.now_silent.then fun now => (Action.ofExcept_reads _).then fun r => ?_
  refine Action.get_reads.then fun w => .ite (fun _ => ?_) fun _ => Action.Obeys.seq ?_ fun _ => .done
  · exact Action.writable_silent.then fun _ => .fail_bind
  refine storeValues_obeys _ _ _ _ fun d d' row start made placed => ?_
  obtain ⟨⟨start, taken⟩, rfl⟩ := start
  exact moved now r _ d' row start taken made placed

/-! ## Drafts change the database in the known ways -/

theorem evolves_of_placing {old : Option Row} {row : Row} {d d' : Database}
    (placed : placing old row d = .ok d') : d.Evolves d' := by
  unfold placing at placed
  split at placed
  · exact .stored (Database.storeFresh_eq_ok placed).2
  · split at placed
    · exact .stored placed
    · exact .moved placed

/-- Values are stored as a row that no constraint forbids, or not at all. -/
theorem storeValues_evolves (kind : Kind) (password : Password) (r : Record) (old : Option Row) :
    (storeValues kind password r old).Obeys Database.Evolves before fun _ _ => True :=
  storeValues_obeys kind password r old fun _ _ _ _ _ placed => evolves_of_placing placed

theorem insertAs_evolves (password : Option Password) (draft : Draft) :
    (draft.insertAs password).Obeys Database.Evolves before fun _ _ => True :=
  insertAs_obeys password draft fun _ _ _ _ _ _ _ _ stored =>
    .stored (Database.storeFresh_eq_ok stored).2

theorem save_evolves (draft : Draft) :
    draft.save.Obeys Database.Evolves before fun _ _ => True := by
  unfold save
  split
  · exact insertAs_evolves none draft
  refine Action.now_silent.then fun now => (Action.ofExcept_reads _).silent.then fun r => ?_
  refine Action.writable_silent.then fun _ => Action.get_reads.silent.then fun w => ?_
  split
  · exact insertAs_evolves none draft
  · exact (storeValues_evolves _ _ _ _).then_pure

theorem update_evolves (kind : Kind) (id : Nat) (changes : Record) :
    (update kind id changes).Obeys Database.Evolves before fun _ _ => True := by
  unfold update
  refine Action.Silent.then (.mapM fun change => ?_) fun taken => ?_
  · obtain ⟨name, value⟩ := change
    dsimp only
    split
    · exact (Action.ofExcept_reads _).silent.bind fun _ => .pure
    · exact .fail
  refine Action.writable_silent.then fun _ => ?_
  refine .ite (fun _ => .fail_bind) fun _ => Action.get_reads.silent.then fun w => ?_
  split
  · exact .done
  · exact (storeValues_evolves _ _ _ _).then_pure

/-! ## Drafts that choose no number -/

section Numbers

variable {draft : Draft} {r : Record}

/-- The draft has no number, or that of a row that is there. -/
def Placed (before : Database → Prop) (draft : Draft) : Prop :=
  draft.column "id" = .null ∨
    ∃ id : Nat, draft.column "id" = .int id ∧ ∀ d, before d → d.has ⟨draft.kind, id⟩ = true

theorem column_id_stamp (draft : Draft) (now : Instant) (inserting : Bool) :
    (draft.stamp now inserting).column "id" = draft.column "id" := by
  have serial : (draft.kind.column? "id").map Column.shape = some .serial := by
    cases draft.kind <;> rfl
  apply Record.get_map
  · rintro ⟨name, value⟩
    dsimp only
    split <;> rfl
  · intro value
    simp [serial]

/-- The number that a draft stores is the one that it has. -/
theorem get_id_taken (taken : draft.taken = .ok r) :
    Column.serial.taken (draft.column "id") = .ok (r.get "id") := by
  unfold Draft.taken at taken
  rw [Kind.columns_eq, List.mapM_cons] at taken
  obtain ⟨entry, first, taken⟩ := bind_eq_ok taken
  obtain ⟨entries, -, made⟩ := bind_eq_ok taken
  obtain ⟨value, stored, paired⟩ := bind_eq_ok first
  cases paired
  cases made
  exact stored

theorem column_id_make {kind : Kind} {values : Record} (now : Instant)
    (unnamed : values.get "id" = .null) : (make kind now values).column "id" = .null := by
  unfold column make
  dsimp only
  rw [Kind.columns_eq, List.map_cons, Record.get, show Column.serial.name = "id" from rfl,
    List.lookup_cons_self]
  rw [Record.get] at unnamed
  cases named : values.lookup "id" with
  | none => rfl
  | some value =>
      rw [named] at unnamed
      exact unnamed

/-- A draft without a number is inserted as a new row. -/
theorem insertAs_proceeds (password : Option Password) (unnumbered : draft.column "id" = .null) :
    (draft.insertAs password).Obeys Database.Proceeds before fun _ _ => True := by
  refine insertAs_obeys password draft fun now r d d' row start taken made stored => ?_
  have stamped := get_id_taken taken
  rw [column_id_stamp, unnumbered] at stamped
  have unnamed : r.get "id" = .null := (Except.ok.inj stamped).symm
  obtain ⟨kind, numbered⟩ := Row.of_ofValues? row made
  rw [Record.get_set_self, insertId, unnamed] at numbered
  have new : row.id = d.next row.kind := by
    rw [kind]
    exact (Option.some.inj numbered).symm
  exact .next new (Database.storeFresh_eq_ok stored).2

/-- Values that name the number of a stored row are stored over it. -/
theorem storeValues_proceeds {old : Row} {kind : Kind} {id : Nat} (password : Password)
    (place : old.ref = ⟨kind, id⟩) (numbered : r.get "id" = .int id)
    (there : ∀ d, before d → d.has ⟨kind, id⟩ = true) :
    (storeValues kind password r (some old)).Obeys Database.Proceeds before fun _ _ => True := by
  refine storeValues_obeys _ _ _ _ fun d d' row start made placed => ?_
  obtain ⟨sameKind, named⟩ := Row.of_ofValues? row made
  rw [numbered] at named
  have same : row.ref = ⟨kind, id⟩ := by
    rw [Row.ref, sameKind, Option.some.inj named]
  rw [placing, if_pos (same.trans place.symm)] at placed
  refine .replaced ?_ placed
  rw [Row.ref_takeMembers, same]
  exact there d start

/-- Saving a draft replaces the row it was made from, or inserts a new one. -/
theorem save_proceeds (placed : draft.Placed before) :
    draft.save.Obeys Database.Proceeds before fun _ _ => True := by
  rcases placed with unnumbered | ⟨id, numbered, there⟩
  · have unsaved : draft.id? = none := by rw [id?, unnumbered]; rfl
    rw [save, unsaved]
    exact insertAs_proceeds none unnumbered
  have saved : draft.id? = some id := by rw [id?, numbered]; rfl
  rw [save, saved]
  refine Action.now_silent.then fun now => (Action.ofExcept_reads _).then fun r => ?_
  refine Action.writable_silent.then fun _ => Action.get_reads.then fun w => ?_
  refine .knowing ((draft.stamp now false).taken = .ok r ∧ w.database.has ⟨draft.kind, id⟩ = true)
    (fun d start => ⟨start.1.2, start.2 ▸ there d start.1.1⟩) fun ⟨taken, present⟩ => ?_
  obtain ⟨old, found⟩ := Database.has_iff.mp present
  simp only [found]
  have stamped := get_id_taken taken
  rw [column_id_stamp, numbered] at stamped
  refine Action.Obeys.then_pure (storeValues_proceeds _ (Database.find?_eq_some_iff.mp found).2 ?_ ?_)
  · exact (Except.ok.inj stamped).symm
  · rintro d ⟨-, rfl⟩
    exact present

theorem update_proceeds (kind : Kind) (id : Nat) {changes : Record}
    (unnamed : ∀ change ∈ changes, change.1 ≠ "id") :
    (update kind id changes).Obeys Database.Proceeds before fun _ _ => True := by
  unfold update
  refine Action.Reads.then (.mapM (fun entry => entry.1 ≠ "id") fun change listed => ?_) fun taken => ?_
  · obtain ⟨name, value⟩ := change
    dsimp only
    split
    · exact (Action.ofExcept_reads _).silent.then fun _ => .pure fun _ _ => unnamed (name, value) listed
    · exact .fail
  refine Action.writable_silent.then fun _ => ?_
  refine .ite (fun _ => .fail_bind) fun _ => Action.get_reads.then fun w => ?_
  refine .knowing _ (fun d start => start.1.2) fun unnamed => ?_
  split
  · exact .done
  · rename_i old found
    refine Action.Obeys.then_pure (storeValues_proceeds _ (Database.find?_eq_some_iff.mp found).2 ?_ ?_)
    · rw [← (Ref.mk.inj (Database.find?_eq_some_iff.mp found).2).2, ← old.get_id_values]
      exact Record.get_foldl_set unnamed old.values
    · rintro d ⟨-, rfl⟩
      exact Database.has_iff.mpr ⟨old, found⟩

end Numbers

end Draft

end GridCommons.Site

namespace GridCommons.Form.Registration

open Site Account

/-- The user that a valid registration makes. -/
def newUser (v : Valid) (id : Nat) (now : Instant) (salt : Nat) : User :=
  { id, username := Username.stored v.username, email := v.email, dateJoined := now,
    password := .salted v.password salt }

/-- The values of a new user's columns, apart from the number. -/
def newValues (v : Valid) (now : Instant) : Record :=
  [("password", .text ""), ("last_login", .null), ("is_superuser", .bool false),
    ("username", .text (Username.stored v.username)), ("first_name", .text ""),
    ("last_name", .text ""), ("email", .text v.email), ("is_staff", .bool false),
    ("is_active", .bool true), ("date_joined", .instant now), ("birth_date", .null),
    ("bio", .text ""), ("location", .text ""), ("avatar", .text "")]

/-- The draft that a valid registration makes. -/
def draft (v : Valid) (now : Instant) : Draft :=
  Draft.make .user now
    [("username", .text (Username.stored v.username)), ("email", .text v.email)]

/-- What a valid registration hands to the database, column by column. -/
theorem taken_draft (v : Valid) (made stamped : Instant) :
    ((draft v made).stamp stamped true).taken = .ok (("id", .null) :: newValues v made) :=
  rfl

/-- The handed values make up the new user. -/
theorem ofValues?_newValues (v : Valid) (now : Instant) (id salt : Nat) :
    Row.ofValues? .user (.salted v.password salt) (("id", .int id) :: newValues v now) =
      some (.user (newUser v id now salt)) :=
  rfl

theorem storedPassword_reads (secret : String) :
    (storedPassword (some secret)).Reads fun password _ => ∃ salt, password = .salted secret salt :=
  Action.drawSalt_silent.then fun salt => .pure fun _ _ => ⟨salt, rfl⟩

theorem save_obeys {moves : Database → Database → Prop} {before : Database → Prop}
    (v : Valid)
    (moved : ∀ d d' now salt, before d →
      d.store (.user (newUser v d.users.next now salt)) = .ok d' → moves d d') :
    (save v).Obeys moves before fun _ _ => True := by
  refine (storedPassword_reads v.password).then fun password => Action.now_silent.then fun now => ?_
  refine Draft.insertAs_obeys (some password) (draft v now) ?_
  rintro stamped r d d' row ⟨start, salt, rfl⟩ taken made stored
  cases (taken_draft v now stamped).symm.trans taken
  cases (ofValues?_newValues v now d.users.next salt).symm.trans made
  exact moved d d' now salt start (Database.storeFresh_eq_ok stored).2

end GridCommons.Form.Registration
