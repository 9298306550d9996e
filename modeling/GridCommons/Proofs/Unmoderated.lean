import GridCommons.Proofs.Deed

/-!
Contract: what only the staff may change, and that nobody else's deeds change it.

Owns:
- the privileges of users, and those of a user who just registered;
- deletions that take a single row;
- `Database.Unmoderated`: no privilege was granted or taken, nothing was blocked or
  unblocked but for the cards that it names, and no complaint was touched;
- that every deed of a client who is not of the staff is of this sort.

Does not own: runs of requests.
-/

namespace GridCommons.Site

/-- What a user may do on the site. -/
structure Privileges where
  isStaff : Bool
  isSuperuser : Bool
  isActive : Bool
deriving DecidableEq, Repr

def User.privileges (user : User) : Privileges :=
  ⟨user.isStaff, user.isSuperuser, user.isActive⟩

/-- The privileges of a user who just registered. -/
def Privileges.ordinary : Privileges :=
  ⟨false, false, true⟩

namespace Table

variable {α : Type} [Numbered α] {t t' t'' : Table α} {allowed : Nat → α → α → Prop}

/-- Every row is still there, changed at most as `allowed` has it. -/
def Persists (allowed : Nat → α → α → Prop) (t t' : Table α) : Prop :=
  ∀ id row, t.find? id = some row → ∃ later, t'.find? id = some later ∧ allowed id row later

theorem Persists.of_eq (same : ∀ id, t'.find? id = t.find? id)
    (reflexive : ∀ id row, allowed id row row) : Persists allowed t t' := by
  intro id row found
  exact ⟨row, (same id).trans found, reflexive id row⟩

/-- What is allowed from state to state is allowed all along. -/
theorem Persists.trans (first : Persists allowed t t') (second : Persists allowed t' t'')
    (transitive : ∀ id row later latest, allowed id row later → allowed id later latest →
      allowed id row latest) : Persists allowed t t'' := by
  intro id row found
  obtain ⟨later, foundLater, here⟩ := first id row found
  obtain ⟨latest, foundLatest, there⟩ := second id later foundLater
  exact ⟨latest, foundLatest, transitive id row later latest here there⟩

theorem Persists.put {new : α}
    (replaces : ∀ old, t.find? (Numbered.id new) = some old → allowed (Numbered.id new) old new)
    (reflexive : ∀ id row, allowed id row row) : Persists allowed t (t.put new) := by
  intro id row found
  rw [find?_put]
  by_cases here : Numbered.id new = id
  · subst here
    exact ⟨new, if_pos rfl, replaces row found⟩
  · exact ⟨row, (if_neg here).trans found, reflexive id row⟩

end Table

/-- The kinds of rows that moderation is about. -/
def Kind.moderated : Kind → Bool
  | .user | .card | .comment | .cardReport => true
  | _ => false

namespace Database

variable {opened : Nat → Prop} {d d' d'' : Database}

/-- A row goes alone if rows of its kind are never referred to. -/
theorem doomed_leaf {root place : Ref} (aside : root.kind.moderated = false)
    (doomed : Doomed d root place) : place = root := by
  have moderated : ∀ (row : Row) (target : Ref), ⟨target, .cascade⟩ ∈ row.links →
      target.kind.moderated = true := by
    intro row target
    cases row <;> simp [Row.links] <;> grind [Kind.moderated]
  induction doomed with
  | root => rfl
  | follow _ _ link inductionHypothesis =>
      subst inductionHypothesis
      cases aside.symm.trans (moderated _ _ link)

/-- Deleting such a row takes nothing else. -/
theorem find?_delete_leaf {root : Ref} (aside : root.kind.moderated = false)
    (notFile : root.kind ≠ .attachment) (place : Ref) :
    (d.delete [root]).find? place = if place = root then none else d.find? place := by
  have goes : ∀ other : Ref, other ∈ d.closure [root] ↔ other = root := by
    intro other
    rw [mem_closure_singleton]
    constructor
    · exact doomed_leaf aside
    · rintro rfl
      exact .root
  have users : root.kind ≠ .user := fun same => by simp [same, Kind.moderated] at aside
  have unchanged : ∀ row : Row, (row.bereft fun gone => (d.closure [root]).contains gone) = row := by
    apply Row.bereft_eq_self
    · intro id
      have stays : (⟨.user, id⟩ : Ref) ≠ root := fun same => users (congrArg Ref.kind same).symm
      simpa [goes] using stays
    · intro id
      have stays : (⟨.attachment, id⟩ : Ref) ≠ root := fun same => notFile (congrArg Ref.kind same).symm
      simpa [goes] using stays
  rw [find?_delete, funext unchanged, Option.map_id']
  by_cases here : place = root
  · rw [if_pos ((goes place).mpr here), if_pos here]
  · rw [if_neg (mt (goes place).mp here), if_neg here]

theorem Slot.find?_delete_leaf {α : Type} [Numbered α] (slot : Slot α) {root : Ref}
    (aside : root.kind.moderated = false) (notFile : root.kind ≠ .attachment) (id : Nat) :
    (slot.table (d.delete [root])).find? id =
      if ⟨slot.kind, id⟩ = root then none else (slot.table d).find? id := by
  have found := Database.find?_delete_leaf (d := d) aside notFile ⟨slot.kind, id⟩
  split
  · rename_i here
    rw [if_pos here, slot.find?_eq] at found
    exact Option.map_eq_none_iff.mp found
  · rename_i elsewhere
    rw [if_neg elsewhere] at found
    exact slot.find?_congr found

/-- Deleting such a row leaves the rows of other kinds. -/
theorem Slot.find?_delete_leaf_of_ne {α : Type} [Numbered α] (slot : Slot α) {root : Ref}
    (aside : root.kind.moderated = false) (notFile : root.kind ≠ .attachment)
    (differs : slot.kind ≠ root.kind) (id : Nat) :
    (slot.table (d.delete [root])).find? id = (slot.table d).find? id :=
  (slot.find?_delete_leaf aside notFile id).trans (if_neg fun same => differs (congrArg Ref.kind same))

/-- No privilege was granted or taken and nothing was moderated, except that a card whose
number is `opened` may have been unblocked. -/
structure Unmoderated (opened : Nat → Prop) (d d' : Database) : Prop where
  users : d.users.Persists (fun _ user later => later.privileges = user.privileges) d'.users
  newcomers : ∀ id user, d.users.find? id = none → d'.users.find? id = some user →
    user.privileges = .ordinary
  cards : d.cards.Persists
    (fun id card later => later.isBlocked = card.isBlocked ∨ later.isBlocked = false ∧ opened id)
    d'.cards
  comments : d.comments.Persists (fun _ comment later => later.isBlocked = comment.isBlocked)
    d'.comments
  reports : d.cardReports.Persists (fun _ report later => later = report) d'.cardReports

namespace Unmoderated

theorem refl (d : Database) : Unmoderated opened d d where
  users := .of_eq (fun _ => rfl) fun _ _ => rfl
  newcomers _ _ absent present := by simp [absent] at present
  cards := .of_eq (fun _ => rfl) fun _ _ => .inl rfl
  comments := .of_eq (fun _ => rfl) fun _ _ => rfl
  reports := .of_eq (fun _ => rfl) fun _ _ => rfl

theorem trans (first : Unmoderated opened d d') (second : Unmoderated opened d' d'') :
    Unmoderated opened d d'' where
  users := first.users.trans second.users fun _ _ _ _ here there => there.trans here
  newcomers id user absent present := by
    cases between : d'.users.find? id with
    | none => exact second.newcomers id user between present
    | some earlier =>
        obtain ⟨later, found, same⟩ := second.users id earlier between
        rw [present] at found
        cases found
        exact same.trans (first.newcomers id earlier absent between)
  cards := first.cards.trans second.cards fun _ _ _ _ here there => by
    rcases there with same | opens
    · rw [same]
      exact here
    · exact .inr opens
  comments := first.comments.trans second.comments fun _ _ _ _ here there => there.trans here
  reports := first.reports.trans second.reports fun _ _ _ _ here there => there.trans here

theorem of_run {moves : Database → Database → Prop}
    (step : ∀ d d', moves d d' → Unmoderated opened d d')
    (run : Relation.ReflTransGen moves d d') : Unmoderated opened d d' := by
  induction run with
  | refl => exact refl d
  | tail _ move inductionHypothesis => exact inductionHypothesis.trans (step _ _ move)

theorem mono {wider : Nat → Prop} (unmoderated : Unmoderated opened d d')
    (contained : ∀ id, opened id → wider id) : Unmoderated wider d d' where
  users := unmoderated.users
  newcomers := unmoderated.newcomers
  cards id card found := by
    obtain ⟨later, foundLater, same⟩ := unmoderated.cards id card found
    exact ⟨later, foundLater, same.imp_right fun opens => ⟨opens.1, contained id opens.2⟩⟩
  comments := unmoderated.comments
  reports := unmoderated.reports

/-! ## Single writes -/

/-- Rows of other kinds do not count. -/
theorem of_find?_eq (same : ∀ place, place.kind.moderated = true → d'.find? place = d.find? place) :
    Unmoderated opened d d' := by
  have users := fun id => Slot.user.find?_congr (same ⟨.user, id⟩ rfl)
  have cards := fun id => Slot.card.find?_congr (same ⟨.card, id⟩ rfl)
  have comments := fun id => Slot.comment.find?_congr (same ⟨.comment, id⟩ rfl)
  have reports := fun id => Slot.cardReport.find?_congr (same ⟨.cardReport, id⟩ rfl)
  exact
    { users := .of_eq users fun _ _ => rfl
      newcomers := fun id user absent present => by
        have vanished := (users id).symm.trans present
        simp [Slot.user, absent] at vanished
      cards := .of_eq cards fun _ _ => .inl rfl
      comments := .of_eq comments fun _ _ => rfl
      reports := .of_eq reports fun _ _ => rfl }

theorem put_aside {row : Row} (aside : row.kind.moderated = false) :
    Unmoderated opened d (d.put row) := by
  refine of_find?_eq fun place counts => ?_
  rw [find?_put, if_neg]
  rintro rfl
  cases aside.symm.trans counts

theorem put_user {user : User}
    (known : ∀ old, d.users.find? user.id = some old → user.privileges = old.privileges)
    (new : d.users.find? user.id = none → user.privileges = .ordinary) :
    Unmoderated opened d (d.put (.user user)) where
  users := .put known fun _ _ => rfl
  newcomers id other absent present := by
    rw [show (d.put (.user user)).users = d.users.put user from rfl, Table.find?_put] at present
    split at present
    · rename_i here
      subst here
      cases present
      exact new absent
    · simp [absent] at present
  cards := .of_eq (fun _ => rfl) fun _ _ => .inl rfl
  comments := .of_eq (fun _ => rfl) fun _ _ => rfl
  reports := .of_eq (fun _ => rfl) fun _ _ => rfl

/-- Storing a card moderates nothing if it stays as blocked as it was, or may be opened. -/
theorem put_card {card : Card}
    (known : ∀ old, d.cards.find? card.id = some old →
      card.isBlocked = old.isBlocked ∨ card.isBlocked = false ∧ opened card.id) :
    Unmoderated opened d (d.put (.card card)) :=
  { (refl d : Unmoderated opened d d) with cards := .put known fun _ _ => .inl rfl }

theorem put_comment {comment : Comment}
    (known : ∀ old, d.comments.find? comment.id = some old → comment.isBlocked = old.isBlocked) :
    Unmoderated opened d (d.put (.comment comment)) :=
  { refl d with comments := .put known fun _ _ => rfl }

theorem put_report {report : CardReport} (new : d.cardReports.find? report.id = none) :
    Unmoderated opened d (d.put (.cardReport report)) :=
  { refl d with reports := .put (fun _ found => nomatch new.symm.trans found) fun _ _ => rfl }

theorem noteLogin (id : Nat) (now : Instant) : Unmoderated opened d (Account.noteLogin id now d) := by
  have noted := Account.find?_noteLogin d id now
  refine { refl d with users := ?_, newcomers := ?_ }
  · intro place user found
    refine ⟨_, (noted place).trans (congrArg _ found), ?_⟩
    dsimp only
    split <;> rfl
  · intro place user absent present
    simp [noted, absent] at present

theorem addAll {cardId : Nat} {places : List (Nat × Nat)}
    (added : Cells.addAll cardId places d = .ok d') : Unmoderated opened d d' := by
  rw [eq_of_addAll added]
  exact { refl d with }

/-- Entering or leaving a relation blocks nothing. -/
theorem put_withMembers {relation : Relation} {id : Nat} {row : Row} {members : Members}
    (found : d.find? ⟨relation.kind, id⟩ = some row) :
    Unmoderated opened d (d.put (relation.withMembers members row)) := by
  rcases withMembers_cases members found with
    ⟨card, likes, favorites, here, stored⟩ | ⟨comment, likes, reports, here, stored⟩
  · rw [stored]
    refine put_card fun old foundOld => ?_
    cases here.symm.trans foundOld
    exact .inl rfl
  · rw [stored]
    refine put_comment fun old foundOld => ?_
    cases here.symm.trans foundOld
    rfl

theorem delete_leaf {root : Ref} (aside : root.kind.moderated = false)
    (notFile : root.kind ≠ .attachment) : Unmoderated opened d (d.delete [root]) := by
  apply of_find?_eq
  intro place counts
  rw [find?_delete_leaf aside notFile, if_neg]
  rintro rfl
  cases aside.symm.trans counts

/-! ## Deeds -/

/-- A deed of a client who is not of the staff moderates nothing, except that whoever
submits to the address that unblocks a card unblocks it. -/
theorem of_deed {r : Web.Request} {actor : Option User} {address : Web.Address}
    (deed : Web.Deed r actor address d d') (client : r.visitor.isClient = true)
    (ordinary : ∀ user, actor = some user → user.isStaff = false) :
    Unmoderated (fun id => r.method = "POST" ∧ address = .unblock "field" id) d d' := by
  cases deed with
  | registered v now salt _ stored =>
      obtain ⟨-, rfl⟩ := store_eq_ok_iff.mp stored
      refine put_user (fun old found => ?_) fun _ => rfl
      cases (Table.find?_next d.users).symm.trans found
  | passwordStored user password found stored | passwordChanged user password _ _ found stored =>
      obtain ⟨-, rfl⟩ := store_eq_ok_iff.mp stored
      refine put_user (fun old foundOld => ?_) fun absent => nomatch absent.symm.trans found
      cases found.symm.trans foundOld
      rfl
  | loginNoted user now _ _ => exact noteLogin user.id now
  | cellsFilled card _ _ _ added => exact addAll added
  | cardUnblocked card posted found =>
      obtain ⟨-, rfl⟩ := Table.find?_eq_some_iff.mp found
      exact put_card fun _ _ => .inr ⟨rfl, posted, rfl⟩
  | profileChanged v known stored =>
      obtain ⟨-, rfl⟩ := store_eq_ok_iff.mp stored
      have found := known client
      refine put_user (fun old foundOld => ?_) fun absent => nomatch absent.symm.trans found
      cases found.symm.trans foundOld
      rfl
  | joined row _ found stored | left row _ _ found stored =>
      obtain ⟨-, rfl⟩ := store_eq_ok_iff.mp stored
      exact put_withMembers found
  | commented text now stored =>
      obtain ⟨-, rfl⟩ := store_eq_ok_iff.mp stored
      refine put_comment fun old found => ?_
      cases (Table.find?_next d.comments).symm.trans found
  | reported v now _ stored =>
      obtain ⟨-, rfl⟩ := store_eq_ok_iff.mp stored
      exact put_report (Table.find?_next d.cardReports)
  | cardMade v fileId now stored =>
      obtain ⟨-, rfl⟩ := store_eq_ok_iff.mp stored
      refine put_card fun old found => ?_
      cases (Table.find?_next d.cards).symm.trans found
  | wallAdded w card _ _ _ stored =>
      obtain ⟨-, rfl⟩ := store_eq_ok_iff.mp stored
      exact put_aside rfl
  | noteAdded profile text now _ stored =>
      obtain ⟨-, rfl⟩ := store_eq_ok_iff.mp stored
      exact put_aside rfl
  | fileStored file now stored =>
      obtain ⟨-, rfl⟩ := store_eq_ok_iff.mp stored
      exact put_aside rfl
  | wallRemoved wall _ _ => exact delete_leaf rfl nofun
  | noteRemoved note _ _ => exact delete_leaf rfl nofun
  -- what is left takes a user of the staff
  | _ => simp_all

end Unmoderated

end Database

end GridCommons.Site
