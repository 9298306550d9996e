import Mathlib.Logic.Function.Iterate
import GridCommons.Proofs.Ban

/-!
Contract: what requests to the site never rewrite.

Owns:
- the content of a row: the columns that stay as they were stored;
- `Database.KeepsContent`: numbers are not given twice, and a row that had its number before
  still has the same content;
- that every deed of a client outside the administration keeps the content of every row;
- the one name that changes: a profile update brings the name of its user into the stored form.

Does not own: which rows come and go.
-/

namespace GridCommons.Site

open Account

namespace Row

/-- What of a row is content.  The other columns are blank: the state of a card, a comment or a
complaint, who is in a relation, and what of a user is not the account itself. -/
def content : Row → Row
  | .user account =>
    .user { id := account.id, username := "", dateJoined := account.dateJoined, password := .plain "" }
  | .card grid =>
    .card { grid with updatedAt := grid.createdAt, isBlocked := false, likes := {}, favorites := {} }
  | .comment remark => .comment { remark with isBlocked := false, likes := {}, reports := {} }
  | .cardReport report => .cardReport { report with status := "", isResolved := false }
  | row => row

/-- The name of the user that a row is about. -/
def username? : Row → Option String
  | .user account => some account.username
  | _ => none

/-- The content is the same.  A name was at most brought into its stored form, and only that of
a user who is `renamed`. -/
structure SameContent (renamed : Nat → Prop) (old row : Row) : Prop where
  content : row.content = old.content
  username : ∃ n, row.username? = old.username?.map Username.stored^[n]
  named : ¬renamed old.id → row.username? = old.username?

variable {renamed : Nat → Prop} {old row later : Row}

theorem ref_content (row : Row) : row.content.ref = row.ref := by
  cases row <;> rfl

theorem SameContent.of_eq (content : row.content = old.content) (name : row.username? = old.username?) :
    SameContent renamed old row :=
  ⟨content, ⟨0, name.trans Option.map_id'.symm⟩, fun _ => name⟩

theorem SameContent.refl (row : Row) : SameContent renamed row row :=
  .of_eq rfl rfl

/-- Content stays the same from state to state. -/
theorem SameContent.trans (first : SameContent renamed old row) (second : SameContent renamed row later) :
    SameContent renamed old later where
  content := second.content.trans first.content
  username := by
    obtain ⟨n, earlier⟩ := first.username
    obtain ⟨m, after⟩ := second.username
    refine ⟨m + n, ?_⟩
    rw [after, earlier, Option.map_map, Function.iterate_add]
  named kept := by
    have place : row.ref = old.ref := by rw [← ref_content, first.content, ref_content]
    have id : row.id = old.id := congrArg Ref.id place
    exact (second.named (id ▸ kept)).trans (first.named kept)

theorem SameContent.withMembers (relation : Relation) (members : Members) (row : Row) :
    SameContent renamed row (relation.withMembers members row) := by
  cases relation <;> cases row <;> exact .of_eq rfl rfl

end Row

namespace Database

variable {renamed : Nat → Prop} {d d' d'' : Database}

/-- Numbers are not given twice, and a row whose number was given before stood there already, with
the same content. -/
structure KeepsContent (renamed : Nat → Prop) (d d' : Database) : Prop where
  next : ∀ kind, d.next kind ≤ d'.next kind
  rows : ∀ place row, d'.find? place = some row → place.id < d.next place.kind →
    ∃ old, d.find? place = some old ∧ old.SameContent renamed row

namespace KeepsContent

theorem trans (first : KeepsContent renamed d d') (second : KeepsContent renamed d' d'') :
    KeepsContent renamed d d'' where
  next kind := (first.next kind).trans (second.next kind)
  rows place later found given := by
    have givenLater := Nat.lt_of_lt_of_le given (first.next place.kind)
    obtain ⟨row, between, after⟩ := second.rows place later found givenLater
    obtain ⟨old, before, earlier⟩ := first.rows place row between given
    exact ⟨old, before, earlier.trans after⟩

/-- Nothing new comes. -/
theorem of_old (next : ∀ kind, d'.next kind = d.next kind)
    (rows : ∀ place row, d'.find? place = some row →
      ∃ old, d.find? place = some old ∧ old.SameContent renamed row) : KeepsContent renamed d d' where
  next kind := (next kind).ge
  rows place row found _ := rows place row found

theorem refl (d : Database) : KeepsContent renamed d d :=
  .of_old (fun _ => rfl) fun _ row found => ⟨row, found, .refl row⟩

/-! ## Single writes -/

/-- A new row is no change of what was there. -/
theorem put_new {row : Row} (new : row.id = d.next row.kind) : KeepsContent renamed d (d.put row) where
  next kind := by
    rw [next_put]
    split
    · exact Nat.le_max_left _ _
    · exact Nat.le_refl _
  rows place other found given := by
    rw [find?_put] at found
    split at found
    · rename_i here
      subst here
      exact absurd new (Nat.ne_of_lt given)
    · exact ⟨other, found, .refl other⟩

theorem store_new {row : Row} (stored : d.store row = .ok d') (new : row.id = d.next row.kind) :
    KeepsContent renamed d d' := by
  obtain ⟨-, rfl⟩ := store_eq_ok_iff.mp stored
  exact put_new new

/-- A row that is stored over another one keeps its content if both have the same. -/
theorem put_over {row old : Row} (found : d.find? row.ref = some old)
    (same : old.SameContent renamed row) : KeepsContent renamed d (d.put row) := by
  apply of_old
  · intro kind
    rw [next_put]
    split
    · rename_i sameKind
      subst sameKind
      exact Nat.max_eq_left (id_lt_next found)
    · rfl
  · intro place other present
    rw [find?_put] at present
    split at present
    · rename_i here
      subst here
      cases present
      exact ⟨old, found, same⟩
    · exact ⟨other, present, .refl other⟩

theorem slot_put {α : Type} [Numbered α] (slot : Slot α) {id : Nat} {part new : α}
    (found : (slot.table d).find? id = some part) (sameId : Numbered.id new = Numbered.id part)
    (same : (slot.inject part).SameContent renamed (slot.inject new)) :
    KeepsContent renamed d (d.put (slot.inject new)) := by
  refine put_over ?_ same
  rw [slot.inject_ref, sameId]
  exact slot.find?_inject (Table.find?_self found)

/-- The rows of one table are changed. -/
theorem slot_map {α : Type} [Numbered α] (slot : Slot α) {f : α → α}
    (keeps : ∀ part, Numbered.id (f part) = Numbered.id part)
    (here : slot.table d' = (slot.table d).map f keeps)
    (there : ∀ kind, kind ≠ slot.kind → d'.tableOf kind = d.tableOf kind)
    (same : ∀ part, (slot.inject part).SameContent renamed (slot.inject (f part))) :
    KeepsContent renamed d d' := by
  apply of_old
  · intro kind
    by_cases sameKind : kind = slot.kind
    · subst sameKind
      rw [slot.next_eq, slot.next_eq, here]
      rfl
    · exact congrArg Table.next (there kind sameKind)
  · rintro ⟨kind, id⟩ row found
    by_cases sameKind : kind = slot.kind
    · subst sameKind
      rw [slot.find?_eq, here, Table.find?_map, Option.map_map] at found
      obtain ⟨part, present, rfl⟩ := Option.map_eq_some_iff.mp found
      exact ⟨_, slot.find?_inject present, same part⟩
    · rw [find?_eq_tableOf, there kind sameKind] at found
      exact ⟨row, (find?_eq_tableOf d ⟨kind, id⟩).trans found, .refl row⟩

theorem noteLogin (id : Nat) (now : Instant) : KeepsContent renamed d (Account.noteLogin id now d) := by
  refine slot_map Slot.user (by intro part; split <;> rfl) rfl (fun kind other => ?_) fun user => ?_
  · cases kind with
    | user => exact absurd rfl other
    | _ => rfl
  · split <;> exact .of_eq rfl rfl

theorem blockCardsOf (user : Nat) : KeepsContent renamed d (Moderation.blockCardsOf user d) := by
  refine slot_map Slot.card (by intro part; split <;> rfl) rfl (fun kind other => ?_) fun card => ?_
  · cases kind with
    | card => exact absurd rfl other
    | _ => rfl
  · split <;> exact .of_eq rfl rfl

theorem blockCommentsOf (user : Nat) : KeepsContent renamed d (Moderation.blockCommentsOf user d) := by
  refine slot_map Slot.comment (by intro part; split <;> rfl) rfl (fun kind other => ?_) fun comment => ?_
  · cases kind with
    | comment => exact absurd rfl other
    | _ => rfl
  · split <;> exact .of_eq rfl rfl

theorem delete_leaf {root : Ref} (aside : root.kind.moderated = false)
    (notFile : root.kind ≠ .attachment) : KeepsContent renamed d (d.delete [root]) := by
  apply of_old
  · exact next_delete d [root]
  · intro place row found
    rw [find?_delete_leaf aside notFile] at found
    split at found
    · cases found
    · exact ⟨row, found, .refl row⟩

theorem addAll {cardId : Nat} {places : List (Nat × Nat)}
    (added : Cells.addAll cardId places d = .ok d') : KeepsContent renamed d d' := by
  induction places generalizing d with
  | nil =>
      cases added
      exact refl _
  | cons place rest inductionHypothesis =>
      rw [addAll_cons] at added
      cases stored : d.store (.cell { id := d.next .cell, cardId, x := place.1, y := place.2 }) with
      | error =>
          rw [stored] at added
          cases added
      | ok between =>
          rw [stored] at added
          exact (store_new stored rfl).trans (inductionHypothesis added)

theorem put_withMembers {relation : Relation} {id : Nat} {row : Row} {members : Members}
    (found : d.find? ⟨relation.kind, id⟩ = some row) :
    KeepsContent renamed d (d.put (relation.withMembers members row)) := by
  refine put_over ?_ (.withMembers relation members row)
  rw [Relation.ref_withMembers, (find?_eq_some_iff.mp found).2]
  exact found

/-! ## Deeds -/

/-- Every deed of a client outside the administration keeps the content of every row. -/
theorem of_deed {r : Web.Request} {actor : Option User} {address : Web.Address}
    (deed : Web.Deed r actor address d d') (client : r.visitor.isClient = true)
    (outside : ∀ page, address ≠ .admin page)
    (updates : address = .profileUpdate → ∀ user ∈ actor, renamed user.id) :
    KeepsContent renamed d d' := by
  cases deed with
  | registered _ _ _ _ stored | commented _ _ stored | reported _ _ _ stored
  | wallAdded _ _ _ _ _ stored | noteAdded _ _ _ _ stored | fileStored _ _ stored
  | cardMade _ _ _ stored => exact store_new stored rfl
  | passwordStored user password found stored | passwordChanged user password _ _ found stored =>
      obtain ⟨-, rfl⟩ := store_eq_ok_iff.mp stored
      exact slot_put .user found rfl (.of_eq rfl rfl)
  | profileChanged v known stored =>
      obtain ⟨-, rfl⟩ := store_eq_ok_iff.mp stored
      -- the form stores the name of its user once more
      refine slot_put .user (known client) rfl ⟨rfl, ⟨1, rfl⟩, fun kept => ?_⟩
      exact absurd (updates rfl _ rfl) kept
  | loginNoted user now _ _ => exact noteLogin user.id now
  | cellsFilled card _ _ _ added => exact addAll added
  | cardUnblocked card _ found | cardUnblockedByStaff card _ found =>
      exact slot_put .card found rfl (.of_eq rfl rfl)
  | joined row _ found stored | left row _ _ found stored =>
      obtain ⟨-, rfl⟩ := store_eq_ok_iff.mp stored
      exact put_withMembers found
  | wallRemoved | noteRemoved => exact delete_leaf rfl nofun
  | cardBlocked card now _ found stored =>
      obtain ⟨-, rfl⟩ := store_eq_ok_iff.mp stored
      exact slot_put .card found rfl (.of_eq rfl rfl)
  | reportResolved report status _ found _ stored =>
      obtain ⟨-, rfl⟩ := store_eq_ok_iff.mp stored
      exact slot_put .cardReport found rfl (.of_eq rfl rfl)
  | flagStored flag _ found stored =>
      obtain ⟨-, rfl⟩ := store_eq_ok_iff.mp stored
      exact slot_put .commentFlag found rfl (.refl _)
  | commentBlocked comment _ found => exact slot_put .comment found rfl (.of_eq rfl rfl)
  | userBanned banned _ found => exact slot_put .user found rfl (.of_eq rfl rfl)
  | cardsOfBanned => exact blockCardsOf _
  | commentsOfBanned => exact blockCommentsOf _
  | statusChanged | listEdited | listSettled | cardEntered | reportEntered | adminDeleted =>
      exact absurd rfl (outside _)

end KeepsContent

end Database

end GridCommons.Site

namespace GridCommons

open Site Account

variable {step : Step} {steps : List Step} {renamed : Nat → Prop} {w : World}

namespace Step

/-- The step is a request of a user to update the own profile. -/
def UpdatesProfile (id : Nat) (step : Step) (w : World) : Prop :=
  ∃ r user, step.sent? = some r ∧ Web.addressOf r.path = some .profileUpdate ∧
    servedAs r.visitor (nextSecond w) = some user ∧ user.id = id

/-- A request to the site changes no content but that of the profile it updates. -/
theorem take_keepsContent (client : step.FromClient) (site : step.ToSite)
    (updates : ∀ id, step.UpdatesProfile id w → renamed id) :
    w.database.KeepsContent renamed (step.take w).2.database := by
  obtain ⟨r, sends, fromClient⟩ := client
  obtain ⟨_, sent, outside⟩ := site
  cases sends.symm.trans sent
  apply take_keeps _ Database.KeepsContent.refl Database.KeepsContent.trans sends
  intro body address there d d' deed
  refine .of_deed deed fromClient (fun page same => outside page (same ▸ there)) ?_
  rintro rfl user served
  exact updates user.id ⟨r, user, sends, there, served, rfl⟩

end Step

/-- The profile of a user is updated in the course of a run. -/
def UpdatesProfile (id : Nat) (steps : List Step) (w : World) : Prop :=
  ∃ earlier step, earlier ++ [step] <+: steps ∧ step.UpdatesProfile id (runSteps earlier w).2

/-- A run of requests to the site changes no content but that of the profiles it updates. -/
theorem runSteps_keepsContent (clients : ∀ step ∈ steps, step.FromClient)
    (site : ∀ step ∈ steps, step.ToSite) (updates : ∀ id, UpdatesProfile id steps w → renamed id) :
    w.database.KeepsContent renamed (runSteps steps w).2.database := by
  induction steps generalizing w with
  | nil => exact .refl _
  | cons step rest inductionHypothesis =>
      obtain ⟨client, clientsLater⟩ := List.forall_mem_cons.mp clients
      obtain ⟨toSite, siteLater⟩ := List.forall_mem_cons.mp site
      have first : w.database.KeepsContent renamed (step.take w).2.database := by
        refine step.take_keepsContent client toSite fun id now => updates id ?_
        exact ⟨[], step, List.prefix_append [step] rest, now⟩
      refine first.trans (inductionHypothesis clientsLater siteLater ?_)
      rintro id ⟨earlier, later, begins, follows⟩
      exact updates id ⟨step :: earlier, later, List.cons_prefix_cons.mpr ⟨rfl, begins⟩, follows⟩

/-- Requests to the site rewrite no content.  Whatever row was there before a run of them and is
there after it has the same content, except that a user who updated the profile may have got the
stored form of the name. -/
theorem site_rewrites_no_content (clients : ∀ step ∈ steps, step.FromClient)
    (site : ∀ step ∈ steps, step.ToSite) {place : Ref} {old row : Row}
    (before : w.database.find? place = some old)
    (after : (runSteps steps w).2.database.find? place = some row) :
    old.SameContent (fun id => UpdatesProfile id steps w) row := by
  have kept : w.database.KeepsContent (fun id => UpdatesProfile id steps w)
      (runSteps steps w).2.database := runSteps_keepsContent clients site fun _ updates => updates
  obtain ⟨_, stood, same⟩ := kept.rows place row after (Database.id_lt_next before)
  cases before.symm.trans stood
  exact same

/-! ## A name in a wide letter -/

/-- A user whose name is a wide letter, signed in from a browser. -/
def wideSite : World :=
  { now := ⟨0⟩
    database :=
      Database.put {} (.user { id := 1, username := "Ａ", email := "a@example.com",
                               dateJoined := ⟨0⟩, password := .plain "" })
    sessions := Table.put {} { key := 1, userId := 1, stamp := .plain "", expires := ⟨100⟩ }
    browsers := [("a", 1)] }

def givesFirstName : Step :=
  .request { method := "POST", path := "/profile_update/", visitor := .browser "a"
             body := .form { texts := [("first_name", ["Ann"]), ("email", ["a@example.com"])] } [] }

theorem toSite_givesFirstName : givesFirstName.ToSite := by
  have there : Web.addressOf "/profile_update/" = some .profileUpdate := by decide +kernel
  refine ⟨_, rfl, fun page same => ?_⟩
  cases there.symm.trans same

theorem username?_givesFirstName :
    ((runSteps [givesFirstName] wideSite).2.database.find? ⟨.user, 1⟩).bind Row.username? = some "A" := by
  decide +kernel

/-- The account of the user stays, under the stored form of the name. -/
theorem site_rewrites_no_content_wide :
    ∃ old row, wideSite.database.find? ⟨.user, 1⟩ = some old ∧ old.username? = some "Ａ" ∧
      row.username? = some "A" ∧
      old.SameContent (fun id => UpdatesProfile id [givesFirstName] wideSite) row := by
  obtain ⟨row, after, named⟩ := Option.bind_eq_some_iff.mp username?_givesFirstName
  refine ⟨_, row, rfl, rfl, named, ?_⟩
  exact site_rewrites_no_content (List.forall_mem_singleton.mpr ⟨_, rfl, rfl⟩)
    (List.forall_mem_singleton.mpr toSite_givesFirstName) rfl after

/-- A request to the site may change the name of a user. -/
theorem profile_update_renames :
    ∃ step w, Step.FromClient step ∧ Step.ToSite step ∧
      (w.database.find? ⟨.user, 1⟩).bind Row.username? = some "Ａ" ∧
      ((runSteps [step] w).2.database.find? ⟨.user, 1⟩).bind Row.username? = some "A" :=
  ⟨givesFirstName, wideSite, ⟨_, rfl, rfl⟩, toSite_givesFirstName, rfl, username?_givesFirstName⟩

end GridCommons
