import GridCommons.Proofs.Ban
import GridCommons.Proofs.Drafts
import GridCommons.Proofs.Rewriting
import GridCommons.Site.Call

/-!
Contract: the operations that tell whether they worked.

Owns:
- which operations these are, for which rows, and the flag that each sets;
- what each makes of every row of the database;
- that a draft without a number, a number without a row and a database that cannot be written all
  let them fail;
- that what they tell is what they did.

The flag is set in the draft first and in the row afterwards, so that the draft has it in any case.
-/

namespace GridCommons.Site

/-- The operation sets a column of rows of a kind, and tells whether it worked. -/
inductive Operation.Sets : Operation → Kind → String → Bool → Prop where
  | ban : Sets .safeBan .user "is_active" false
  | block : Sets .safeBlock .comment "is_blocked" true
  | unblock : Sets .safeUnblock .card "is_blocked" false

/-- What becomes of each row when an operation works on the row with a number. -/
def Operation.effect (id : Nat) : Operation → Row → Row
  | .safeBan, .user row => .user (if row.id = id then { row with isActive := false } else row)
  | .safeBan, .card row => .card (if row.userId = id then { row with isBlocked := true } else row)
  | .safeBan, .comment row =>
    .comment (if row.authorId = id then { row with isBlocked := true } else row)
  | .safeBlock, .comment row => .comment (if row.id = id then { row with isBlocked := true } else row)
  | .safeUnblock, .card row => .card (if row.id = id then { row with isBlocked := false } else row)
  | _, row => row

/-- What a call of the operation does, but for the draft. -/
def Operation.safely : Operation → Option Nat → Action Bool
  | .safeBan => Moderation.safeBan
  | .safeBlock => Moderation.safeBlockComment
  | .safeUnblock => Moderation.safeUnblockCard
  | _ => fun _ => return false

namespace Moderation

open Database

variable {d : Database} {id : Nat}

/-! ## What is rewritten -/

theorem rewritten_blocked {comment : Comment} (found : d.comments.find? id = some comment) :
    Rewritten (Operation.effect id .safeBlock) d
      (d.put (.comment { comment with isBlocked := true })) := by
  have comments := Slot.comment.rewritten_put (f := fun comment => { comment with isBlocked := true })
    rfl found
  apply comments.congr
  intro row
  cases row <;> rfl

theorem rewritten_unblocked {card : Card} (found : d.cards.find? id = some card) :
    Rewritten (Operation.effect id .safeUnblock) d (d.put (.card { card with isBlocked := false })) := by
  have cards := Slot.card.rewritten_put (f := fun card => { card with isBlocked := false }) rfl found
  apply cards.congr
  intro row
  cases row <;> rfl

theorem rewritten_blockCardsOf (user : Nat) (d : Database) :
    Rewritten (Slot.card.rewriting fun card =>
      if card.userId = user then { card with isBlocked := true } else card) d (blockCardsOf user d) := by
  apply Slot.card.rewritten (by intro card; split <;> rfl) rfl
  intro kind other
  cases kind with
  | card => exact absurd rfl other
  | _ => rfl

theorem rewritten_blockCommentsOf (user : Nat) (d : Database) :
    Rewritten (Slot.comment.rewriting fun comment =>
      if comment.authorId = user then { comment with isBlocked := true } else comment) d
      (blockCommentsOf user d) := by
  apply Slot.comment.rewritten (by intro comment; split <;> rfl) rfl
  intro kind other
  cases kind with
  | comment => exact absurd rfl other
  | _ => rfl

/-- A ban is three rewritings, one after the other. -/
theorem rewritten_banned {user : User} (found : d.users.find? id = some user) :
    Rewritten (Operation.effect id .safeBan) d (banned user d) := by
  obtain ⟨-, rfl⟩ := Table.find?_eq_some_iff.mp found
  have users := Slot.user.rewritten_put (f := fun user => { user with isActive := false }) rfl found
  have cards := users.trans (rewritten_blockCardsOf user.id _)
  have comments := cards.trans (rewritten_blockCommentsOf user.id _)
  apply comments.congr
  intro row
  cases row <;> rfl

end Moderation

/-! ## Where the operations end -/

namespace Action

variable {w : World} {kind : Kind} {id : Option Nat}

/-- A fault is an operation that did not work. -/
theorem run_succeeds_of_fault {action : Action Unit} {fault : Fault}
    (ends : action.run w = (.error fault, w)) : (succeeds action).run w = (.ok false, w) := by
  rw [succeeds, run_bind, run_attempt, ends]
  rfl

/-- Without a number that a row has, nothing can be touched. -/
theorem touch_misses (change : Row → Row)
    (missing : ∀ number, id = some number → w.database.has ⟨kind, number⟩ = false) :
    ∃ fault, (touch kind id change).run w = (.error fault, w) := by
  cases id with
  | none => exact ⟨.unsavedUpdate, rfl⟩
  | some number =>
      by_cases writes : w.mode = .ok
      · have vacant : w.database.find? ⟨kind, number⟩ = none := by
          simpa [Database.has] using missing number rfl
        exact ⟨.untouched, by simp [touch, writes, vacant]⟩
      · exact run_touch_of_ne_ok kind number change writes

end Action

namespace Operation.Sets

variable {operation : Operation} {kind : Kind} {column : String} {flag : Bool} {w : World}

/-- Working once more on a row changes nothing. -/
theorem effect_effect (sets : operation.Sets kind column flag) (id : Nat) (row : Row) :
    operation.effect id (operation.effect id row) = operation.effect id row := by
  cases sets <;> cases row <;> simp only [effect] <;> split <;> simp_all

theorem safely_misses (sets : operation.Sets kind column flag) {id : Option Nat}
    (missing : ∀ number, id = some number → w.database.has ⟨kind, number⟩ = false) :
    (operation.safely id).run w = (.ok false, w) := by
  cases sets with
  | ban =>
      obtain ⟨fault, ends⟩ := Action.touch_misses (Row.setActive false) missing
      have fails : (Moderation.ban id).run w = (.error fault, w) := by
        unfold Moderation.ban
        rw [Action.run_bind, ends]
      exact Action.run_succeeds_of_fault fails
  | block | unblock =>
      obtain ⟨fault, ends⟩ := Action.touch_misses (Row.setBlocked _) missing
      exact Action.run_succeeds_of_fault ends

/-- A safe operation on a row that is there sets its mark, and nothing else. -/
theorem safely_works (sets : operation.Sets kind column flag) {id : Nat}
    (present : w.database.has ⟨kind, id⟩ = true) :
    ∃ changed, Database.Rewritten (operation.effect id) w.database changed ∧
      (operation.safely (some id)).WritesSafely changed w := by
  obtain ⟨row, found⟩ := Database.has_iff.mp present
  cases sets with
  | ban =>
      obtain ⟨user, here, -⟩ := Database.Slot.user.find?_eq_some found
      exact ⟨_, Moderation.rewritten_banned here, Moderation.safeBan_writes here⟩
  | block =>
      obtain ⟨comment, here, -⟩ := Database.Slot.comment.find?_eq_some found
      exact ⟨_, Moderation.rewritten_blocked here, Moderation.safeBlockComment_writes here⟩
  | unblock =>
      obtain ⟨card, here, -⟩ := Database.Slot.card.find?_eq_some found
      exact ⟨_, Moderation.rewritten_unblocked here, Moderation.safeUnblockCard_writes here⟩

theorem run_call (sets : operation.Sets kind column flag) {draft : Draft} (own : draft.kind = kind)
    {worked : Bool} {reached : World} (ends : (operation.safely draft.id?).run w = (.ok worked, reached)) :
    (draft.call operation).run w =
      (.ok ⟨.flag worked, draft.set column (.bool flag)⟩, reached) := by
  have called : draft.call operation = do
      return ⟨.flag (← operation.safely draft.id?), draft.set column (.bool flag)⟩ := by
    obtain ⟨draftKind, values⟩ := draft
    cases sets <;> cases own <;> rfl
  rw [called, Action.run_bind, ends]
  rfl

/-- A call works where the row is there and can be written.  Elsewhere it changes nothing but the
draft. -/
theorem call_cases (sets : operation.Sets kind column flag) (draft : Draft) (own : draft.kind = kind)
    (w : World) :
    (∃ id changed, (w.mode = .ok ∧ draft.id? = some id ∧ w.database.has ⟨kind, id⟩ = true) ∧
      Database.Rewritten (operation.effect id) w.database changed ∧
      (draft.call operation).run w =
        (.ok ⟨.flag true, draft.set column (.bool flag)⟩, { w with database := changed })) ∨
    (¬∃ id, w.mode = .ok ∧ draft.id? = some id ∧ w.database.has ⟨kind, id⟩ = true) ∧
      (draft.call operation).run w = (.ok ⟨.flag false, draft.set column (.bool flag)⟩, w) := by
  by_cases present : ∃ id, draft.id? = some id ∧ w.database.has ⟨kind, id⟩ = true
  · obtain ⟨id, numbered, here⟩ := present
    obtain ⟨changed, rewritten, ends⟩ := sets.safely_works here
    rw [← numbered] at ends
    have runs := sets.run_call own ends
    by_cases writes : w.mode = .ok
    · rw [decide_eq_true writes, if_pos writes] at runs
      exact .inl ⟨id, changed, ⟨writes, numbered, here⟩, rewritten, runs⟩
    · rw [decide_eq_false writes, if_neg writes] at runs
      exact .inr ⟨fun ⟨_, writable, _⟩ => writes writable, runs⟩
  · have missing : ∀ id, draft.id? = some id → w.database.has ⟨kind, id⟩ = false := by
      simpa using present
    exact .inr ⟨fun ⟨id, _, there⟩ => present ⟨id, there⟩,
      sets.run_call own (sets.safely_misses missing)⟩

/-- The flag is not the number, which stays. -/
theorem id?_set (sets : operation.Sets kind column flag) (draft : Draft) :
    (draft.set column (.bool flag)).id? = draft.id? := by
  have apart : column ≠ "id" := by cases sets <;> decide
  rw [Draft.id?, Draft.column, Draft.set, Record.get_set_of_ne apart]
  rfl

end Operation.Sets

end GridCommons.Site

namespace GridCommons

open Site

/-- The operations that tell whether they worked tell it truly.  In every state and for every draft
they end without a fault.  They tell that they worked exactly if the database can be written and the
row of the draft's number is there.  Then each row is as the operation makes it, and nothing else
changes.  Otherwise no row changes.  In both cases the draft has the flag, its other columns are as
they were, and a second call changes nothing more. -/
theorem safe_operations_tell_truly {operation : Operation} {kind : Kind} {column : String} {flag : Bool}
    (sets : operation.Sets kind column flag) {draft : Draft} (own : draft.kind = kind) (w : World) :
    ∃ worked called after,
      (draft.call operation).run w = (.ok ⟨.flag worked, called⟩, after) ∧
      (worked = true ↔
        ∃ id, w.mode = .ok ∧ draft.id? = some id ∧ w.database.has ⟨kind, id⟩ = true) ∧
      (worked = true → ∀ id, draft.id? = some id →
        Database.Rewritten (operation.effect id) w.database after.database) ∧
      (worked = false → after.database = w.database) ∧
      after = { w with database := after.database } ∧
      called.column column = .bool flag ∧
      (∀ other, other ≠ column → called.column other = draft.column other) ∧
      ((called.call operation).run after).2 = after := by
  let called := draft.set column (.bool flag)
  have set : called.column column = .bool flag := Record.get_set_self _ _ _
  have others : ∀ other, other ≠ column → called.column other = draft.column other :=
    fun other apart => Record.get_set_of_ne (Ne.symm apart) _ _
  have number : called.id? = draft.id? := sets.id?_set draft
  rcases sets.call_cases draft own w with ⟨id, changed, works, rewritten, ends⟩ | ⟨fails, ends⟩
  · refine ⟨true, called, _, ends, iff_of_true rfl ⟨id, works⟩, ?_, by simp, rfl, set, others, ?_⟩
    · intro _ other same
      cases works.2.1.symm.trans same
      exact rewritten
    · -- The second call may work again, but finds its own effect.
      rcases sets.call_cases called own { w with database := changed } with
        ⟨other, more, again, twice, runs⟩ | ⟨-, runs⟩
      · cases works.2.1.symm.trans (number.symm.trans again.2.1)
        rw [runs, rewritten.done twice (sets.effect_effect id)]
      · rw [runs]
  · refine ⟨false, called, w, ends, iff_of_false Bool.false_ne_true fails, by simp, fun _ => rfl, rfl,
      set, others, ?_⟩
    rcases sets.call_cases called own w with ⟨id, changed, again, -, -⟩ | ⟨-, runs⟩
    · rw [number] at again
      exact absurd ⟨id, again⟩ fails
    · rw [runs]

/-! ### A loaded user -/

/-- The other user of the site, as the database has it. -/
def eveLoaded : Draft :=
  .ofRow (.user { id := 2, username := "eve", dateJoined := ⟨0⟩, password := .plain "secret" })

/-- The ban works and reaches the card and the comment.  The draft keeps its number. -/
theorem safe_operations_tell_truly_eve :
    ∃ called after, (eveLoaded.call .safeBan).run banSite = (.ok ⟨.flag true, called⟩, after) ∧
      called.column "is_active" = .bool false ∧ called.id? = some 2 ∧
      (after.database.find? ⟨.card, 1⟩).map (·.values.get "is_blocked") = some (.bool true) ∧
      (after.database.find? ⟨.comment, 1⟩).map (·.values.get "is_blocked") = some (.bool true) ∧
      after.database.find? ⟨.user, 1⟩ = banSite.database.find? ⟨.user, 1⟩ := by
  obtain ⟨worked, called, after, ends, tells, works, -, -, set, others, -⟩ :=
    safe_operations_tell_truly .ban (show eveLoaded.kind = .user from rfl) banSite
  obtain rfl := tells.mpr ⟨2, rfl, rfl, rfl⟩
  have rewritten := works rfl 2 rfl
  refine ⟨called, after, ends, set, ?_, ?_, ?_, ?_⟩
  · rw [Draft.id?, others "id" (by decide)]
    rfl
  · rw [rewritten.rows]
    rfl
  · rw [rewritten.rows]
    rfl
  · rw [rewritten.rows]
    rfl

end GridCommons
