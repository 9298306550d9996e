import GridCommons.Proofs.Visitor

/-!
Contract: two runs, side by side.

Owns:
- `Action.Agrees`: from related states, two actions end with the same fault of the
  database or with values that stand in a relation, and in related states again;
- the rules by which actions agree where their parts do;
- states that differ in the database only, and the actions that agree on them;
- that the user of a visitor is the same where the users are.

Does not own: which databases are alike.
-/

namespace GridCommons

/-- The fault comes from the database: it lets nothing pass, a constraint forbids a
write, or a pattern is too long for it. -/
def Fault.fromDatabase : Fault → Bool
  | .violation _ | .patternTooLong | .readOnly | .offline => true
  | _ => false

end GridCommons

namespace GridCommons.Site.Action

variable {α β γ δ : Type}

/-- Two outcomes are the same fault of the database, or values that stand in a relation. -/
inductive SameOutcome (same : α → β → Prop) : Except Fault α → Except Fault β → Prop where
  | value {a : α} {b : β} : same a b → SameOutcome same (.ok a) (.ok b)
  | fault {cause : Fault} : cause.fromDatabase = true → SameOutcome same (.error cause) (.error cause)

/-- From states that stand in `before`, the actions end with outcomes that are the same up to
`same`, in states that are related. -/
def Agrees (related before : World → World → Prop) (same : α → β → Prop) (left : Action α)
    (right : Action β) : Prop :=
  ∀ w w', before w w' →
    SameOutcome same (left.run w).1 (right.run w').1 ∧ related (left.run w).2 (right.run w').2

/-! ## Rules -/

section Rules

variable {related before : World → World → Prop} {same : α → β → Prop} {left : Action α}
  {right : Action β} {next : α → Action γ} {next' : β → Action δ} {ends : γ → δ → Prop}

theorem Agrees.pure {a : α} {b : β} (holds : same a b) :
    Agrees related related same (Pure.pure a) (Pure.pure b) :=
  fun _ _ start => ⟨.value holds, start⟩

theorem Agrees.bind (first : Agrees related before same left right)
    (rest : ∀ a b, same a b → Agrees related related ends (next a) (next' b)) :
    Agrees related before ends (left >>= next) (right >>= next') := by
  intro w w' start
  obtain ⟨agree, reached⟩ := first w w' start
  rw [run_bind, run_bind]
  generalize left.run w = ended at agree reached ⊢
  generalize right.run w' = ended' at agree reached ⊢
  obtain ⟨outcome, between⟩ := ended
  obtain ⟨outcome', between'⟩ := ended'
  cases agree with
  | value holds => exact rest _ _ holds between between' reached
  | fault database => exact ⟨.fault database, reached⟩

/-- What follows sees one value in both runs. -/
theorem Agrees.bind_eq {right : Action α} {next' : α → Action δ}
    (first : Agrees related before Eq left right)
    (rest : ∀ a, Agrees related related ends (next a) (next' a)) :
    Agrees related before ends (left >>= next) (right >>= next') := by
  refine first.bind ?_
  rintro a _ rfl
  exact rest a

/-- What is known of the value in the first run. -/
theorem Agrees.knowing {earlier : World → World → Prop} {fact : α → Prop}
    (agrees : Agrees related before same left right) (sooner : ∀ w w', earlier w w' → before w w')
    (known : ∀ w w', earlier w w' → ∀ a, (left.run w).1 = .ok a → fact a) :
    Agrees related earlier (fun a b => same a b ∧ fact a) left right := by
  intro w w' start
  obtain ⟨agree, reached⟩ := agrees w w' (sooner w w' start)
  refine ⟨?_, reached⟩
  have value := known w w' start
  generalize (left.run w).1 = outcome at agree value ⊢
  generalize (right.run w').1 = outcome' at agree ⊢
  cases agree with
  | value holds => exact .value ⟨holds, value _ rfl⟩
  | fault database => exact .fault database

theorem Agrees.get : Agrees related related related (MonadState.get : Action World) MonadState.get :=
  fun _ _ start => ⟨.value start, start⟩

end Rules

/-! ## States that differ in the database -/

/-- Two states differ in the database only, and the databases are alike. -/
structure DifferBy (alike : Database → Database → Prop) (w w' : World) : Prop where
  database : alike w.database w'.database
  rest : w' = { w with database := w'.database }

section Databases

variable {alike : Database → Database → Prop} {w w' : World}

theorem DifferBy.mode (differ : DifferBy alike w w') : w'.mode = w.mode := by
  have same := congrArg World.mode differ.rest
  exact same

/-- A change that does not touch the database. -/
theorem Agrees.modify {change : World → World}
    (aside : ∀ w d, change { w with database := d } = { change w with database := d }) :
    Agrees (DifferBy alike) (DifferBy alike) Eq (modify change : Action Unit) (modify change) := by
  rintro w w' ⟨database, rest⟩
  have kept := congrArg World.database (aside w w.database)
  have moved : change w' = { change w with database := w'.database } := by
    rw [rest, aside]
  refine ⟨.value rfl, ⟨?_, ?_⟩⟩
  · rw [run_modify, run_modify, kept, moved]
    exact database
  · rw [run_modify, run_modify, moved]

theorem Agrees.reachable :
    Agrees (DifferBy alike) (DifferBy alike) Eq Action.reachable Action.reachable := by
  intro w w' start
  rw [run_reachable, run_reachable, start.mode]
  split
  · exact ⟨.fault rfl, start⟩
  · exact ⟨.value rfl, start⟩

theorem Agrees.writable :
    Agrees (DifferBy alike) (DifferBy alike) Eq Action.writable Action.writable := by
  intro w w' start
  rw [run_writable, run_writable, start.mode]
  cases w.mode with
  | ok => exact ⟨.value rfl, start⟩
  | readOnly | offline => exact ⟨.fault rfl, start⟩

theorem Agrees.query : Agrees (DifferBy alike) (DifferBy alike) alike Action.query Action.query := by
  refine Agrees.reachable.bind_eq fun _ => Agrees.get.bind fun w w' start => ?_
  exact .pure start.database

theorem Agrees.rows [Numbered α] {table : Database → Table α} {same : List α → List α → Prop}
    (holds : ∀ d d', alike d d' → same (table d).rows (table d').rows) :
    Agrees (DifferBy alike) (DifferBy alike) same (Action.rows table) (Action.rows table) :=
  Agrees.query.bind fun d d' start => .pure (holds d d' start)

theorem Agrees.lookup [Numbered α] {table : Database → Table α} {same : Option α → Option α → Prop}
    {id : Nat} (nothing : inRange id = false → same none none)
    (holds : inRange id = true → ∀ d d', alike d d' → same ((table d).find? id) ((table d').find? id)) :
    Agrees (DifferBy alike) (DifferBy alike) same (Action.lookup table id) (Action.lookup table id) := by
  unfold Action.lookup
  cases small : inRange id with
  | true =>
      rw [if_pos rfl]
      exact Agrees.query.bind fun d d' start => .pure (holds small d d' start)
  | false =>
      rw [if_neg Bool.false_ne_true]
      exact .pure (nothing small)

/-- A write that succeeds on both databases or on neither. -/
theorem Agrees.commit {change change' : Database → Except Database.Violation Database}
    (both : ∀ d d', alike d d' →
      (∃ written written', change d = .ok written ∧ change' d' = .ok written' ∧ alike written written') ∨
        ∃ violation, change d = .error violation ∧ change' d' = .error violation) :
    Agrees (DifferBy alike) (DifferBy alike) Eq (Action.commit change) (Action.commit change') := by
  intro w w' start
  rw [run_commit, run_commit, start.mode]
  cases w.mode with
  | ok =>
      rcases both _ _ start.database with
        ⟨written, written', here, there, alikeAfter⟩ | ⟨violation, here, there⟩
      · rw [here, there]
        refine ⟨.value rfl, ⟨alikeAfter, ?_⟩⟩
        dsimp only
        rw [start.rest]
      · rw [here, there]
        exact ⟨.fault rfl, start⟩
  | readOnly | offline => exact ⟨.fault rfl, start⟩

end Databases

end GridCommons.Site.Action

namespace GridCommons.Account

open Site Site.Action

variable {alike : Database → Database → Prop}

theorem forget_agrees (name : String) :
    Agrees (DifferBy alike) (DifferBy alike) Eq (forget name) (forget name) :=
  .modify fun _ _ => rfl

theorem endSession_agrees (key : Nat) :
    Agrees (DifferBy alike) (DifferBy alike) Eq (endSession key) (endSession key) :=
  Agrees.writable.bind_eq fun _ => .modify fun _ _ => rfl

/-- The user of a visitor is the same where the users are. -/
theorem currentUser_agrees (users : ∀ d d', alike d d' → d'.users = d.users) (visitor : Visitor) :
    Agrees (DifferBy alike) (DifferBy alike) Eq (currentUser visitor) (currentUser visitor) := by
  cases visitor with
  | direct user => exact .pure rfl
  | browser name =>
      refine Agrees.get.bind fun w w' start => ?_
      have held : heldBy name w' = heldBy name w := by
        rw [start.rest]
        rfl
      rw [held]
      cases heldBy name w with
      | none => exact .pure rfl
      | some key =>
          refine Agrees.reachable.bind_eq fun _ => Agrees.get.bind fun w w' start => ?_
          have live : liveSession? key w' = liveSession? key w := by
            rw [start.rest]
            rfl
          rw [live]
          cases liveSession? key w with
          | none => exact (forget_agrees name).bind_eq fun _ => .pure rfl
          | some session =>
              have serves : sessionUser? session w' = sessionUser? session w := by
                rw [sessionUser?, users _ _ start.database]
                rfl
              dsimp only
              rw [serves]
              cases sessionUser? session w with
              | none => exact .pure rfl
              | some user =>
                  dsimp only
                  split
                  · exact .pure rfl
                  · exact (endSession_agrees key).bind_eq fun _ =>
                      (forget_agrees name).bind_eq fun _ => .pure rfl

end GridCommons.Account
