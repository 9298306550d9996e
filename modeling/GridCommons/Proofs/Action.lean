import GridCommons.Site.Moderation
import Mathlib.Logic.Relation

/-!
Contract: reasoning about actions by what they do to the database.

Owns:
- how actions run: each way to put actions together, and each guard;
- `Action.Obeys`: from which databases an action moves along which changes, and what
  then holds of the value it ends with;
- the rules by which an action obeys what its parts obey;
- `Action.Keeps`, and the rules by which an action keeps a part of the state if its parts do.

A fault may end an action anywhere, and what was written before it stays written.  So a
rule speaks of every state that an action can stop in, and of a value only where there is
one.

Does not own: what any particular operation of the site does.
-/

namespace GridCommons.Site.Action

variable {α β : Type}

/-! ## Runs -/

@[simp] theorem run_pure (a : α) (w : World) : (pure a : Action α).run w = (.ok a, w) :=
  rfl

@[simp] theorem run_fail (fault : Fault) (w : World) :
    (fail fault : Action α).run w = (.error fault, w) :=
  rfl

@[simp] theorem run_get (w : World) : (get : Action World).run w = (.ok w, w) :=
  rfl

@[simp] theorem run_modify (change : World → World) (w : World) :
    (modify change : Action Unit).run w = (.ok (), change w) :=
  rfl

/-- An attempt never fails: the fault is its value, and what was written stays written. -/
@[simp] theorem run_attempt (action : Action α) (w : World) :
    (attempt action).run w = (.ok (action.run w).1, (action.run w).2) :=
  rfl

/-- A fault ends the whole action in the state that was reached. -/
@[simp] theorem run_bind (action : Action α) (next : α → Action β) (w : World) :
    (action >>= next).run w =
      match action.run w with
      | (.ok a, reached) => (next a).run reached
      | (.error fault, reached) => (.error fault, reached) := by
  have opened : (action >>= next).run w =
      ExceptT.bindCont next (action.run w).1 (action.run w).2 := rfl
  rw [opened]
  rcases action.run w with ⟨_ | a, reached⟩ <;> rfl

@[simp] theorem run_writable (w : World) :
    writable.run w =
      match w.mode with
      | .ok => (.ok (), w)
      | .readOnly => (.error .readOnly, w)
      | .offline => (.error .offline, w) := by
  obtain ⟨_, mode, _⟩ := w
  cases mode <;> rfl

@[simp] theorem run_reachable (w : World) :
    reachable.run w = if w.mode = .offline then (.error .offline, w) else (.ok (), w) := by
  obtain ⟨_, mode, _⟩ := w
  cases mode <;> rfl

/-- Reading takes a database that is not out of reach. -/
@[simp] theorem run_query (w : World) :
    query.run w =
      match w.mode with
      | .ok | .readOnly => (.ok w.database, w)
      | .offline => (.error .offline, w) := by
  obtain ⟨_, mode, _⟩ := w
  cases mode <;> rfl

@[simp] theorem run_mutate (change : Database → Database) (w : World) :
    (mutate change).run w =
      match w.mode with
      | .ok => (.ok (), { w with database := change w.database })
      | .readOnly => (.error .readOnly, w)
      | .offline => (.error .offline, w) := by
  obtain ⟨_, mode, _⟩ := w
  cases mode <;> rfl

/-- A change is made whole or not at all. -/
@[simp] theorem run_commit (change : Database → Except Database.Violation Database) (w : World) :
    (commit change).run w =
      match w.mode with
      | .ok =>
        match change w.database with
        | .ok database => (.ok (), { w with database })
        | .error violation => (.error (.violation violation), w)
      | .readOnly => (.error .readOnly, w)
      | .offline => (.error .offline, w) := by
  obtain ⟨database, mode, _⟩ := w
  cases mode with
  | ok =>
      show (match change database with
        | .ok database => (modify fun w : World => { w with database } : Action Unit)
        | .error violation => fail (.violation violation)).run _ = _
      cases change database <;> rfl
  | readOnly => rfl
  | offline => rfl

/-- What an action does to the state does not depend on what becomes of its value. -/
theorem run_bind_pure (action : Action α) (f : α → β) (w : World) :
    ((do let a ← action; return f a : Action β).run w).2 = (action.run w).2 := by
  rw [run_bind]
  rcases action.run w with ⟨_ | a, reached⟩ <;> rfl

/-- The action ends the same in every state, and changes none. -/
def Constant (action : Action α) : Prop :=
  ∃ outcome, ∀ w, action.run w = (outcome, w)

theorem Constant.pure {a : α} : (Pure.pure a : Action α).Constant :=
  ⟨.ok a, fun _ => rfl⟩

theorem Constant.fail {fault : Fault} : (Action.fail fault : Action α).Constant :=
  ⟨.error fault, fun _ => rfl⟩

theorem Constant.bind {action : Action α} {next : α → Action β} (first : action.Constant)
    (rest : ∀ a, (next a).Constant) : (action >>= next).Constant := by
  obtain ⟨fault | a, ends⟩ := first
  · refine ⟨.error fault, fun w => ?_⟩
    rw [run_bind, ends]
  · obtain ⟨outcome, later⟩ := rest a
    refine ⟨outcome, fun w => ?_⟩
    rw [run_bind, ends]
    exact later w

theorem Constant.mapM {γ : Type} {steps : List γ} {each : γ → Action α}
    (constant : ∀ step, (each step).Constant) : (steps.mapM each).Constant := by
  induction steps with
  | nil => exact .pure
  | cons step rest inductionHypothesis =>
      rw [List.mapM_cons]
      exact (constant step).bind fun _ => inductionHypothesis.bind fun _ => .pure

/-! ## Rules -/

/-- From a database that meets `before`, the action changes the database along `moves`
only, and a value that it ends with meets `after` there. -/
def Obeys (moves : Database → Database → Prop) (before : Database → Prop) (action : Action α)
    (after : α → Database → Prop) : Prop :=
  ∀ w, before w.database →
    Relation.ReflTransGen moves w.database (action.run w).2.database ∧
      ∀ a, (action.run w).1 = .ok a → after a (action.run w).2.database

/-- The action leaves the database alone, and a value that it ends with meets `fact`
there. -/
def Reads (action : Action α) (fact : α → Database → Prop) : Prop :=
  action.Obeys (fun _ _ => False) (fun _ => True) fact

/-- The action leaves the database alone. -/
abbrev Silent (action : Action α) : Prop :=
  action.Reads fun _ _ => True

section Rules

variable {moves : Database → Database → Prop} {before : Database → Prop}
  {action : Action α} {next : α → Action β} {after : α → Database → Prop}
  {fact : α → Database → Prop}

/-- The rule of consequence. -/
theorem Obeys.weaken {later : α → Database → Prop} {earlier : Database → Prop}
    (obeys : action.Obeys moves before after) (sooner : ∀ d, earlier d → before d)
    (follows : ∀ a d, after a d → later a d) : action.Obeys moves earlier later := by
  intro w start
  obtain ⟨path, value⟩ := obeys w (sooner _ start)
  exact ⟨path, fun a ends => follows a _ (value a ends)⟩

/-- What holds wherever the action begins may be used. -/
theorem Obeys.knowing (known : Prop) (holds : ∀ d, before d → known)
    (obeys : known → action.Obeys moves before after) : action.Obeys moves before after :=
  fun w start => obeys (holds _ start) w start

/-- Nothing need be said of the value. -/
theorem Obeys.forget (obeys : action.Obeys moves before after) :
    action.Obeys moves before fun _ _ => True :=
  obeys.weaken (fun _ start => start) fun _ _ _ => trivial

/-- Each move is a run of finer ones. -/
theorem Obeys.lift {finer : Database → Database → Prop} (obeys : action.Obeys moves before after)
    (runs : ∀ d d', moves d d' → Relation.ReflTransGen finer d d') :
    action.Obeys finer before after := by
  intro w start
  obtain ⟨path, value⟩ := obeys w start
  exact ⟨Relation.ReflTransGen.lift' id runs _ _ path, value⟩

theorem Obeys.pure {a : α} (holds : ∀ d, before d → after a d) :
    (pure a : Action α).Obeys moves before after := by
  intro w start
  refine ⟨.refl, fun value ends => ?_⟩
  cases ends
  exact holds _ start

/-- A value asks for nothing of the database. -/
theorem Obeys.done {a : α} : (Pure.pure a : Action α).Obeys moves before fun _ _ => True :=
  .pure fun _ _ => trivial

theorem Obeys.fail {fault : Fault} : (fail fault : Action α).Obeys moves before after := by
  intro w _
  exact ⟨.refl, fun _ ends => nomatch ends⟩

theorem Obeys.bind {mid : α → Database → Prop} {after : β → Database → Prop}
    (first : action.Obeys moves before mid) (rest : ∀ a, (next a).Obeys moves (mid a) after) :
    (action >>= next).Obeys moves before after := by
  intro w start
  obtain ⟨path, value⟩ := first w start
  rw [run_bind]
  rcases ended : action.run w with ⟨_ | a, reached⟩
  · rw [ended] at path
    exact ⟨path, fun _ ends => nomatch ends⟩
  · rw [ended] at path value
    obtain ⟨restPath, restValue⟩ := rest a reached (value a rfl)
    exact ⟨path.trans restPath, restValue⟩

/-- A read leaves the database alone. -/
theorem Reads.unchanged (reads : action.Reads fact) (w : World) :
    (action.run w).2.database = w.database :=
  (Relation.reflTransGen_iff_eq fun _ move => move).mp (reads w trivial).1

/-- Nothing follows a fault. -/
theorem Obeys.fail_bind {fault : Fault} {after : β → Database → Prop} :
    ((Action.fail fault : Action α) >>= next).Obeys moves before after :=
  fun _ _ => ⟨.refl, fun _ ends => nomatch ends⟩

theorem Obeys.ite {condition : Prop} [Decidable condition] {other : Action α}
    (holds : condition → action.Obeys moves before after)
    (fails : ¬condition → other.Obeys moves before after) :
    (if condition then action else other).Obeys moves before after := by
  split
  · exact holds ‹_›
  · exact fails ‹_›

/-- Nothing need be known of what came first. -/
theorem Obeys.seq {after : β → Database → Prop} (first : action.Obeys moves before fun _ _ => True)
    (rest : ∀ a, (next a).Obeys moves (fun _ => True) after) :
    (action >>= next).Obeys moves before after :=
  first.bind rest

/-- Only a value is made of what the action ends with. -/
theorem Obeys.then_pure {f : α → β} (obeys : action.Obeys moves before fun _ _ => True) :
    (action >>= fun a => Pure.pure (f a)).Obeys moves before fun _ _ => True :=
  obeys.bind fun _ => .done

/-- What held before a read holds after it. -/
theorem Reads.obeys (reads : action.Reads fact) :
    action.Obeys moves before fun a d => before d ∧ fact a d := by
  intro w start
  have value := (reads w trivial).2
  rw [reads.unchanged w] at value ⊢
  exact ⟨.refl, fun a ends => ⟨start, value a ends⟩⟩

/-- What follows a read may rely on what was read. -/
theorem Reads.then {after : β → Database → Prop} (reads : action.Reads fact)
    (rest : ∀ a, (next a).Obeys moves (fun d => before d ∧ fact a d) after) :
    (action >>= next).Obeys moves before after :=
  reads.obeys.bind rest

theorem Silent.obeys (silent : action.Silent) : action.Obeys moves before fun _ d => before d :=
  (Reads.obeys silent).weaken (fun _ start => start) fun _ _ holds => holds.1

theorem Silent.then {after : β → Database → Prop} (silent : action.Silent)
    (rest : ∀ a, (next a).Obeys moves before after) :
    (action >>= next).Obeys moves before after :=
  silent.obeys.bind rest

theorem Reads.of (read : ∀ w, (action.run w).2.database = w.database ∧
    ∀ a, (action.run w).1 = .ok a → fact a w.database) : action.Reads fact := by
  intro w _
  obtain ⟨same, value⟩ := read w
  rw [same]
  exact ⟨.refl, value⟩

theorem get_reads : (get : Action World).Reads fun w d => w.database = d := by
  refine .of fun w => ⟨rfl, fun a ends => ?_⟩
  cases ends
  rfl

/-- Taking a fault as a value changes nothing else. -/
theorem Obeys.attempt (obeys : action.Obeys moves before after) :
    (attempt action).Obeys moves before fun _ _ => True := by
  intro w start
  exact ⟨(obeys w start).1, fun _ _ => trivial⟩

/-- An action that writes all or nothing ends where it does, or where it began. -/
theorem Obeys.whole (obeys : action.Obeys moves before after) :
    (whole action).Obeys moves before after := by
  intro w start
  obtain ⟨path, value⟩ := obeys w start
  simp only [Action.whole, run_bind, run_get, run_attempt]
  rcases ended : action.run w with ⟨fault | a, reached⟩
  · exact ⟨.refl, fun _ ends => nomatch ends⟩
  · rw [ended] at path value
    exact ⟨path, value⟩

/-- A change that is made ensures what holds after it, and one that is refused moves nothing. -/
theorem Obeys.commit_ensuring {change : Database → Except Database.Violation Database}
    {after : Unit → Database → Prop}
    (moved : ∀ d d', before d → change d = .ok d' → moves d d' ∧ after () d') :
    (commit change).Obeys moves before after := by
  intro w start
  rw [run_commit]
  cases w.mode with
  | ok =>
      cases changed : change w.database with
      | ok d' =>
          obtain ⟨move, holds⟩ := moved _ d' start changed
          exact ⟨.single move, fun _ _ => holds⟩
      | error violation => exact ⟨.refl, fun _ ends => nomatch ends⟩
  | readOnly => exact ⟨.refl, fun _ ends => nomatch ends⟩
  | offline => exact ⟨.refl, fun _ ends => nomatch ends⟩

theorem Obeys.commit {change : Database → Except Database.Violation Database}
    (moved : ∀ d d', before d → change d = .ok d' → moves d d') :
    (commit change).Obeys moves before fun _ _ => True :=
  .commit_ensuring fun d d' start changed => ⟨moved d d' start changed, trivial⟩

theorem Obeys.save {row : Row} (moved : ∀ d d', before d → d.store row = .ok d' → moves d d') :
    (save row).Obeys moves before fun _ _ => True :=
  .commit moved

theorem Obeys.mutate {change : Database → Database} (moved : ∀ d, before d → moves d (change d)) :
    (mutate change).Obeys moves before fun _ _ => True := by
  intro w start
  rw [run_mutate]
  cases w.mode with
  | ok => exact ⟨.single (moved _ start), fun _ _ => trivial⟩
  | readOnly => exact ⟨.refl, fun _ _ => trivial⟩
  | offline => exact ⟨.refl, fun _ _ => trivial⟩

/-- A row is inserted under the next number of its kind. -/
theorem Obeys.insert {kind : Kind} {build : Nat → Row}
    (moved : ∀ d d', before d → d.store (build (d.next kind)) = .ok d' → moves d d') :
    (insert kind build).Obeys moves before fun _ _ => True := by
  refine get_reads.then fun w => Obeys.seq (.commit fun d d' start stored => ?_) fun _ => .done
  obtain ⟨start, rfl⟩ := start
  exact moved _ d' start stored

/-- Going through a list keeps what each of its elements keeps. -/
theorem Obeys.forM {γ : Type} {steps : List γ} {each : γ → Action Unit}
    (obeys : ∀ step ∈ steps, (each step).Obeys moves before fun _ d => before d) :
    (steps.forM each).Obeys moves before fun _ d => before d := by
  induction steps with
  | nil => exact .pure fun _ start => start
  | cons step rest inductionHypothesis =>
      show (each step >>= fun _ => rest.forM each).Obeys moves before _
      refine (obeys step (by simp)).bind fun _ => inductionHypothesis fun later member => ?_
      exact obeys later (by simp [member])

theorem Silent.of (same : ∀ w, (action.run w).2.database = w.database) : action.Silent :=
  Reads.of fun w => ⟨same w, fun _ _ => trivial⟩

theorem Constant.silent (constant : action.Constant) : action.Silent := by
  obtain ⟨outcome, ends⟩ := constant
  exact .of fun w => by rw [ends]

theorem Reads.silent (reads : action.Reads fact) : action.Silent :=
  .of reads.unchanged

theorem Silent.pure {a : α} : (Pure.pure a : Action α).Silent :=
  Obeys.done

theorem Silent.fail {fault : Fault} : (Action.fail fault : Action α).Silent :=
  Obeys.fail

theorem Silent.bind (first : action.Silent) (rest : ∀ a, (next a).Silent) :
    (action >>= next).Silent :=
  Silent.then first rest

theorem Silent.ite {condition : Prop} [Decidable condition] {other : Action α}
    (holds : condition → action.Silent) (fails : ¬condition → other.Silent) :
    (if condition then action else other).Silent :=
  Obeys.ite holds fails

theorem Silent.attempt (silent : action.Silent) : (Action.attempt action).Silent :=
  Obeys.attempt silent

theorem Silent.mapM {γ : Type} {steps : List γ} {each : γ → Action α}
    (silent : ∀ step, (each step).Silent) : (steps.mapM each).Silent := by
  induction steps with
  | nil => exact .pure
  | cons step rest inductionHypothesis =>
      rw [List.mapM_cons]
      exact (silent step).bind fun _ => inductionHypothesis.bind fun _ => .pure

/-- What each element reads holds of everything that is read. -/
theorem Reads.mapM {γ : Type} {steps : List γ} {each : γ → Action α} (good : α → Prop)
    (reads : ∀ step ∈ steps, (each step).Reads fun a _ => good a) :
    (steps.mapM each).Reads fun found _ => ∀ a ∈ found, good a := by
  induction steps with
  | nil => exact .pure fun _ _ _ listed => absurd listed List.not_mem_nil
  | cons step rest inductionHypothesis =>
      obtain ⟨first, later⟩ := List.forall_mem_cons.mp reads
      rw [List.mapM_cons]
      refine first.then fun a => (inductionHypothesis later).then fun found => .pure fun _ start => ?_
      exact List.forall_mem_cons.mpr ⟨start.1.2, start.2⟩

end Rules

/-! ## Reading -/

section Reading

variable [Numbered α] {table : Database → Table α}

theorem now_silent : now.Silent :=
  .of fun _ => rfl

theorem platform_silent : platform.Silent :=
  .of fun _ => rfl

theorem notify_silent (level : NoticeLevel) (text tags : String) : (notify level text tags).Silent :=
  .of fun _ => rfl

theorem drawSalt_silent : drawSalt.Silent :=
  .of fun _ => rfl

theorem writable_silent : writable.Silent := by
  refine .of fun w => ?_
  rw [run_writable]
  cases w.mode <;> rfl

theorem reachable_silent : reachable.Silent := by
  refine .of fun w => ?_
  rw [run_reachable]
  split <;> rfl

theorem require_reads {γ : Type} (fault : Fault) (found : Option γ) :
    (require fault found).Reads fun a _ => found = some a := by
  cases found with
  | none => exact .fail
  | some a => exact .pure fun _ _ => rfl

theorem ofExcept_reads {γ : Type} (result : Except Fault γ) :
    (ofExcept result).Reads fun a _ => result = .ok a := by
  cases result with
  | error => exact .fail
  | ok a => exact .pure fun _ _ => rfl

theorem query_reads : query.Reads fun a d => a = d := by
  refine reachable_silent.then fun _ => get_reads.then fun w => .pure fun d start => ?_
  exact start.2

theorem rows_reads : (rows table).Reads fun found d => found = (table d).rows := by
  refine query_reads.then fun read => .pure fun d start => ?_
  rw [start.2]

/-- A lookup that finds a row finds the one with that number. -/
theorem lookup_reads (id : Nat) :
    (lookup table id).Reads fun found d => ∀ row, found = some row → (table d).find? id = some row := by
  unfold lookup
  split
  · refine query_reads.then fun read => .pure fun d start row found => ?_
    rw [← start.2, found]
  · exact .pure fun d _ row found => nomatch found

/-- Loading ends with a value only if there is a row to load. -/
theorem load_reads (fault : Fault) (id : Nat) :
    (load table fault id).Reads fun row d => (table d).find? id = some row := by
  refine (lookup_reads id).then fun found => ?_
  refine (require_reads fault found).obeys.weaken (fun _ start => start) fun row d known => ?_
  exact known.1.2 row known.2

theorem loadRow_reads (place : Ref) : (loadRow place).Reads fun row d => d.find? place = some row := by
  unfold loadRow
  split
  · refine query_reads.then fun read => ?_
    refine (require_reads _ (read.find? place)).obeys.weaken (fun _ start => start) fun row d known => ?_
    rw [← known.1.2, known.2]
  · exact .fail

theorem members_silent (relation : Relation) (id : Nat) : (members relation id).Silent := by
  refine query_reads.silent.bind fun d => ?_
  split <;> exact .pure

end Reading

/-! ## Writing -/

section Writing

variable {moves : Database → Database → Prop} {before : Database → Prop}

theorem Obeys.succeeds {action : Action Unit} (obeys : action.Obeys moves before fun _ _ => True) :
    action.succeeds.Obeys moves before fun _ _ => True := by
  refine obeys.attempt.bind fun outcome => ?_
  cases outcome <;> exact .done

/-- A row is touched only if it is there. -/
theorem Obeys.touch {kind : Kind} {id : Option Nat} {change : Row → Row}
    (moved : ∀ d number row, before d → id = some number → d.find? ⟨kind, number⟩ = some row →
      moves d (d.put (change row))) :
    (touch kind id change).Obeys moves before fun _ _ => True := by
  cases id with
  | none => exact .fail
  | some number =>
      refine writable_silent.then fun _ => get_reads.then fun w => ?_
      cases found : w.database.find? ⟨kind, number⟩ with
      | none => exact .fail
      | some row =>
          refine .mutate fun d start => ?_
          obtain ⟨start, rfl⟩ := start
          exact moved _ number row start rfl found

/-- A change of members either stores the row with its new members or, where there is no
row, changes nothing. -/
theorem Obeys.changeMembers {relation : Relation} {id : Nat} {change : Members → Members}
    (moved : ∀ d d' row, before d → d.find? ⟨relation.kind, id⟩ = some row →
      d.store (relation.withMembers (change (relation.members row)) row) = .ok d' → moves d d') :
    (changeMembers relation id change).Obeys moves before fun _ _ => True := by
  intro w start
  rw [Action.changeMembers, run_commit]
  cases w.mode with
  | ok =>
      cases found : w.database.find? ⟨relation.kind, id⟩ with
      | none => exact ⟨.refl, fun _ _ => trivial⟩
      | some row =>
          dsimp only
          cases stored : w.database.store (relation.withMembers (change (relation.members row)) row) with
          | ok d' => exact ⟨.single (moved _ d' row start found stored), fun _ _ => trivial⟩
          | error => exact ⟨.refl, fun _ _ => trivial⟩
  | readOnly => exact ⟨.refl, fun _ ends => nomatch ends⟩
  | offline => exact ⟨.refl, fun _ ends => nomatch ends⟩

end Writing

/-! ## Keeping a part of the state -/

section Keeping

variable {γ : Type} {part : World → γ} {action : Action α} {next : α → Action β}

/-- The action leaves a part of the state as it was. -/
def Keeps (part : World → γ) (action : Action α) : Prop :=
  ∀ w, part (action.run w).2 = part w

@[grind ←] theorem Keeps.pure {a : α} : (Pure.pure a : Action α).Keeps part :=
  fun _ => rfl

@[grind ←] theorem Keeps.fail {fault : Fault} : (Action.fail fault : Action α).Keeps part :=
  fun _ => rfl

@[grind ←] theorem Keeps.get : (get : Action World).Keeps part :=
  fun _ => rfl

@[grind ←] theorem Keeps.bind (first : action.Keeps part) (rest : ∀ a, (next a).Keeps part) :
    (action >>= next).Keeps part := by
  intro w
  have before := first w
  rw [run_bind]
  rcases ran : action.run w with ⟨fault | a, reached⟩
  · rw [ran] at before
    exact before
  · rw [ran] at before
    exact (rest a reached).trans before

@[grind ←] theorem Keeps.attempt (keeps : action.Keeps part) : (Action.attempt action).Keeps part :=
  keeps

@[grind ←] theorem Keeps.mapOption {δ : Type} {each : δ → Action α}
    (keeps : ∀ c, (each c).Keeps part) (found : Option δ) : (found.mapM each).Keeps part := by
  cases found with
  | none => exact .pure
  | some c => exact .bind (keeps c) fun _ => .pure

@[grind ←] theorem Keeps.require (fault : Fault) (found : Option α) :
    (Action.require fault found).Keeps part := by
  cases found <;> exact fun _ => rfl

@[grind ←] theorem Keeps.ofExcept (result : Except Fault α) :
    (Action.ofExcept result).Keeps part := by
  cases result <;> exact fun _ => rfl

/-- The action changes other parts of the state. -/
@[grind ←] theorem Keeps.modify {change : World → World}
    (elsewhere : ∀ w, part (change w) = part w) : (modify change : Action Unit).Keeps part :=
  elsewhere

@[grind ←] theorem now_keeps : now.Keeps part := by
  grind [now]

@[grind ←] theorem platform_keeps : platform.Keeps part := by
  grind [platform]

@[grind ←] theorem reachable_keeps : reachable.Keeps part := by
  grind [reachable]

@[grind ←] theorem writable_keeps : writable.Keeps part := by
  grind [writable]

@[grind ←] theorem query_keeps : query.Keeps part := by
  grind [query]

@[grind ←] theorem succeeds_keeps {action : Action Unit} (keeps : action.Keeps part) :
    (succeeds action).Keeps part := by
  grind [succeeds]

end Keeping

end GridCommons.Site.Action
