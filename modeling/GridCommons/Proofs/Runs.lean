import Mathlib.Data.List.Infix
import GridCommons.Step

/-!
Contract: runs of steps.

Owns:
- a rule for steps, asked of every step of a run where the steps before it lead;
- from what a step keeps, what a run keeps;
- from the exact rule by which a step keeps a property, the exact rule by which a run
  never leaves it.

Does not own: any property of the site, and any rule.
-/

namespace GridCommons

open Site

theorem runSteps_cons (step : Step) (rest : List Step) (w : World) :
    runSteps (step :: rest) w =
      ((step.take w).1 :: (runSteps rest (step.take w).2).1, (runSteps rest (step.take w).2).2) :=
  rfl

/-- A run may be cut anywhere. -/
theorem runSteps_append (earlier later : List Step) (w : World) :
    (runSteps (earlier ++ later) w).2 = (runSteps later (runSteps earlier w).2).2 := by
  induction earlier generalizing w with
  | nil => rfl
  | cons step rest inductionHypothesis => exact inductionHypothesis (step.take w).2

/-- The rule holds of every step of the run, taken where the steps before it lead. -/
def EachStep (rule : Step → World → Prop) : List Step → World → Prop
  | [], _ => True
  | step :: rest, w => rule step w ∧ EachStep rule rest (step.take w).2

section Invariants

variable (holds : World → Prop) {sort : Step → Prop} {rule stricter : Step → World → Prop}
  {steps : List Step} {w : World}

theorem EachStep.mono (weaken : ∀ step w, stricter step w → rule step w)
    (each : EachStep stricter steps w) : EachStep rule steps w := by
  induction steps generalizing w with
  | nil => trivial
  | cons step rest inductionHypothesis => exact ⟨weaken _ _ each.1, inductionHypothesis each.2⟩

/-- A property that steps keep by a rule, runs of steps that obey it keep. -/
theorem EachStep.invariant (kept : ∀ step w, rule step w → holds w → holds (step.take w).2)
    (each : EachStep rule steps w) (start : holds w) : holds (runSteps steps w).2 := by
  induction steps generalizing w with
  | nil => exact start
  | cons step rest inductionHypothesis =>
      exact inductionHypothesis each.2 (kept step w each.1 start)

theorem eachStep_of_forall (sorted : ∀ step ∈ steps, sort step) :
    EachStep (fun step _ => sort step) steps w := by
  induction steps generalizing w with
  | nil => trivial
  | cons step rest inductionHypothesis =>
      obtain ⟨first, later⟩ := List.forall_mem_cons.mp sorted
      exact ⟨first, inductionHypothesis later⟩

/-- A property that steps of a sort keep, runs of such steps keep. -/
theorem holds_runSteps (kept : ∀ step w, sort step → holds w → holds (step.take w).2)
    (sorted : ∀ step ∈ steps, sort step) (start : holds w) : holds (runSteps steps w).2 :=
  EachStep.invariant holds kept (eachStep_of_forall sorted) start

/-- Where a step keeps a property exactly by a rule, a run has it at every moment exactly if
each of its steps obeys the rule. -/
theorem holds_along_iff (kept : ∀ step w, sort step → holds w → (holds (step.take w).2 ↔ rule step w))
    (sorted : ∀ step ∈ steps, sort step) (start : holds w) :
    (∀ earlier, earlier <+: steps → holds (runSteps earlier w).2) ↔ EachStep rule steps w := by
  induction steps generalizing w with
  | nil =>
      refine ⟨fun _ => trivial, fun _ earlier begins => ?_⟩
      rw [List.prefix_nil.mp begins]
      exact start
  | cons step rest inductionHypothesis =>
      obtain ⟨first, later⟩ := List.forall_mem_cons.mp sorted
      have exactly := kept step w first start
      constructor
      · intro always
        have next : holds (step.take w).2 := always [step] (List.prefix_append [step] rest)
        refine ⟨exactly.mp next, (inductionHypothesis later next).mp fun earlier begins => ?_⟩
        exact always (step :: earlier) (List.cons_prefix_cons.mpr ⟨rfl, begins⟩)
      · rintro ⟨obeys, obeysLater⟩ earlier begins
        rcases List.prefix_cons_iff.mp begins with rfl | ⟨between, rfl, beginsLater⟩
        · exact start
        · exact (inductionHypothesis later (exactly.mpr obeys)).mpr obeysLater between beginsLater

end Invariants

end GridCommons
