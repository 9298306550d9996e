import Mathlib.Data.Finset.Card
import GridCommons.Proofs.Keeping
import GridCommons.Proofs.Rewriting
import GridCommons.Proofs.Verdicts

/-!
Contract: the same verdict on many complaints.

Owns:
- what a verdict on a set of complaints makes of every row;
- that a verdict at once and verdicts in turn are the same rewriting, whatever the order;
- that the number which is told is the size of the set.

A verdict at once writes two columns of the chosen rows.  A verdict in turn reads a row and writes
all of it, and it ends with a fault every time.
-/

namespace GridCommons.Site

theorem Table.length_filter_ids {α : Type} [Numbered α] (t : Table α) (ids : List Nat)
    (known : ∀ id ∈ ids, t.has id = true) :
    (t.rows.filter fun row => ids.contains (Numbered.id row)).length = ids.toFinset.card := by
  have distinct : ((t.rows.filter fun row => ids.contains (Numbered.id row)).map Numbered.id).Nodup := by
    have ascending : (t.rows.map Numbered.id).Nodup :=
      List.Pairwise.imp (fun below => Nat.ne_of_lt below) (List.pairwise_map.mpr t.ascending)
    exact ascending.sublist (List.filter_sublist.map _)
  have same : ((t.rows.filter fun row => ids.contains (Numbered.id row)).map Numbered.id).toFinset =
      ids.toFinset := by
    ext id
    simp only [List.mem_toFinset, List.mem_map, List.mem_filter, List.contains_iff_mem]
    constructor
    · rintro ⟨row, ⟨-, chosen⟩, rfl⟩
      exact chosen
    · intro chosen
      obtain ⟨row, found⟩ := Table.has_iff.mp (known id chosen)
      obtain ⟨member, rfl⟩ := Table.find?_eq_some_iff.mp found
      exact ⟨row, ⟨member, chosen⟩, rfl⟩
  rw [← same, List.toFinset_card_of_nodup distinct, List.length_map]

end GridCommons.Site

namespace GridCommons.Web

open Site Database

variable {verdict : Verdict} {w : World} {id : Nat} {order selection : List Nat} {chosen : Finset Nat}

namespace Verdict

def name : Verdict → String
  | .approve => "approve"
  | .reject => "reject"

theorem ofName?_name (verdict : Verdict) : ofName? verdict.name = some verdict := by
  cases verdict <;> rfl

/-- What a verdict on a set of complaints makes of a row. -/
def onRow (verdict : Verdict) (chosen : Finset Nat) : Row → Row
  | .cardReport report =>
    .cardReport (if report.id ∈ chosen then verdict.settle report else report)
  | row => row

/-- Verdicts on two sets make one on both. -/
theorem onRow_onRow (verdict : Verdict) (first second : Finset Nat) (row : Row) :
    verdict.onRow second (verdict.onRow first row) = verdict.onRow (first ∪ second) row := by
  cases row with
  | cardReport report =>
      by_cases one : report.id ∈ first <;> by_cases other : report.id ∈ second <;>
        simp [onRow, one, other, settle]
  | _ => rfl

theorem onRow_empty (verdict : Verdict) (row : Row) : verdict.onRow ∅ row = row := by
  cases row <;> rfl

end Verdict

/-! ## At once -/

/-- A verdict at once rewrites the chosen complaints and nothing else. -/
theorem rewritten_settleIn (verdict : Verdict) (selection : List Nat) (d : Database) :
    Rewritten (verdict.onRow selection.toFinset) d (settleIn verdict selection d) := by
  have reports : Rewritten (Slot.cardReport.rewriting fun report =>
      if selection.contains report.id then verdict.settle report else report) d
      (settleIn verdict selection d) := by
    apply Slot.cardReport.rewritten (by intro report; split <;> rfl) rfl
    intro kind other
    cases kind with
    | cardReport => exact absurd rfl other
    | _ => rfl
  apply reports.congr
  intro row
  cases row with
  | cardReport report => simp [Verdict.onRow, Slot.rewriting, Slot.cardReport]
  | _ => rfl

def settledNotice (verdict : Verdict) (count : Nat) : Notice :=
  ⟨.success, s!"{count} жалоб " ++ verdict.many, ""⟩

/-- Without numbers nothing is written, and nothing would change. -/
theorem settleIn_nil (verdict : Verdict) (d : Database) : settleIn verdict [] d = d := by
  apply (Rewritten.refl d).unique
  apply (rewritten_settleIn verdict [] d).congr
  intro row
  exact (verdict.onRow_empty row).symm

/-- A verdict at once is told with the number of chosen complaints. -/
theorem run_settleReports (writes : w.mode = .ok)
    (known : ∀ id ∈ selection, w.database.has ⟨.cardReport, id⟩ = true) :
    (settleReports verdict selection).run w =
      (.ok (), { w with
        database := settleIn verdict selection w.database
        notices := w.notices ++ [settledNotice verdict selection.toFinset.card] }) := by
  have present : ∀ id ∈ selection, (settleIn verdict selection w.database).cardReports.has id = true := by
    intro id member
    have kept := (rewritten_settleIn verdict selection w.database).has ⟨.cardReport, id⟩
    rw [known id member] at kept
    exact (Slot.cardReport.has_eq _ _).symm.trans kept
  have count := Table.length_filter_ids _ selection present
  rw [← count]
  cases selection with
  | nil =>
      rw [settleIn_nil]
      rfl
  | cons first rest =>
      have filled : (!(first :: rest).isEmpty) = true := rfl
      rw [settleReports, if_pos filled, Action.run_bind, Action.run_mutate_of_ok writes]
      rfl

/-! ## In turn -/

/-- The state after the complaints with some numbers got a verdict one after the other. -/
def settledInTurn (r : Request) (verdict : Verdict) (order : List Nat) (w : World) : World :=
  order.foldl (fun w id => ((changeStatus r (.nat id) (some verdict.name)).run w).2) w

theorem changeStatus_keeps {γ : Type} {part : World → γ} [Aside part] (r : Request)
    (number : Json.Value) (action : Option String) : (changeStatus r number action).Keeps part := by
  have reads : (givenReport number).Keeps part := by
    refine .bind (.ofExcept _) fun found => ?_
    split
    · exact Action.lookup_keeps _ _
    · exact .pure
  rw [changeStatus_eq]
  refine .bind (.bind reads fun found => ?_) fun _ => .fail
  cases found with
  | none => exact Action.notify_keeps _ _ _
  | some report =>
      refine .bind ?_ fun _ => Action.commit_keeps _
      cases Verdict.ofName? (verdictName r action) with
      | none => exact .pure
      | some verdict => exact Action.notify_keeps _ _ _

/-- One verdict in turn. -/
theorem rewritten_changeStatus (r : Request) (verdict : Verdict) {report : CardReport}
    (stores : storedAgain? id w = some report) :
    Rewritten (verdict.onRow {id}) w.database
      ((changeStatus r (.nat id) (some verdict.name)).run w).2.database := by
  obtain ⟨writes, -, found, -⟩ := storedAgain?_eq_some_iff.mp stores
  have online : w.mode ≠ .offline := by simp [writes]
  have named : namedReport? (.nat id) w = some report := stores
  have name : verdictName r (some verdict.name) = verdict.name := by
    cases verdict <;> rfl
  have settled : judged verdict.name report = verdict.settle report := by
    rw [judged, verdict.ofName?_name]
    rfl
  rw [database_changeStatus online, named, name, Option.map_some, settled]
  have reports := Slot.cardReport.rewritten_put (f := verdict.settle) rfl found
  apply reports.congr
  intro row
  cases row with
  | cardReport other => simp [Verdict.onRow, Slot.rewriting, Slot.cardReport, Numbered.id]
  | _ => rfl

/-- What can be stored again stays so, for nothing but complaints changes. -/
theorem storedAgain?_isSome_of_rewritten {w' : World} (steady : w'.mode = w.mode)
    (rewritten : Rewritten (verdict.onRow chosen) w.database w'.database)
    (stores : (storedAgain? id w).isSome = true) : (storedAgain? id w').isSome = true := by
  obtain ⟨report, stores⟩ := Option.isSome_iff_exists.mp stores
  obtain ⟨writes, small, found, holds⟩ := storedAgain?_eq_some_iff.mp stores
  have before : w.database.find? ⟨.cardReport, id⟩ = some (.cardReport report) :=
    Slot.cardReport.find?_inject found
  have after := rewritten.rows ⟨.cardReport, id⟩
  rw [before] at after
  obtain ⟨changed, here, same⟩ := Slot.cardReport.find?_eq_some after
  have kept : w'.database.linksHold (.cardReport report) = true :=
    linksHold_mono (fun place present => (rewritten.has place).trans present) holds
  apply Option.isSome_iff_exists.mpr
  refine ⟨changed, storedAgain?_eq_some_iff.mpr ⟨by rw [steady, writes], small, here, ?_⟩⟩
  cases same
  split <;> exact kept

/-- Verdicts in turn are a verdict on all. -/
theorem rewritten_settledInTurn (r : Request) (verdict : Verdict)
    (stores : ∀ id ∈ order, (storedAgain? id w).isSome = true) :
    Rewritten (verdict.onRow order.toFinset) w.database (settledInTurn r verdict order w).database := by
  induction order generalizing w with
  | nil => exact (Rewritten.refl w.database).congr verdict.onRow_empty
  | cons first rest inductionHypothesis =>
      obtain ⟨report, here⟩ := Option.isSome_iff_exists.mp (stores first List.mem_cons_self)
      have once := rewritten_changeStatus r verdict here
      -- a verdict takes no row away, so the others can still be stored
      have left : ∀ id ∈ rest, _ := fun id member =>
        storedAgain?_isSome_of_rewritten (changeStatus_keeps _ _ _ w) once
          (stores id (List.mem_cons_of_mem first member))
      apply (once.trans (inductionHypothesis left)).congr
      intro row
      rw [Function.comp, verdict.onRow_onRow, List.toFinset_cons, Finset.insert_eq]

end GridCommons.Web

namespace GridCommons

open Site Web

/-- A verdict at once does what verdicts in turn do.  Where the database can be written and all chosen
complaints are there, it leaves the database that the same verdict leaves if it is given to them one
after the other, in whatever order.  Of the chosen complaints the two marks change, and no other
column or row does.  The number that is told is the size of the set.  From the list of complaints the
same comes of it. -/
theorem verdict_at_once_is_verdicts_in_turn {w : World} {chosen : Finset Nat} {selection order : List Nat}
    (writes : w.mode = .ok) (sound : w.database.Referential)
    (known : ∀ id ∈ chosen, inRange id = true ∧ w.database.has ⟨.cardReport, id⟩ = true)
    (selected : selection.toFinset = chosen) (ordered : order.toFinset = chosen)
    (verdict : Verdict) (r : Request) :
    let after := { w with
      database := (settledInTurn r verdict order w).database
      notices := w.notices ++ [settledNotice verdict chosen.card] }
    (settleReports verdict selection).run w = (.ok (), after) ∧
      (selection.Nodup →
        ((ListAction.settle verdict).run .cardReport selection r).run w =
          (.ok (.redirect r.fullPath), after)) ∧
      Database.Rewritten (verdict.onRow chosen) w.database after.database := by
  have stores : ∀ id ∈ order, (storedAgain? id w).isSome = true := by
    intro id member
    obtain ⟨small, present⟩ := known id (ordered ▸ List.mem_toFinset.mpr member)
    obtain ⟨row, found⟩ := Database.has_iff.mp present
    obtain ⟨report, here, rfl⟩ := Database.Slot.cardReport.find?_eq_some found
    have holds := Database.referential_iff_find?.mp sound _ _ found
    exact Option.isSome_iff_exists.mpr
      ⟨report, storedAgain?_eq_some_iff.mpr ⟨writes, small, here, holds⟩⟩
  have inTurn := rewritten_settledInTurn r verdict stores
  have atOnce := rewritten_settleIn verdict selection w.database
  rw [ordered] at inTurn
  rw [selected] at atOnce
  have same := atOnce.unique inTurn
  have present : ∀ id ∈ selection, w.database.has ⟨.cardReport, id⟩ = true :=
    fun id member => (known id (selected ▸ List.mem_toFinset.mpr member)).2
  intro after
  refine ⟨?_, ?_, inTurn⟩
  · rw [run_settleReports writes present, selected, ← same]
  · intro distinct
    have size : selection.length = chosen.card := by
      rw [← selected, List.toFinset_card_of_nodup distinct]
    rw [ListAction.run, Action.run_bind, Action.run_mutate_of_ok writes, size, ← same]
    rfl

/-! ### Two complaints are turned down -/

/-- There is another complaint about the card. -/
def twoReportsSite : World :=
  { reportSite with
    database := reportSite.database.put
      (.cardReport { id := 2, cardId := 1, userId := none, reason := "other", createdAt := ⟨0⟩ }) }

/-- The verdicts in turn begin with the second complaint. -/
theorem verdict_at_once_is_verdicts_in_turn_both :
    (settleReports .reject [1, 2]).run twoReportsSite =
      (.ok (), { twoReportsSite with
        database := (settledInTurn approvesFirst .reject [2, 1] twoReportsSite).database
        notices := [settledNotice .reject 2] }) := by
  have sound : twoReportsSite.database.Referential := by
    unfold Database.Referential
    decide
  have known : ∀ id ∈ ({1, 2} : Finset Nat),
      inRange id = true ∧ twoReportsSite.database.has ⟨.cardReport, id⟩ = true := by decide
  exact (verdict_at_once_is_verdicts_in_turn rfl sound known rfl (by decide) .reject approvesFirst).1

end GridCommons
