import GridCommons.Proofs.Answers
import GridCommons.Proofs.Nesting
import GridCommons.Proofs.Telling
import GridCommons.Proofs.Walls

/-!
Contract: the walls of a card, told from what clients were answered.

Owns:
- the wall that an answer acknowledges, and the removal that it does;
- `wallHistory`: the walls that a card had and those acknowledged on it, without those whose
  removal was acknowledged;
- that a request to the site changes the walls exactly as its answer says;
- that the state of a card's grid shows the history of its walls.

Does not own: which requests are refused.
-/

namespace GridCommons.Web

open Site
open GridCommons.Json (Value)

/-- The number, the place and the size of a wall. -/
abbrev WallPlace := Nat × Int × Int × Int × Int

/-- Read a wall from an answer. -/
def placeOf? (value : Value) : Option WallPlace := do
  let id ← (value.get? "id").bind Value.asInt?
  let x ← (value.get? "x").bind Value.asInt?
  let y ← (value.get? "y").bind Value.asInt?
  let width ← (value.get? "width").bind Value.asInt?
  let height ← (value.get? "height").bind Value.asInt?
  return (id.toNat, x, y, width, height)

/-- The value of an answer that reports success. -/
def Content.success? : Content → Option Value
  | .json value => if (value.get? "success").bind Value.asBool? = some true then some value else none
  | _ => none

/-- The number that the body of a request names as that of the card. -/
def cardNamed? (body : Bytes) : Option Int :=
  (readWall none body).toOption.bind fun asked => (rowNumber asked.card).toOption.join

/-- A wall that is read within a limit is read without one. -/
theorem readWall_unlimited {room : Nat} {body : Bytes} {asked : WallRequest}
    (reads : readWall (some room) body = .ok asked) : readWall none body = .ok asked := by
  obtain ⟨v, read, reads⟩ := bind_eq_ok reads
  obtain ⟨short, read⟩ := readDocument_eq_ok_iff.mp read
  have unlimited := readDocument_eq_ok_iff.mpr ⟨short, (Json.readBytes_limited read).1⟩
  rw [readWall, unlimited]
  exact reads

/-- A wall can be read back from its place in an answer. -/
theorem placeOf?_wallJson (wall : Wall) : placeOf? (wallJson wall) = some (wallPlace wall) := by
  rfl

end GridCommons.Web

namespace GridCommons

open Site Web
open GridCommons.Json (Value)

/-- The value of an answer of success. -/
def StepResult.success? (result : StepResult) : Option Value :=
  if result.status? = some 200 then result.content?.bind Content.success? else none

namespace Step

/-- The wall that an answer acknowledges on a card. -/
def placed? (card : Nat) (step : Step) (result : StepResult) : Option WallPlace := do
  let r ← step.sent?
  if addressOf r.path = some .addWall ∧ cardNamed? r.bytes = some (card : Int) then
    let value ← result.success?
    (value.get? "wall").bind placeOf?
  else none

/-- The wall whose removal an answer acknowledges. -/
def removed? (step : Step) (result : StepResult) : Option Nat := do
  let r ← step.sent?
  match addressOf r.path with
  | some (.removeWall id) => result.success?.map fun _ => id
  | _ => none

end Step

/-- The walls that answers acknowledge on a card, in the order of the answers. -/
def placedOn (card : Nat) (exchanges : List (Step × StepResult)) : List WallPlace :=
  exchanges.filterMap fun exchange => exchange.1.placed? card exchange.2

/-- The walls whose removal answers acknowledge. -/
def removals (exchanges : List (Step × StepResult)) : List Nat :=
  exchanges.filterMap fun exchange => exchange.1.removed? exchange.2

/-- The walls that a card had at first and those that answers acknowledge on it, without those whose
removal they acknowledge. -/
def wallHistory (card : Nat) (start : List WallPlace) (exchanges : List (Step × StepResult)) :
    List WallPlace :=
  (start ++ placedOn card exchanges).filter fun place => place.1 ∉ removals exchanges

section History

variable {card : Nat} {start : List WallPlace} {exchange : Step × StepResult}
  {rest : List (Step × StepResult)}

@[simp] theorem placedOn_cons :
    placedOn card (exchange :: rest) = (exchange.1.placed? card exchange.2).toList ++ placedOn card rest := by
  cases placed : exchange.1.placed? card exchange.2 <;> simp [placedOn, placed]

@[simp] theorem removals_cons :
    removals (exchange :: rest) = (exchange.1.removed? exchange.2).toList ++ removals rest := by
  cases removed : exchange.1.removed? exchange.2 <;> simp [removals, removed]

@[simp] theorem placedOn_nil : placedOn card [] = [] :=
  rfl

@[simp] theorem removals_nil : removals [] = [] :=
  rfl

/-- A history goes on from what its first answer leaves, if that takes away none of the walls that are
acknowledged later. -/
theorem wallHistory_cons
    (later : ∀ place ∈ placedOn card rest, exchange.1.removed? exchange.2 ≠ some place.1) :
    wallHistory card start (exchange :: rest) =
      wallHistory card (wallHistory card start [exchange]) rest := by
  have kept : (placedOn card rest).filter (fun place => place.1 ∉ removals [exchange]) =
      placedOn card rest := by
    apply List.filter_eq_self.mpr
    intro place placed
    rw [decide_eq_true_iff, removals_cons, removals_nil, List.append_nil, Option.mem_toList]
    exact later place placed
  calc wallHistory card start (exchange :: rest)
    _ = ((start ++ placedOn card [exchange] ++ placedOn card rest).filter
          fun place => place.1 ∉ removals [exchange]).filter fun place => place.1 ∉ removals rest := by
        rw [List.filter_filter, wallHistory]
        simp [and_comm]
    _ = wallHistory card (wallHistory card start [exchange]) rest := by
        rw [List.filter_append, kept]
        rfl

end History

end GridCommons

/-! ## Walls in the database -/

namespace GridCommons.Site.Database

variable {d : Database} {wall : Wall} {card id : Nat}

/-- A new wall comes last. -/
theorem wallsOf_put_new (new : wall.id = d.walls.next) :
    (d.put (.wall wall)).wallsOf card =
      d.wallsOf card ++ [wall].filter fun wall => wall.cardId == card := by
  have rows : (d.put (.wall wall)).walls.rows = d.walls.rows ++ [wall] := Table.rows_put_new new
  rw [wallsOf, rows, List.filter_append, wallsOf]

theorem walls_delete_wall (d : Database) (id : Nat) :
    (d.delete [⟨.wall, id⟩]).walls = d.walls.erase id := by
  apply Table.eq_of_rows_of_next
  · refine Table.rows_eq_of_find?_eq fun number => ?_
    rw [Table.find?_erase]
    refine (Slot.wall.find?_delete_leaf rfl (by simp) number).trans ?_
    simp [Slot.wall]
  · exact next_delete d _ .wall

theorem wallsOf_delete_wall (d : Database) (id card : Nat) :
    (d.delete [⟨.wall, id⟩]).wallsOf card = (d.wallsOf card).filter fun wall => wall.id ≠ id := by
  have rows : (d.walls.erase id).rows = d.walls.rows.filter fun wall => wall.id ≠ id :=
    List.filter_congr fun wall _ => (decide_not (p := wall.id = id)).symm
  rw [wallsOf, walls_delete_wall, rows, wallsOf, List.filter_filter, List.filter_filter]
  exact List.filter_congr fun wall _ => Bool.and_comm _ _

theorem cards_delete_wall (d : Database) (id number : Nat) :
    (d.delete [⟨.wall, id⟩]).cards.find? number = d.cards.find? number :=
  Slot.card.find?_delete_leaf_of_ne rfl (by simp) (by simp [Slot.card]) number

end GridCommons.Site.Database

/-! ## Requests -/

namespace GridCommons.Web

open Site Account

variable {r : Request} {w : World} {d : Database}

/-- A submission was answered by a reply, and did what goes with it, or it did nothing, and reports
no success. -/
def Reports (r : Request) (did : Reply → Database → Prop) (d : Database)
    (outcome : Except Fault Reply) (d' : Database) : Prop :=
  (r.method = "POST" ∧ ∃ reply, outcome = .ok reply ∧ did reply d') ∨
    (d' = d ∧ ∀ reply, outcome = .ok reply → reply.status ≠ 200)

theorem Reports.of_fault {did : Reply → Database → Prop} {fault : Fault} :
    Reports r did d (.error fault) d :=
  .inr ⟨rfl, nofun⟩

theorem Reports.of_status {did : Reply → Database → Prop} {reply : Reply}
    (unsuccessful : reply.status ≠ 200) : Reports r did d (.ok reply) d := by
  refine .inr ⟨rfl, ?_⟩
  rintro _ ⟨⟩
  exact unsuccessful

/-- A submission reports what the operation behind its guards did. -/
theorem serve_reports {did : Reply → Database → Prop} {address : Address} {next : User → Action Reply}
    (there : addressOf r.path = some address) (chosen : serveAddress r address = submission r next)
    (passes : ∀ user, r.method = "POST" → (next user).Ends w.database (Reports r did w.database)) :
    Reports r did w.database ((serve r).run w).1 ((serve r).run w).2.database := by
  rw [serve, there]
  dsimp only
  rw [chosen]
  unfold submission Guard.postOnly
  by_cases posted : r.method = "POST"
  · rw [if_pos posted]
    apply ends_settled
    · apply ends_signedIn
      · exact fun user _ => passes user posted
      · exact fun fault => .of_fault
      · exact .of_status (by simp [signInFirst, Reply.redirect])
    · rintro fault reply d' - unsuccessful (⟨-, _, fails, -⟩ | ⟨same, -⟩)
      · cases fails
      · rw [same]
        exact .of_status (unsuccessful posted)
  · rw [if_neg posted]
    exact .of_status (by simp [Reply.notAllowed])

/-- The reply to a request that added a wall. -/
def wallAdded (wall : Wall) : Reply :=
  .ofJson (.object [("success", .bool true), ("wall", wallJson wall)])

/-- The reply to a request that removed a wall. -/
def wallRemoved : Reply :=
  .ofJson (.object [("success", .bool true)])

/-- What goes with the reply to a request that added a wall. -/
def AddsWall (body : Bytes) (d : Database) (reply : Reply) (d' : Database) : Prop :=
  ∃ wall : Wall, wall.id = d.walls.next ∧ cardNamed? body = some (wall.cardId : Int) ∧
    d' = d.put (.wall wall) ∧ reply = wallAdded wall

/-- What goes with the reply to a request that removed a wall. -/
def RemovesWall (id : Nat) (d : Database) (reply : Reply) (d' : Database) : Prop :=
  d.walls.has id = true ∧ d' = d.delete [⟨.wall, id⟩] ∧ reply = wallRemoved

theorem wallCard_named (value : Json.Value) :
    (wallCard value).Reads fun found _ =>
      ∀ card, found = some card → rowNumber value = .ok (some (card.id : Int)) := by
  refine (Action.ofExcept_reads _).then fun number => ?_
  split
  · rename_i id
    refine (Action.lookup_reads id).obeys.weaken (fun _ start => start) fun found d known card here => ?_
    have number : card.id = id := (Table.find?_eq_some_iff.mp (known.2 card here)).2
    rw [known.1.2, number]
    rfl
  · exact .pure fun _ _ _ absent => nomatch absent

/-- The reply to a request for a wall reports success exactly if the wall was stored. -/
theorem addWall_reports (posted : r.method = "POST") (user : User) (d : Database) :
    (addWall r user).Ends d (Reports r (AddsWall r.bytes d) d) := by
  have fails : ∀ fault, Reports r (AddsWall r.bytes d) d (.error fault) d := fun _ => .of_fault
  refine ends_recovering ?_ (fun reply d' ended => ended) ?_
  · refine Action.platform_silent.ends_bind fails fun platform _ => ?_
    refine (Action.ofExcept_reads _).ends_bind fails fun asked read => ?_
    refine (wallCard_named _).ends_bind fails fun found named => ?_
    cases found with
    | none => exact .pure (.of_status (by simp [Reply.ofError]))
    | some card =>
        refine .ite (fun _ => .pure (.of_status (by simp [Reply.ofError]))) fun _ => ?_
        refine .ite (fun _ => ?_) fun _ => ?_
        · exact Action.writable_silent.ends_bind fails fun _ _ => .fail_bind (fails _)
        · refine Action.Ends.insert_bind fails ?_
          refine .pure (.inl ⟨posted, _, rfl, asked.wall card user _, rfl, ?_, rfl, rfl⟩)
          simp [cardNamed?, readWall_unlimited read, named card rfl, Except.toOption, WallRequest.wall]
  · rintro fault d' (⟨-, _, ends, -⟩ | ⟨same, -⟩)
    · cases ends
    · rw [same]
      exact .of_status (by simp [Reply.ofError])

/-- The reply to a removal reports success exactly if the wall was removed. -/
theorem removeWall_reports (posted : r.method = "POST") (user : User) (id : Nat) (d : Database) :
    (removeWall user id).Ends d (Reports r (RemovesWall id d) d) := by
  have fails : ∀ fault, Reports r (RemovesWall id d) d (.error fault) d := fun _ => .of_fault
  refine (Action.lookup_reads id).ends_bind fails fun found known => ?_
  cases found with
  | none => exact .pure (.of_status (by simp [Reply.ofError]))
  | some wall =>
      refine .ite (fun _ => .pure (.of_status (by simp [Reply.ofError]))) fun _ => ?_
      have there : d.walls.has id = true := by simp [Table.has, known wall rfl]
      refine Action.Ends.mutate_bind fails ?_
      exact .pure (.inl ⟨posted, _, rfl, there, rfl, rfl⟩)

end GridCommons.Web

/-! ## Steps -/

namespace GridCommons.Step

open Site Web

variable {step : Step} {r : Request} {w : World}

theorem success?_of_reply {reply : Reply} (sends : step.sent? = some r) (posted : r.method = "POST")
    (replies : step.reply? w = some reply) (success : reply.status = 200) :
    (step.take w).1.success? = reply.content.success? := by
  have tells := tells_of_reply? sends replies
  rw [StepResult.success?, tells.status, if_pos (congrArg some success),
    tells.content (by simp [posted]), Option.bind_some]

theorem success?_eq_none (sends : step.sent? = some r)
    (unsuccessful : ∀ reply, step.reply? w = some reply → reply.status ≠ 200) :
    (step.take w).1.success? = none := by
  apply if_neg
  rw [status?_eq_some_iff sends (by decide)]
  rintro ⟨reply, replies, status⟩
  exact unsuccessful reply replies status

/-- A step does what its reply reports, or it does nothing, and its answer reports no success. -/
theorem take_reports {did : Reply → Database → Prop} (sends : step.sent? = some r)
    (serves : ∀ arrived, step.delivered? (nextSecond w) = some arrived →
      Reports arrived did w.database ((serve arrived).run (nextSecond w)).1
        ((serve arrived).run (nextSecond w)).2.database) :
    (∃ reply, did reply (step.take w).2.database ∧
        (reply.status = 200 → (step.take w).1.success? = reply.content.success?)) ∨
      ((step.take w).2.database = w.database ∧ (step.take w).1.success? = none) := by
  rw [database_take sends]
  cases delivers : step.delivered? (nextSecond w) with
  | none =>
      refine .inr ⟨rfl, success?_eq_none sends fun reply replies => ?_⟩
      rw [reply?, delivers] at replies
      cases replies
  | some arrived =>
      rcases serves arrived delivers with ⟨posted, reply, ends, done⟩ | ⟨same, unsuccessful⟩
      · refine .inl ⟨reply, done, ?_⟩
        obtain ⟨body, rfl⟩ := delivered?_eq_some delivers sends
        exact success?_of_reply sends posted ((reply?_eq_some_iff delivers).mpr ends)
      · refine .inr ⟨same, success?_eq_none sends fun reply replies => ?_⟩
        exact unsuccessful reply ((reply?_eq_some_iff delivers).mp replies)

/-- What a step does to the walls, and what its answer acknowledges. -/
inductive WallChange (step : Step) (w : World) : Prop where
  | placed (wall : Wall) :
      wall.id = w.database.walls.next → (step.take w).2.database = w.database.put (.wall wall) →
      (∀ card, step.placed? card (step.take w).1 =
        if wall.cardId = card then some (wallPlace wall) else none) →
      step.removed? (step.take w).1 = none → WallChange step w
  | removed (id : Nat) :
      w.database.walls.has id = true → (step.take w).2.database = w.database.delete [⟨.wall, id⟩] →
      (∀ card, step.placed? card (step.take w).1 = none) →
      step.removed? (step.take w).1 = some id → WallChange step w
  | stayed :
      w.database.WallsStay (step.take w).2.database →
      (∀ card, step.placed? card (step.take w).1 = none) →
      step.removed? (step.take w).1 = none → WallChange step w

theorem placed?_eq_none {result : StepResult} (sends : step.sent? = some r)
    (nothing : addressOf r.path ≠ some .addWall ∨ result.success? = none) (card : Nat) :
    step.placed? card result = none := by
  rw [placed?, sends]
  rcases nothing with elsewhere | quiet
  · simp [elsewhere]
  · simp [quiet]

theorem removed?_eq_none {result : StepResult} (sends : step.sent? = some r)
    (nothing : (∀ id, addressOf r.path ≠ some (.removeWall id)) ∨ result.success? = none) :
    step.removed? result = none := by
  rw [removed?, sends]
  simp only [Option.bind_eq_bind, Option.bind_some]
  split
  · rename_i id there
    rcases nothing with elsewhere | quiet
    · exact absurd there (elsewhere id)
    · rw [quiet, Option.map_none]
  · rfl

theorem WallChange.of_unsuccessful (sends : step.sent? = some r)
    (same : (step.take w).2.database = w.database) (quiet : (step.take w).1.success? = none) :
    step.WallChange w :=
  .stayed (.of_eq (by rw [same]) (by rw [same])) (placed?_eq_none sends (.inr quiet))
    (removed?_eq_none sends (.inr quiet))

/-- A request for a wall changes the walls as its answer tells. -/
theorem WallChange.of_addWall (sends : step.sent? = some r)
    (there : addressOf r.path = some .addWall) : step.WallChange w := by
  have serves : ∀ arrived, step.delivered? (nextSecond w) = some arrived →
      Reports arrived (AddsWall r.bytes w.database) w.database ((serve arrived).run (nextSecond w)).1
        ((serve arrived).run (nextSecond w)).2.database := by
    intro arrived delivers
    rw [← (same_delivered delivers sends).2]
    obtain ⟨body, rfl⟩ := delivered?_eq_some delivers sends
    exact serve_reports (r := { r with body }) (w := nextSecond w) there rfl
      fun user posted => addWall_reports posted user w.database
  rcases take_reports sends serves with ⟨reply, ⟨wall, new, named, written, rfl⟩, tells⟩ | ⟨same, quiet⟩
  · refine .placed wall new written (fun card => ?_) (removed?_eq_none sends (.inl (by simp [there])))
    have told : (step.take w).1.success? =
        some (.object [("success", .bool true), ("wall", wallJson wall)]) := tells rfl
    rw [placed?, sends]
    by_cases here : wall.cardId = card
    · simp only [Option.bind_eq_bind, Option.bind_some, there, named, told, here, and_self, ↓reduceIte]
      exact placeOf?_wallJson wall
    · have elsewhere : cardNamed? r.bytes ≠ some (card : Int) := fun same =>
        here (Int.natCast_inj.mp (Option.some.inj (named.symm.trans same)))
      simp [elsewhere, here]
  · exact .of_unsuccessful sends same quiet

theorem WallChange.of_removeWall {id : Nat} (sends : step.sent? = some r)
    (there : addressOf r.path = some (.removeWall id)) : step.WallChange w := by
  have serves : ∀ arrived, step.delivered? (nextSecond w) = some arrived →
      Reports arrived (RemovesWall id w.database) w.database ((serve arrived).run (nextSecond w)).1
        ((serve arrived).run (nextSecond w)).2.database := by
    intro arrived delivers
    obtain ⟨body, rfl⟩ := delivered?_eq_some delivers sends
    exact serve_reports (r := { r with body }) (w := nextSecond w) there rfl
      fun user posted => removeWall_reports posted user id w.database
  rcases take_reports sends serves with ⟨reply, ⟨present, written, rfl⟩, tells⟩ | ⟨same, quiet⟩
  · refine .removed id present written (placed?_eq_none sends (.inl (by simp [there]))) ?_
    have told : (step.take w).1.success? = some (.object [("success", .bool true)]) := tells rfl
    simp [removed?, sends, there, told]
  · exact .of_unsuccessful sends same quiet

/-- The answer to a request to the site says what happened to the walls. -/
theorem wallChange (client : step.FromClient) (site : step.ToSite) : step.WallChange w := by
  obtain ⟨r, sends, fromClient⟩ := client
  obtain ⟨_, sent, outside⟩ := site
  cases sends.symm.trans sent
  by_cases adds : addressOf r.path = some .addWall
  · exact .of_addWall sends adds
  by_cases removes : ∃ id, addressOf r.path = some (.removeWall id)
  · obtain ⟨id, there⟩ := removes
    exact .of_removeWall sends there
  · have elsewhere : ∀ id, addressOf r.path ≠ some (.removeWall id) := fun id there => removes ⟨id, there⟩
    refine .stayed ?_ (placed?_eq_none sends (.inl adds)) (removed?_eq_none sends (.inl elsewhere))
    refine take_keeps _ (fun d => .of_eq rfl rfl) .trans sends fun body address there d d' deed => ?_
    have apart : ∀ page, address ≠ .admin page := by
      rintro page rfl
      exact outside page there
    rcases deed.wallsStay_or apart with stay | ⟨id, -, rfl, -⟩ | rfl
    · exact stay
    · exact absurd there (elsewhere id)
    · exact absurd there adds

namespace WallChange

variable {card : Nat}

/-- The next number of a wall never falls. -/
theorem next_le (change : step.WallChange w) :
    w.database.walls.next ≤ (step.take w).2.database.walls.next := by
  cases change with
  | placed wall _ written =>
      rw [written]
      exact Nat.le_max_left _ _
  | removed id _ written =>
      rw [written, Database.walls_delete_wall]
      rfl
  | stayed stay => rw [stay.walls]

/-- A placed wall has the next number. -/
theorem id_placed (change : step.WallChange w) {place : WallPlace}
    (placed : step.placed? card (step.take w).1 = some place) : place.1 = w.database.walls.next := by
  cases change with
  | placed wall new _ acknowledged =>
      rw [acknowledged] at placed
      split at placed
      · cases placed
        exact new
      · cases placed
  | removed _ _ _ nothing | stayed _ nothing => cases (nothing card).symm.trans placed

theorem id_removed (change : step.WallChange w) {id : Nat}
    (removed : step.removed? (step.take w).1 = some id) : id < w.database.walls.next := by
  cases change with
  | placed _ _ _ _ nothing | stayed _ _ nothing => cases nothing.symm.trans removed
  | removed gone present _ _ acknowledged =>
      cases acknowledged.symm.trans removed
      obtain ⟨wall, found⟩ := Option.isSome_iff_exists.mp present
      exact Table.lt_next_of_find? found

theorem cards (change : step.WallChange w) :
    w.database.cards.Persists (fun _ card later => card.SameGrid later) (step.take w).2.database.cards := by
  cases change with
  | placed wall _ written =>
      rw [written]
      exact .of_eq (fun _ => rfl) fun _ _ => ⟨rfl, rfl⟩
  | removed id _ written =>
      rw [written]
      exact .of_eq (Database.cards_delete_wall _ id) fun _ _ => ⟨rfl, rfl⟩
  | stayed stay => exact stay.cards

/-- The walls of a card change as the answer says. -/
theorem wallsOf (change : step.WallChange w) :
    ((step.take w).2.database.wallsOf card).map wallPlace =
      wallHistory card ((w.database.wallsOf card).map wallPlace) [(step, (step.take w).1)] := by
  cases change with
  | placed wall new written acknowledged nothing =>
      rw [written, Database.wallsOf_put_new new]
      by_cases here : wall.cardId = card <;> simp [wallHistory, acknowledged, nothing, here]
  | removed id _ written nothing acknowledged =>
      have gone : removals [(step, (step.take w).1)] = [id] := by simp [acknowledged]
      have unplaced : placedOn card [(step, (step.take w).1)] = [] := by simp [nothing]
      rw [written, Database.wallsOf_delete_wall, wallHistory, gone, unplaced, List.append_nil, List.filter_map]
      refine congrArg _ (List.filter_congr fun wall _ => decide_eq_decide.mpr ?_)
      simp [wallPlace]
  | stayed stay nothing unremoved =>
      rw [Database.wallsOf, stay.walls]
      simp [wallHistory, nothing, unremoved, Database.wallsOf]

end WallChange

end GridCommons.Step

/-! ## Runs -/

namespace GridCommons

open Site Web

section Runs

variable {steps : List Step} {w : World} {card : Nat}

/-- The walls that a run places have numbers that were not given before it. -/
theorem le_of_placed (changes : ∀ step ∈ steps, ∀ w, step.WallChange w) :
    ∀ place ∈ placedOn card (steps.zip (runSteps steps w).1), w.database.walls.next ≤ place.1 := by
  induction steps generalizing w with
  | nil => simp
  | cons step rest inductionHypothesis =>
      obtain ⟨change, changesLater⟩ := List.forall_mem_cons.mp changes
      intro place placed
      rw [runSteps_cons, List.zip_cons_cons, placedOn_cons, List.mem_append, Option.mem_toList] at placed
      rcases placed with now | later
      · exact ((change w).id_placed now).ge
      · exact (change w).next_le.trans (inductionHypothesis changesLater place later)

/-- The walls of a card after a run are those that its answers tell of. -/
theorem wallsOf_runSteps (changes : ∀ step ∈ steps, ∀ w, step.WallChange w) :
    ((runSteps steps w).2.database.wallsOf card).map wallPlace =
      wallHistory card ((w.database.wallsOf card).map wallPlace) (steps.zip (runSteps steps w).1) := by
  induction steps generalizing w with
  | nil => simp [wallHistory, runSteps]
  | cons step rest inductionHypothesis =>
      obtain ⟨change, changesLater⟩ := List.forall_mem_cons.mp changes
      rw [runSteps_cons, inductionHypothesis changesLater, (change w).wallsOf]
      -- a wall that was there before the step is not one of those placed after it
      refine (wallHistory_cons fun place placed removed => ?_).symm
      have given := le_of_placed changesLater place placed
      have below := (change w).id_removed removed
      have started := (change w).next_le
      omega

theorem cards_runSteps (changes : ∀ step ∈ steps, ∀ w, step.WallChange w) :
    w.database.cards.Persists (fun _ card later => card.SameGrid later)
      (runSteps steps w).2.database.cards := by
  induction steps generalizing w with
  | nil => exact .of_eq (fun _ => rfl) fun _ _ => ⟨rfl, rfl⟩
  | cons step rest inductionHypothesis =>
      obtain ⟨change, changesLater⟩ := List.forall_mem_cons.mp changes
      exact (change w).cards.trans (inductionHypothesis changesLater) fun _ _ _ _ here there =>
        ⟨there.1.trans here.1, there.2.trans here.2⟩

end Runs

/-! ## The state of a grid -/

/-- The size of a grid and its walls, as an answer writes them. -/
def Web.gridJson (cols rows : Int) (walls : List WallPlace) : Json.Value :=
  .object [("cols", .int cols), ("rows", .int rows), ("walls", .arr (walls.map placeJson))]

theorem Web.run_cardState {w : World} {card : Card} (online : w.mode ≠ .offline)
    (small : inRange card.id = true) (found : w.database.cards.find? card.id = some card) :
    (cardState card.id).run w =
      (.ok (.ofJson (gridJson card.cols card.rows ((w.database.wallsOf card.id).map wallPlace))), w) := by
  unfold cardState
  rw [Action.run_bind, Action.run_lookup online, if_pos small, found]
  dsimp only
  rw [Action.run_bind, Action.run_rows online, gridJson, ← map_wallJson]
  rfl

/-- The step asks for the state of a card's grid, arrives, and finds the database in reach. -/
structure Step.AsksForState (step : Step) (card : Nat) (w : World) (r : Request) : Prop where
  sent : step.sent? = some r
  got : r.method = "GET"
  there : addressOf r.path = some (.cardState card)
  arrives : (step.delivered? (nextSecond w)).isSome = true
  online : w.mode ≠ .offline

theorem Step.AsksForState.shows {step : Step} {w : World} {r : Request} {card : Card}
    (asks : step.AsksForState card.id w r) (small : inRange card.id = true)
    (found : w.database.cards.find? card.id = some card) :
    (step.take w).1.status? = some 200 ∧
      (step.take w).1.content? =
        some (.json (gridJson card.cols card.rows ((w.database.wallsOf card.id).map wallPlace))) := by
  have replies : step.reply? w =
      some (.ofJson (gridJson card.cols card.rows ((w.database.wallsOf card.id).map wallPlace))) := by
    apply reply?_of_serves asks.sent asks.arrives
    intro body
    have runs := run_cardState (w := nextSecond w) asks.online small found
    rw [run_serve (r := { r with body }) asks.there runs]
    rfl
  have answer := tells_of_reply? asks.sent replies
  exact ⟨answer.status, answer.content (by simp [asks.got])⟩

/-- After any run of requests to the site, the state of a grid shows the size that it had, and the
history of its walls as the answers told it, by ascending number. -/
theorem state_shows_wall_history {steps : List Step} {w : World} {card : Card}
    (clients : ∀ step ∈ steps, step.FromClient) (site : ∀ step ∈ steps, step.ToSite)
    (found : w.database.cards.find? card.id = some card) (small : inRange card.id = true)
    {asks : Step} {r : Request} (asking : asks.AsksForState card.id (runSteps steps w).2 r) :
    let history := wallHistory card.id ((w.database.wallsOf card.id).map wallPlace)
      (steps.zip (runSteps steps w).1)
    (asks.take (runSteps steps w).2).1.status? = some 200 ∧
      (asks.take (runSteps steps w).2).1.content? =
        some (.json (gridJson card.cols card.rows history)) ∧
      history.Pairwise fun earlier later => earlier.1 < later.1 := by
  intro history
  have changes : ∀ step ∈ steps, ∀ w, step.WallChange w := fun step member _ =>
    Step.wallChange (clients step member) (site step member)
  have walls : _ = history := wallsOf_runSteps changes
  obtain ⟨later, stands, cols, rows⟩ := cards_runSteps changes card.id card found
  have same : later.id = card.id := (Table.find?_eq_some_iff.mp stands).2
  rw [← same] at asking small stands
  obtain ⟨status, content⟩ := asking.shows small stands
  rw [cols, rows, same, walls] at content
  refine ⟨status, content, ?_⟩
  rw [← walls, List.pairwise_map]
  exact (runSteps steps w).2.database.walls.ascending.filter _

/-! ### Two walls, one of them removed -/

def tenByTen : Card :=
  { id := 1, userId := 1, title := "", description := "", createdAt := ⟨0⟩, updatedAt := ⟨0⟩,
    cols := 10, rows := 10 }

def wallInFirstSquare : Step :=
  asksForWall "\x7b\"field_id\": \"1\", \"x\": 0, \"y\": 0\x7d"

def removesWall : Step :=
  .request { method := "POST", path := "/api/walls/1/remove/", visitor := .browser "ann" }

def stateRequest : Request :=
  { path := "/api/field/1/state/", visitor := .browser "" }

theorem toSite_removesWall : removesWall.ToSite := by
  have there : addressOf "/api/walls/1/remove/" = some (.removeWall 1) := by decide +kernel
  refine ⟨_, rfl, fun page same => ?_⟩
  cases there.symm.trans same

/-- The state shows the second wall only. -/
theorem state_shows_wall_history_second :
    ((Step.request stateRequest).take
        (runSteps [wallInCorner, wallInFirstSquare, removesWall] wallSite).2).1.content? =
      some (.json (gridJson 10 10 [(2, 0, 0, 1, 1)])) := by
  have history : wallHistory tenByTen.id ((wallSite.database.wallsOf tenByTen.id).map wallPlace)
      ([wallInCorner, wallInFirstSquare, removesWall].zip
        (runSteps [wallInCorner, wallInFirstSquare, removesWall] wallSite).1) =
      [(2, 0, 0, 1, 1)] := by decide +kernel
  have clients : ∀ step ∈ [wallInCorner, wallInFirstSquare, removesWall], step.FromClient := by
    simp only [List.forall_mem_cons]
    exact ⟨fromClient_asksForWall _, fromClient_asksForWall _, ⟨_, rfl, rfl⟩, by simp⟩
  have site : ∀ step ∈ [wallInCorner, wallInFirstSquare, removesWall], step.ToSite := by
    simp only [List.forall_mem_cons]
    exact ⟨toSite_asksForWall _, toSite_asksForWall _, toSite_removesWall, by simp⟩
  have found : wallSite.database.cards.find? tenByTen.id = some tenByTen := rfl
  have asks : (Step.request stateRequest).AsksForState tenByTen.id
      (runSteps [wallInCorner, wallInFirstSquare, removesWall] wallSite).2 stateRequest :=
    ⟨rfl, rfl, by decide +kernel, rfl, by decide +kernel⟩
  have shown := (state_shows_wall_history clients site found (by decide) asks).2.1
  rw [history] at shown
  exact shown

end GridCommons
