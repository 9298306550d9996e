import GridCommons.Proofs.Answers
import GridCommons.Proofs.Outcome

/-!
Contract: requests of signed-in users, and the row that such a request adds.

Owns:
- `Gains`, that a database has just one row more than another, and that no two rows are it;
- the members of a body that is an object;
- that an operation that recovers from faults always replies;
- `Brings`, an answer that is a JSON value;
- `AddsOne`, what an operation comes to that stores one row or refuses;
- `Arrives`, that the request of a step arrives at an address, and what the step answers and leaves;
- `Reaches`, that it is the request of a signed-in user.

Does not own: what is done at any address.
-/

namespace GridCommons.Site.Database

variable {d d' : Database} {row other : Row}

/-- A row that was not there is stored, and nothing else changes. -/
structure Gains (d d' : Database) (row : Row) : Prop where
  new : d.find? row.ref = none
  stored : d' = d.put row

namespace Gains

theorem of_next {kind : Kind} (stored : d' = d.put row) (numbered : row.ref = ⟨kind, d.next kind⟩) :
    d.Gains d' row :=
  ⟨numbered ▸ find?_next d kind, stored⟩

theorem found (gains : d.Gains d' row) : d'.find? row.ref = some row := by
  rw [gains.stored, find?_put, if_pos rfl]

/-- A database gains one row at most. -/
theorem unique (gains : d.Gains d' row) (also : d.Gains d' other) : other = row := by
  have found := gains.found
  rw [also.stored, find?_put] at found
  split at found
  · exact Option.some.inj found
  · rw [gains.new] at found
    cases found

theorem ne (gains : d.Gains d' row) : d' ≠ d := by
  rintro rfl
  cases gains.new.symm.trans gains.found

end Gains

end GridCommons.Site.Database

namespace GridCommons.Web

open Site

/-- A member of a JSON object, or another value where it has none. -/
def memberOr (entries : List (Json.Text × Json.Value)) (name : String) (other : Json.Value) :
    Json.Value :=
  ((Json.Value.obj entries).get? name).getD other

/-- Where faults are recovered from, there is always a reply. -/
theorem run_recovering (action : Action Reply) (recover : Fault → Reply) (w : World) :
    (recovering action recover).run w =
      (.ok (match (action.run w).1 with
        | .ok reply => reply
        | .error fault => recover fault), (action.run w).2) := by
  rw [recovering, Action.run_bind, Action.run_attempt]
  rcases action.run w with ⟨fault | reply, reached⟩ <;> rfl

/-- Where an operation ends, no reply sends the visitor elsewhere. -/
def Stays (outcome : Except Fault Reply) (_ : Database) : Prop :=
  ∀ reply, outcome = .ok reply → reply.location = none

/-- An operation replies in any case.  It stores and reports the one part that may be added.  Where
none may be, it leaves the state alone, and the status tells whether the request is amiss. -/
def AddsOne {α : Type} (row : α → Row) (report : α → Json.Value) (may : α → Prop) (amiss : Prop)
    (told other : Nat) (action : Action Reply) (w : World) : Prop :=
  (¬amiss ∧ ∃ part, (∀ also, may also ↔ also = part) ∧
    action.run w = (.ok (.ofJson (report part)), { w with database := w.database.put (row part) })) ∨
  ∃ status message, (∀ part, ¬may part) ∧ (status = told ∧ amiss ∨ status = other ∧ ¬amiss) ∧
    action.run w = (.ok (.ofError status message), w)

end GridCommons.Web

namespace GridCommons

open Site Account Web

/-- The answer is a JSON value. -/
structure StepResult.Brings (result : StepResult) (status : Nat) (value : Json.Value) : Prop where
  status : result.status? = some status
  content : result.content? = some (.json value)

theorem StepResult.Tells.brings {result : StepResult} {reply : Reply} {method : String}
    {value : Json.Value} (tells : result.Tells reply method) (posted : method = "POST")
    (content : reply.content = .json value) : result.Brings reply.status value where
  status := tells.status
  content := by rw [tells.content (by simp [posted]), content]

namespace Step

/-- The request of a step arrives at an address. -/
structure Arrives (step : Step) (address : Address) (w : World) (r arrived : Request) : Prop where
  sent : step.sent? = some r
  there : addressOf r.path = some address
  arrives : step.delivered? (nextSecond w) = some arrived

/-- The request of a user who is signed in arrives at an address. -/
structure Reaches (step : Step) (address : Address) (w : World) (r arrived : Request) (user : User) :
    Prop extends step.Arrives address w r arrived where
  client : r.visitor.isClient = true
  served : servedAs r.visitor (nextSecond w) = some user

variable {step : Step} {address : Address} {w reached : World} {r arrived : Request} {user : User}
  {reply : Reply}

namespace Arrives

theorem bytes (arrives : step.Arrives address w r arrived) : arrived.bytes = r.bytes :=
  (same_delivered arrives.arrives arrives.sent).2

theorem text? (arrives : step.Arrives address w r arrived) (name : String) :
    arrived.submitted.text? name = r.submitted.text? name :=
  text?_delivered arrives.arrives arrives.sent name

/-- What is seen of the state after the step, but for the sessions that browsers hold, is what the
operation of the address shows. -/
theorem seen_take {β : Type} {seen : World → β}
    (blind : ∀ w browsers, seen { w with browsers } = seen w)
    (arrives : step.Arrives address w r arrived) :
    seen (step.take w).2 = seen ((serveAddress arrived address).run (nextSecond w)).2 := by
  rw [Step.seen_take blind arrives.sent, arrives.arrives]
  obtain ⟨body, rfl⟩ := delivered?_eq_some arrives.arrives arrives.sent
  exact congrArg seen (state_serve (r := { r with body }) arrives.there _)

theorem database_take (arrives : step.Arrives address w r arrived) :
    (step.take w).2.database = ((serveAddress arrived address).run (nextSecond w)).2.database :=
  arrives.seen_take fun _ _ => rfl

/-- What an address replies is what the step answers. -/
theorem tells (arrives : step.Arrives address w r arrived)
    (ends : (serveAddress arrived address).run (nextSecond w) = (.ok reply, reached)) :
    (step.take w).1.Tells reply r.method ∧ (step.take w).2.database = reached.database := by
  constructor
  · apply tells_of_reply? arrives.sent
    obtain ⟨body, rfl⟩ := delivered?_eq_some arrives.arrives arrives.sent
    rw [reply?_eq_some_iff arrives.arrives, run_serve (r := { r with body }) arrives.there ends]
  · rw [arrives.database_take, ends]

/-- Where the operation of an address leads nowhere, the step does not either. -/
theorem target?_eq_none (arrives : step.Arrives address w r arrived)
    (stays : Stays ((serveAddress arrived address).run (nextSecond w)).1
      ((serveAddress arrived address).run (nextSecond w)).2.database) :
    (step.take w).1.target? = none := by
  have settles : Stays ((serve arrived).run (nextSecond w)).1
      ((serve arrived).run (nextSecond w)).2.database := by
    obtain ⟨body, rfl⟩ := delivered?_eq_some arrives.arrives arrives.sent
    rw [serve, arrives.there]
    refine ends_settled stays fun fault reply d remains _ _ other ends => ?_
    cases ends
    exact remains
  rw [Option.eq_none_iff_forall_ne_some]
  intro path leads
  obtain ⟨reply, replies, location⟩ := (target?_eq_some_iff arrives.sent).mp leads
  rw [settles reply ((reply?_eq_some_iff arrives.arrives).mp replies)] at location
  cases location

end Arrives

namespace Reaches

theorem known (reaches : step.Reaches address w r arrived user) :
    w.database.users.find? user.id = some user :=
  (find?_of_servedAs reaches.client reaches.served).1

theorem online (reaches : step.Reaches address w r arrived user) : (nextSecond w).mode ≠ .offline :=
  online_of_servedAs reaches.client reaches.served

/-- At an address for submissions, the step answers what the operation behind it replies to the
user. -/
theorem tells_of_submission {next : User → Action Reply}
    (reaches : step.Reaches address w r arrived user) (posted : r.method = "POST")
    (behind : serveAddress arrived address = submission arrived next)
    (ends : (next user).run (nextSecond w) = (.ok reply, reached)) :
    (step.take w).1.Tells reply r.method ∧ (step.take w).2.database = reached.database := by
  apply reaches.tells
  obtain ⟨body, rfl⟩ := delivered?_eq_some reaches.arrives reaches.sent
  rw [behind, submission, Guard.postOnly, if_pos posted,
    run_signedIn (r := { r with body }) reaches.served, ends]

/-- The status tells of success exactly if a part is gained, which is the one that may be added, and
it is reported.  Otherwise nothing changes, and the status tells whether the request is amiss. -/
theorem brings_of_addsOne {α : Type} {row : α → Row} {report : α → Json.Value} {may : α → Prop}
    {amiss : Prop} {told other : Nat} {next : User → Action Reply}
    (reaches : step.Reaches address w r arrived user) (posted : r.method = "POST")
    (behind : serveAddress arrived address = submission arrived next)
    (adds : AddsOne row report may amiss told other (next user) (nextSecond w))
    (new : ∀ part, may part → w.database.find? (row part).ref = none)
    (injective : ∀ part also, row part = row also → part = also)
    (differ : [200, told, other].Nodup) :
    ∃ status value, (step.take w).1.Brings status value ∧
      (status = 200 ↔ ∃ part, w.database.Gains (step.take w).2.database (row part)) ∧
      (∀ part, w.database.Gains (step.take w).2.database (row part) ↔ may part) ∧
      (∀ part, may part → value = report part) ∧
      (status ≠ 200 → (step.take w).2.database = w.database ∧ (status = told ∨ status = other)) ∧
      (status = told ↔ amiss) := by
  simp only [List.nodup_cons, List.mem_cons, List.not_mem_nil, or_false, not_or] at differ
  obtain ⟨⟨apart, apart'⟩, between, -⟩ := differ
  rcases adds with ⟨sound, part, only, ends⟩ | ⟨status, message, nothing, which, ends⟩
  · obtain ⟨tells, stored⟩ := reaches.tells_of_submission posted behind ends
    have gains : w.database.Gains (step.take w).2.database (row part) :=
      ⟨new part ((only part).mpr rfl), stored⟩
    refine ⟨200, report part, tells.brings posted rfl, ⟨fun _ => ⟨part, gains⟩, fun _ => rfl⟩, ?_, ?_,
      by simp, iff_of_false apart sound⟩
    · intro also
      rw [only also]
      constructor
      · exact fun gained => injective _ _ (gains.unique gained)
      · rintro rfl
        exact gains
    · intro also allowed
      rw [(only also).mp allowed]
  · obtain ⟨tells, same⟩ := reaches.tells_of_submission posted behind ends
    have none : ∀ part, ¬w.database.Gains (step.take w).2.database (row part) := fun _ gains =>
      gains.ne same
    have failed : status ≠ 200 := by
      rcases which with ⟨rfl, -⟩ | ⟨rfl, -⟩
      · exact Ne.symm apart
      · exact Ne.symm apart'
    refine ⟨status, _, tells.brings posted rfl, iff_of_false failed (not_exists.mpr none),
      fun part => iff_of_false (none part) (nothing part),
      fun part allowed => absurd allowed (nothing part),
      fun _ => ⟨same, which.imp And.left And.left⟩, ?_⟩
    rcases which with ⟨rfl, amiss⟩ | ⟨rfl, sound⟩
    · exact iff_of_true rfl amiss
    · exact iff_of_false (Ne.symm between) sound

end Reaches

end Step

end GridCommons
