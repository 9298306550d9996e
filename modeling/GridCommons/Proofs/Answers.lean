import GridCommons.Proofs.Requests

/-!
Contract: what the visitor sees of an answer.

Owns:
- the status, the target and the content that a step answers, over either way to send a
  request;
- the reply that serving the request of a step gives;
- that the answer of a step is that reply, and where there is none, an answer that neither
  reports success nor leads elsewhere.

Does not own: what any reply says.
-/

namespace GridCommons

open Site Web

namespace StepResult

/-- The status of the answer. -/
def status? (result : StepResult) : Option Nat :=
  match result.answer with
  | .ok (.replied reply) => some reply.status
  | .ok (.responded response) => some response.status
  | _ => none

/-- Where the answer sends the visitor. -/
def target? (result : StepResult) : Option String :=
  match result.answer with
  | .ok (.replied reply) => reply.location
  | .ok (.responded response) => response.headers.lookup "location"
  | _ => none

/-- What the answer brings. -/
def content? (result : StepResult) : Option Content :=
  match result.answer with
  | .ok (.replied reply) => some reply.content
  | .ok (.responded response) => some response.content
  | _ => none

/-- What the page of the answer shows under a name. -/
def shown? (result : StepResult) (name : String) : Option Json.Value :=
  match result.content? with
  | some (.page page) => page.data.lookup name
  | _ => none

/-- The answer is a reply, to a request whose method says whether a body is wanted. -/
structure Tells (result : StepResult) (reply : Reply) (method : String) : Prop where
  status : result.status? = some reply.status
  target : result.target? = reply.location
  content : method ≠ "HEAD" → result.content? = some reply.content

/-- The answer neither reports success nor leads elsewhere. -/
structure Refuses (result : StepResult) : Prop where
  status : ∀ code ∈ result.status?, 400 ≤ code
  target : result.target? = none

section Responses

variable {result : StepResult}

theorem Tells.of_replied {reply : Reply} {method : String} {shown : Reply}
    (answer : result.answer = .ok (.replied shown))
    (same : shown = if method = "HEAD" then withoutBody reply else reply) :
    result.Tells reply method := by
  have kept : (withoutBody reply).status = reply.status ∧
      (withoutBody reply).location = reply.location := by
    unfold withoutBody
    split <;> exact ⟨rfl, rfl⟩
  by_cases head : method = "HEAD"
  · rw [if_pos head] at same
    subst same
    constructor
    · simp [status?, answer, kept.1]
    · simp [target?, answer, kept.2]
    · exact fun notHead => absurd head notHead
  · rw [if_neg head] at same
    subst same
    constructor
    · simp [status?, answer]
    · simp [target?, answer]
    · simp [content?, answer]

/-- On the wire the target is a header of its own. -/
theorem lookup_location (reply : Reply) :
    (Front.Response.ofReply reply).headers.lookup "location" = reply.location := by
  cases target : reply.location with
  | none =>
      by_cases bare : reply.allowed = [] <;>
        simp [Front.Response.ofReply, target, bare, Front.frameless, Front.protection,
          List.lookup_cons]
  | some path => simp [Front.Response.ofReply, target]

theorem Tells.of_responded {reply : Reply} (method : String)
    (answer : result.answer = .ok (.responded (.ofReply reply))) : result.Tells reply method where
  status := by simp [status?, answer, Front.Response.ofReply]
  target := by simp [target?, answer, lookup_location]
  content _ := by simp [content?, answer, Front.Response.ofReply]

theorem Refuses.of_error {fault : Fault} (answer : result.answer = .error fault) :
    result.Refuses where
  status := by simp [status?, answer]
  target := by simp [target?, answer]

theorem Refuses.of_responded {response : Front.Response}
    (answer : result.answer = .ok (.responded response)) (status : 400 ≤ response.status)
    (stays : response.headers.lookup "location" = none) : result.Refuses where
  status := by simpa [status?, answer] using status
  target := by simpa [target?, answer] using stays

end Responses

end StepResult

namespace Step

variable {step : Step} {r arrived : Request} {w : World} {reply : Reply}

/-- The reply to the request of a step, if it arrives and is served without a fault. -/
def reply? (step : Step) (w : World) : Option Reply :=
  (step.delivered? (nextSecond w)).bind fun arrived =>
    ((serve arrived).run (nextSecond w)).1.toOption

/-- The reply of a step is what serving the delivered request ends with. -/
theorem reply?_eq_some_iff (delivers : step.delivered? (nextSecond w) = some arrived) :
    step.reply? w = some reply ↔ ((serve arrived).run (nextSecond w)).1 = .ok reply := by
  rw [reply?, delivers, Option.bind_some]
  cases ((serve arrived).run (nextSecond w)).1 <;> simp [Except.toOption]

theorem reply?_of_serves (sends : step.sent? = some r)
    (arrives : (step.delivered? (nextSecond w)).isSome = true)
    (serves : ∀ body, ((serve { r with body }).run (nextSecond w)).1 = .ok reply) :
    step.reply? w = some reply := by
  obtain ⟨arrived, delivers⟩ := Option.isSome_iff_exists.mp arrives
  obtain ⟨body, rfl⟩ := delivered?_eq_some delivers sends
  exact (reply?_eq_some_iff delivers).mpr (serves body)

theorem answer_arrive (a : Front.Arrival) (w : World) :
    ((Step.arrive a).take w).1.answer = ((Front.answer a).run (nextSecond w)).1.map .responded := by
  simp only [take, act, Front.answerLent, Action.run_bind, Action.run_get]
  rcases (Front.answer a).run (nextSecond w) with ⟨fault | response, reached⟩ <;> rfl

/-- What arrives is answered by serving it, and a fault by the response to faults. -/
theorem answer_served {a : Front.Arrival} {arrived : Request}
    (delivers : (Step.arrive a).delivered? (nextSecond w) = some arrived) :
    ((Step.arrive a).take w).1.answer =
      match ((serve arrived).run (nextSecond w)).1 with
      | .ok reply => .ok (.responded (.ofReply reply))
      | .error _ => .ok (.responded Front.broken) := by
  obtain ⟨known, genuine, rfl⟩ := delivered?_arrive_iff.mp delivers
  rw [answer_arrive, Front.answer, if_neg (by simp [known]), if_neg (by simp [genuine]),
    Action.run_bind, Action.run_attempt]
  rcases (serve a.request).run (nextSecond w) with ⟨fault | reply, reached⟩ <;> rfl

/-- A reply that is given is what the step answers. -/
theorem tells_of_reply? (sends : step.sent? = some r) (replies : step.reply? w = some reply) :
    (step.take w).1.Tells reply r.method := by
  obtain ⟨arrived, delivers, -⟩ := Option.bind_eq_some_iff.mp replies
  have ends := (reply?_eq_some_iff delivers).mp replies
  obtain ⟨body, rfl⟩ := delivered?_eq_some delivers sends
  cases step with
  | request sent =>
      cases sends
      have answer := answer_of_delivered delivers
      rw [serveBrowser, Action.run_bind] at answer
      rcases ran : (serve { r with body }).run (nextSecond w) with ⟨outcome, reached⟩
      rw [ran] at ends answer
      subst ends
      exact .of_replied answer rfl
  | arrive a =>
      have answer := answer_served delivers
      rw [ends] at answer
      exact .of_responded r.method answer
  | _ => cases sends

/-- Without a reply the step reports no success and leads nowhere. -/
theorem refuses_of_reply? (sends : step.sent? = some r) (nothing : step.reply? w = none) :
    (step.take w).1.Refuses := by
  have unserved := Option.bind_eq_none_iff.mp nothing
  cases step with
  | request sent =>
      cases sends
      rcases lost_or_delivered r with ⟨fault, lost⟩ | ⟨body, delivers⟩
      · apply StepResult.Refuses.of_error
        rw [answer_request, (lost _).2]
        rfl
      · have answer := answer_of_delivered (delivers (nextSecond w))
        have faulty := unserved _ (delivers (nextSecond w))
        rw [serveBrowser, Action.run_bind] at answer
        rcases ran : (serve { r with body }).run (nextSecond w) with ⟨fault | reply, reached⟩
        · rw [ran] at answer
          exact .of_error answer
        · rw [ran] at faulty
          cases faulty
  | arrive a =>
      cases delivers : (Step.arrive a).delivered? (nextSecond w) with
      | some arrived =>
          have answer := answer_served delivers
          have faulty := unserved _ delivers
          rcases ran : ((serve arrived).run (nextSecond w)).1 with fault | reply
          · rw [ran] at answer
            exact .of_responded answer (by decide) rfl
          · rw [ran] at faulty
            cases faulty
      | none =>
          have answer := answer_arrive a w
          simp only [delivered?] at delivers
          split at delivers
          · rename_i unknown
            rw [Front.answer, if_pos unknown] at answer
            exact .of_responded answer (by decide) rfl
          · split at delivers
            · rename_i known suspect
              rw [Front.answer, if_neg known, if_pos suspect] at answer
              exact .of_responded answer (by simp [Front.forged, Front.Response.ofReply]) rfl
            · cases delivers
  | _ => cases sends

/-- A status of success is that of a reply. -/
theorem status?_eq_some_iff {code : Nat} (sends : step.sent? = some r) (success : code < 400) :
    (step.take w).1.status? = some code ↔ ∃ reply, step.reply? w = some reply ∧ reply.status = code := by
  cases replies : step.reply? w with
  | some reply => simp [(tells_of_reply? sends replies).status]
  | none =>
      have refused := (refuses_of_reply? sends replies).status code
      constructor
      · intro reported
        have := refused reported
        omega
      · rintro ⟨reply, absent, -⟩
        cases absent

/-- The visitor is sent where a reply leads. -/
theorem target?_eq_some_iff {path : String} (sends : step.sent? = some r) :
    (step.take w).1.target? = some path ↔
      ∃ reply, step.reply? w = some reply ∧ reply.location = some path := by
  cases replies : step.reply? w with
  | some reply => simp [(tells_of_reply? sends replies).target]
  | none => simp [(refuses_of_reply? sends replies).target]

end Step

end GridCommons
