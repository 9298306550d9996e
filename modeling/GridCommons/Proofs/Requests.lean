import GridCommons.Proofs.Serving
import GridCommons.Step

/-!
Contract: steps that send a request to the site.

Owns:
- the request that a step sends, and the one that arrives at the site, if any does;
- that such a step ends where serving the request does, but for the sessions that
  browsers hold;
- that it changes the database along deeds of the user that it is served as.

Does not own: what deeds keep.
-/

namespace GridCommons

open Site Account

namespace Step

variable {step : Step} {r arrived : Web.Request} {w : World}

@[simp] theorem mode_nextSecond (w : World) : (nextSecond w).mode = w.mode :=
  rfl

/-- The request that a step sends. -/
def sent? : Step → Option Web.Request
  | .request r => some r
  | .arrive arrival => some arrival.request
  | _ => none

/-- The step sends a request of a client. -/
def FromClient (step : Step) : Prop :=
  ∃ r, step.sent? = some r ∧ r.visitor.isClient = true

/-- The step sends a request to an address outside the administration. -/
def ToSite (step : Step) : Prop :=
  ∃ r, step.sent? = some r ∧ ∀ page, Web.addressOf r.path ≠ some (.admin page)

/-- The request that arrives at the site.  Files without a usable name, unknown hosts and
forged submissions are turned away before. -/
def delivered? : Step → World → Option Web.Request
  | .request r, w =>
    match ((arrivedBody r.body).run w).1 with
    | .ok body => some { r with body }
    | .error _ => none
  | .arrive a, _ =>
    if !Front.Host.isKnown a.request.host then none
    else if a.needsToken && !a.genuine then none
    else some a.request
  | _, _ => none

/-- A request is delivered with its files under the names they are kept by. -/
theorem delivered?_request_iff :
    (Step.request r).delivered? w = some arrived ↔
      ∃ body, ((arrivedBody r.body).run w).1 = .ok body ∧ { r with body } = arrived := by
  rw [delivered?]
  cases ((arrivedBody r.body).run w).1 <;> simp

/-- What arrives is delivered if the host is known and the submission not forged. -/
theorem delivered?_arrive_iff {a : Front.Arrival} :
    (Step.arrive a).delivered? w = some arrived ↔
      Front.Host.isKnown a.request.host = true ∧ (a.needsToken && !a.genuine) = false ∧
        a.request = arrived := by
  rw [delivered?]
  cases Front.Host.isKnown a.request.host <;> cases a.needsToken && !a.genuine <;> simp

/-- A request arrives as it was sent, up to its body. -/
theorem delivered?_eq_some (delivers : step.delivered? w = some arrived)
    (sends : step.sent? = some r) : ∃ body, arrived = { r with body } := by
  cases step with
  | request sent =>
      cases sends
      obtain ⟨body, -, rfl⟩ := delivered?_request_iff.mp delivers
      exact ⟨body, rfl⟩
  | arrive a =>
      cases sends
      obtain ⟨-, -, rfl⟩ := delivered?_arrive_iff.mp delivers
      exact ⟨a.request.body, rfl⟩
  | _ => cases sends

/-! ## Bodies -/

theorem kept_constant (upload : Form.Upload) : upload.kept.Constant := by
  unfold Form.Upload.kept
  dsimp only
  split
  · exact Action.Constant.fail.bind fun _ => .pure
  · exact .pure

theorem arrivedBody_constant (body : Web.Body) : (arrivedBody body).Constant := by
  cases body with
  | form submitted data =>
      refine Action.Constant.bind (.mapM fun file => ?_) fun _ => .pure
      exact (kept_constant file.2).bind fun _ => .pure
  | _ => exact .pure

/-- Of a body only the files may change on the way. -/
theorem same_arrivedBody (r : Web.Request) (body : Web.Body) :
    (arrivedBody body).Reads fun arrived _ =>
      ({ r with body := arrived } : Web.Request).submitted.texts =
          ({ r with body } : Web.Request).submitted.texts ∧
        ({ r with body := arrived } : Web.Request).bytes = ({ r with body } : Web.Request).bytes := by
  cases body with
  | form submitted data =>
      refine Action.Silent.then (.mapM fun file => ?_) fun kept => ?_
      · exact (kept_constant file.2).silent.bind fun _ => .pure
      · apply Action.Obeys.pure
        intro d _
        refine ⟨?_, rfl⟩
        unfold Web.Request.submitted
        by_cases posted : r.method = "POST" <;> simp [posted]
  | bytes data => exact .pure fun _ _ => ⟨rfl, rfl⟩
  | empty => exact .pure fun _ _ => ⟨rfl, rfl⟩

/-- Delivery keeps the submitted texts and the bytes of the body. -/
theorem same_delivered (delivers : step.delivered? w = some arrived) (sends : step.sent? = some r) :
    arrived.submitted.texts = r.submitted.texts ∧ arrived.bytes = r.bytes := by
  cases step with
  | request sent =>
      cases sends
      obtain ⟨body, ends, rfl⟩ := delivered?_request_iff.mp delivers
      exact (same_arrivedBody r r.body w trivial).2 body ends
  | arrive a =>
      cases sends
      obtain ⟨-, -, rfl⟩ := delivered?_arrive_iff.mp delivers
      exact ⟨rfl, rfl⟩
  | _ => cases sends

/-- What is submitted under a name arrives as it was sent. -/
theorem text?_delivered (delivers : step.delivered? w = some arrived) (sends : step.sent? = some r)
    (name : String) : arrived.submitted.text? name = r.submitted.text? name := by
  unfold Form.Submission.text?
  rw [(same_delivered delivers sends).1]

/-! ## Steps -/

/-- A request that arrives is served, and a browser keeps its session if a fault ends it. -/
theorem run_serveRequest (delivers : (Step.request r).delivered? w = some arrived) :
    (serveRequest r).run w =
      match (Web.serveBrowser arrived).run w with
      | (.ok reply, reached) => (.ok reply, reached)
      | (.error fault, reached) => (.error fault, { reached with browsers := w.browsers }) := by
  obtain ⟨fault | body, ends⟩ := arrivedBody_constant r.body
  · rw [delivered?, ends] at delivers
    cases delivers
  · rw [delivered?, ends] at delivers
    cases delivers
    simp only [serveRequest, Action.run_bind, Action.run_get, Action.run_attempt, ends]
    rcases (Web.serveBrowser { r with body }).run w with ⟨fault | reply, served⟩ <;> rfl

/-- A request is lost in every state, or arrives with the same body in every state. -/
theorem lost_or_delivered (r : Web.Request) :
    (∃ fault, ∀ w, (Step.request r).delivered? w = none ∧ (serveRequest r).run w = (.error fault, w)) ∨
      ∃ body, ∀ w, (Step.request r).delivered? w = some { r with body } := by
  obtain ⟨fault | body, ends⟩ := arrivedBody_constant r.body
  · refine .inl ⟨fault, fun w => ⟨?_, ?_⟩⟩
    · rw [delivered?, ends]
    · simp only [serveRequest, Action.run_bind, Action.run_get, Action.run_attempt, ends]
      rfl
  · refine .inr ⟨body, fun w => ?_⟩
    rw [delivered?, ends]

theorem answer_request (r : Web.Request) (w : World) :
    ((Step.request r).take w).1.answer = ((serveRequest r).run (nextSecond w)).1.map .replied := by
  simp only [take, act, Action.run_bind]
  rcases (serveRequest r).run (nextSecond w) with ⟨fault | reply, reached⟩ <;> rfl

/-- A request that arrives is answered as it is served. -/
theorem answer_of_delivered (delivers : (Step.request r).delivered? (nextSecond w) = some arrived) :
    ((Step.request r).take w).1.answer =
      ((Web.serveBrowser arrived).run (nextSecond w)).1.map .replied := by
  rw [answer_request, run_serveRequest delivers]
  rcases (Web.serveBrowser arrived).run (nextSecond w) with ⟨fault | reply, reached⟩ <;> rfl

section Seen

variable {β : Type} {seen : World → β}

/-- What is seen of the state after a request, but for the sessions that browsers hold, is what
serving it shows. -/
theorem seen_serveRequest (blind : ∀ w browsers, seen { w with browsers } = seen w) (r : Web.Request)
    (w : World) :
    seen ((serveRequest r).run w).2 =
      match (Step.request r).delivered? w with
      | some arrived => seen ((Web.serve arrived).run w).2
      | none => seen w := by
  rcases lost_or_delivered r with ⟨fault, lost⟩ | ⟨body, delivers⟩
  · rw [(lost w).1, (lost w).2]
  · have same : ((Web.serveBrowser { r with body }).run w).2 = ((Web.serve { r with body }).run w).2 :=
      Action.run_bind_pure _ _ _
    rw [delivers, run_serveRequest (delivers w)]
    dsimp only
    rw [← same]
    rcases (Web.serveBrowser { r with body }).run w with ⟨fault | reply, reached⟩
    · exact blind reached w.browsers
    · rfl

theorem seen_answerLent (blind : ∀ w browsers, seen { w with browsers } = seen w)
    (a : Front.Arrival) (w : World) :
    seen ((Front.answerLent a).run w).2 =
      match (Step.arrive a).delivered? w with
      | some arrived => seen ((Web.serve arrived).run w).2
      | none => seen w := by
  have answered : seen ((Front.answer a).run w).2 =
      match (Step.arrive a).delivered? w with
      | some arrived => seen ((Web.serve arrived).run w).2
      | none => seen w := by
    simp only [Front.answer, delivered?]
    split
    · rfl
    split
    · rfl
    rw [Action.run_bind, Action.run_attempt]
    dsimp only
    rcases (Web.serve a.request).run w with ⟨fault | reply, reached⟩ <;> rfl
  rw [← answered]
  simp only [Front.answerLent, Action.run_bind, Action.run_get]
  rcases (Front.answer a).run w with ⟨fault | response, reached⟩
  · rfl
  · exact blind reached w.browsers

/-- What is seen of the state after a step is what serving the delivered request leaves of it. -/
theorem seen_take (blind : ∀ w browsers, seen { w with browsers } = seen w)
    (sends : step.sent? = some r) (w : World) :
    seen (step.take w).2 =
      match step.delivered? (nextSecond w) with
      | some arrived => seen ((Web.serve arrived).run (nextSecond w)).2
      | none => seen (nextSecond w) := by
  cases step with
  | request sent =>
      have told : ((Step.request sent).take w).2 = ((serveRequest sent).run (nextSecond w)).2 :=
        Action.run_bind_pure _ _ _
      rw [told]
      exact seen_serveRequest blind sent (nextSecond w)
  | arrive a =>
      have told : ((Step.arrive a).take w).2 = ((Front.answerLent a).run (nextSecond w)).2 :=
        Action.run_bind_pure _ _ _
      rw [told]
      exact seen_answerLent blind a (nextSecond w)
  | _ => cases sends

end Seen

/-- A step that sends a request leaves the database as serving the request that arrives
leaves it. -/
theorem database_take (sends : step.sent? = some r) (w : World) :
    (step.take w).2.database =
      match step.delivered? (nextSecond w) with
      | some arrived => ((Web.serve arrived).run (nextSecond w)).2.database
      | none => w.database :=
  seen_take (fun _ _ => rfl) sends w

theorem notices_take (sends : step.sent? = some r) (w : World) :
    (step.take w).1.notices =
      match step.delivered? (nextSecond w) with
      | some arrived => ((Web.serve arrived).run (nextSecond w)).2.notices
      | none => [] := by
  have told : (step.take w).2.notices = _ := seen_take (fun _ _ => rfl) sends w
  exact told

/-- A step that sends a request changes the database along deeds at the address of the
request, done by the user that it is served as. -/
theorem take_deeds (sends : step.sent? = some r) (w : World) :
    ∃ body, Relation.ReflTransGen
      (fun d d' => ∃ address, Web.addressOf r.path = some address ∧
        Web.Deed { r with body } (servedAs r.visitor (nextSecond w)) address d d')
      w.database (step.take w).2.database := by
  rw [database_take sends]
  cases delivers : step.delivered? (nextSecond w) with
  | none => exact ⟨r.body, .refl⟩
  | some arrived =>
      obtain ⟨body, rfl⟩ := delivered?_eq_some delivers sends
      exact ⟨body, Web.serve_deeds { r with body } (nextSecond w)⟩

/-- What every deed of the request that arrives keeps, the step that sends it keeps. -/
theorem take_keeps_arrived (kept : Database → Database → Prop) (refl : ∀ d, kept d d)
    (trans : ∀ {d d' d''}, kept d d' → kept d' d'' → kept d d'') (sends : step.sent? = some r)
    (deeds : ∀ arrived, step.delivered? (nextSecond w) = some arrived →
      ∀ address, Web.addressOf r.path = some address → ∀ d d',
        Web.Deed arrived (servedAs r.visitor (nextSecond w)) address d d' → kept d d') :
    kept w.database (step.take w).2.database := by
  rw [database_take sends]
  cases delivers : step.delivered? (nextSecond w) with
  | none => exact refl _
  | some arrived =>
      have run := Web.serve_deeds arrived (nextSecond w)
      have each := deeds arrived delivers
      obtain ⟨body, rfl⟩ := delivered?_eq_some delivers sends
      dsimp only
      unfold Web.Follows at run
      generalize ((Web.serve { r with body }).run (nextSecond w)).2.database = reached at run ⊢
      induction run with
      | refl => exact refl _
      | tail _ move inductionHypothesis =>
          obtain ⟨address, named, deed⟩ := move
          exact trans inductionHypothesis (each address named _ _ deed)

/-- What every deed at the address of a request keeps, the step that sends it keeps. -/
theorem take_keeps (kept : Database → Database → Prop) (refl : ∀ d, kept d d)
    (trans : ∀ {d d' d''}, kept d d' → kept d' d'' → kept d d'') (sends : step.sent? = some r)
    (deeds : ∀ body address, Web.addressOf r.path = some address → ∀ d d',
      Web.Deed { r with body } (servedAs r.visitor (nextSecond w)) address d d' → kept d d') :
    kept w.database (step.take w).2.database := by
  apply take_keeps_arrived kept refl trans sends
  intro arrived delivers
  obtain ⟨body, rfl⟩ := delivered?_eq_some delivers sends
  exact deeds body

end Step

end GridCommons
