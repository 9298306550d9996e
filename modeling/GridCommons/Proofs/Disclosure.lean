import GridCommons.Proofs.Authority
import GridCommons.Proofs.CardPage

/-!
Contract: what visitors learn of blocked content.

Owns: that two sites which differ in blocked content only give a visitor who is not of the
staff the same answer exactly if their answers tell the same.
-/

namespace GridCommons.Web

open Site Account Database

variable {r : Request} {d d' : Database} {w w' : World}

/-! ## Answers -/

/-- What a visitor who reads is answered, when an operation ends. -/
def answerTo : Except Fault Reply → Except Fault Reply
  | .ok reply => .ok reply
  | .error (.noMatch _) | .error (.noPage _) => .ok (.ofPage Page.notFound)
  | .error .forbidden => .ok .forbidden
  | .error fault => .error fault

/-- A browser that reads is told what the operation at the address ends with. -/
theorem outcome_serveBrowser {address : Address} (reads : r.method = "GET")
    (there : addressOf r.path = some address) (w : World) :
    ((serveBrowser r).run w).1 = answerTo ((serveAddress r address).run w).1 := by
  have browses : ((serveBrowser r).run w).1 = ((serve r).run w).1 := by
    rw [serveBrowser, Action.run_bind]
    rcases (serve r).run w with ⟨fault | reply, reached⟩
    · rfl
    · simp [reads]
  have missing : ∀ w, (showNotFound r).run w = (.ok (.ofPage Page.notFound), w) := by
    intro w
    rw [showNotFound, reads]
    rfl
  rw [browses, serve, there]
  dsimp only
  rw [settled, Action.run_bind, Action.run_attempt]
  rcases (serveAddress r address).run w with ⟨fault | reply, reached⟩
  · cases fault with
    | noMatch | noPage => exact congrArg Prod.fst (missing reached)
    | _ => rfl
  · rfl

/-- Answers are the same exactly if a fact holds, or a fault of the database leaves none. -/
theorem answerTo_eq_iff {fact : Prop} {outcome outcome' : Except Fault Reply}
    (agree : Action.SameOutcome (fun reply reply' => reply' = reply ↔ fact) outcome outcome') :
    answerTo outcome' = answerTo outcome ↔ ((∃ reply, answerTo outcome = .ok reply) → fact) := by
  cases agree with
  | @value reply reply' same =>
      constructor
      · intro equal _
        exact same.mp (Except.ok.inj equal)
      · intro holds
        rw [same.mpr (holds ⟨reply, rfl⟩)]
  | @fault cause database =>
      have unanswered : answerTo (.error cause) = .error cause := by
        cases cause with
        | violation | patternTooLong | readOnly | offline => rfl
        | _ => cases database
      rw [unanswered]
      exact iff_of_true rfl fun ⟨_, answered⟩ => nomatch answered

/-- The address answers with cards, or with what belongs to them. -/
def Address.showsCards : Address → Bool
  | .index | .card _ | .search | .cardState _ => true
  | _ => false

/-- At the addresses that show cards, answers are the same exactly if they tell the same. -/
theorem answers_eq_iff {address : Address} (same : SameButBlocked d d')
    (start : PlainSites r d d' w w') (reads : r.method = "GET") (shows : address.showsCards = true) :
    answerTo ((serveAddress r address).run w').1 = answerTo ((serveAddress r address).run w).1 ↔
      ((∃ reply, answerTo ((serveAddress r address).run w).1 = .ok reply) →
        SameTold r d d' address) := by
  cases address with
  | index =>
      have chosen : serveAddress r .index = showIndex r := by
        rw [serveAddress, reads]
        rfl
      rw [chosen]
      exact answerTo_eq_iff (showIndex_agrees same w w' start).1
  | search => exact answerTo_eq_iff (searchCards_agrees same w w' start.1).1
  | cardState id => exact answerTo_eq_iff (cardState_agrees same w w' start.1).1
  | card id =>
      have chosen : serveAddress r (.card id) = showCard r id := by
        rw [serveAddress, reads]
        rfl
      rw [chosen]
      cases page : hasPage d id with
      | true => exact answerTo_eq_iff (showCard_agrees same page w w' start.1).1
      | false =>
          have page' : hasPage d' id = false := (hasPage_eq same).trans page
          rw [run_showCard_of_hidden same start.1 page]
          refine iff_of_true rfl fun _ number => ?_
          simp [told, page, page']
  | _ => cases shows

theorem map_replied_eq_iff {outcome outcome' : Except Fault Reply} :
    outcome'.map Answer.replied = outcome.map Answer.replied ↔ outcome' = outcome := by
  cases outcome <;> cases outcome' <;> simp [Except.map]

theorem exists_answer_iff {outcome : Except Fault Reply} :
    (∃ answer, outcome.map Answer.replied = .ok answer) ↔ ∃ reply, outcome = .ok reply := by
  cases outcome <;> simp [Except.map]

end GridCommons.Web

namespace GridCommons

open Site Account Web Database

section Answers

variable {r : Request} {address : Address} {w w' : World}

/-- A request that arrives is answered alike by two sites exactly if, where there is an
answer, it tells the same. -/
theorem answers_of_delivered_eq_iff {body : Body}
    (delivers : ∀ w, (Step.request r).delivered? w = some { r with body })
    (unprivileged : (Step.request r).Unprivileged r w) (reads : r.method = "GET")
    (there : addressOf r.path = some address) (shows : address.showsCards = true)
    (differ : Action.DifferBy SameButBlocked w w') :
    ((Step.request r).take w').1.answer = ((Step.request r).take w).1.answer ↔
      ((∃ answer, ((Step.request r).take w).1.answer = .ok answer) →
        SameTold r w.database w'.database address) := by
  have sites : Sites w.database w'.database (Step.nextSecond w) (Step.nextSecond w') := by
    refine ⟨⟨w.database.cells, rfl, ?_⟩, ?_⟩
    · rw [← differ.database.cells]
      rfl
    · rw [differ.rest]
      rfl
  have start : PlainSites { r with body } w.database w'.database (Step.nextSecond w)
      (Step.nextSecond w') :=
    ⟨sites, fun user served => unprivileged.isStaff_eq_false served⟩
  have served := outcome_serveBrowser (r := { r with body }) reads there
  rw [Step.answer_of_delivered (delivers _), Step.answer_of_delivered (delivers _), map_replied_eq_iff,
    exists_answer_iff, served, served]
  exact answers_eq_iff differ.database start reads shows

/-- Two sites that differ in blocked content only give a visitor who is not of the staff the
same answer exactly if, where there is an answer, it tells the same of every blocked card and
comment.  The list of cards and the page of a blocked card tell nothing. -/
theorem answers_agree_iff_told_alike (unprivileged : (Step.request r).Unprivileged r w)
    (reads : r.method = "GET") (there : addressOf r.path = some address)
    (shows : address.showsCards = true) (differ : Action.DifferBy SameButBlocked w w') :
    ((Step.request r).take w').1.answer = ((Step.request r).take w).1.answer ↔
      ((∃ answer, ((Step.request r).take w).1.answer = .ok answer) →
        ∀ number, told r w'.database address number = told r w.database address number) := by
  rcases Step.lost_or_delivered r with ⟨fault, lost⟩ | ⟨body, delivers⟩
  · rw [Step.answer_request, Step.answer_request, (lost _).2, (lost _).2]
    exact iff_of_true rfl fun ⟨_, answered⟩ => nomatch answered
  · exact answers_of_delivered_eq_iff delivers unprivileged reads there shows differ

end Answers

/-! ## A stranger reads -/

/-- A site with a blocked card and an open one, on which a comment is blocked. -/
def moderatedSite (title : String) (cols : Int) (text : String) : World :=
  { now := ⟨0⟩
    database :=
      { users := Table.put {} { id := 1, username := "ann", dateJoined := ⟨0⟩, password := .plain "" }
        cards := Table.put
          (Table.put {}
            { id := 1, userId := 1, title, description := "", createdAt := ⟨0⟩, updatedAt := ⟨0⟩,
              isBlocked := true, cols })
          { id := 2, userId := 1, title := "", description := "", createdAt := ⟨0⟩, updatedAt := ⟨0⟩,
            cols := 0 }
        comments := Table.put {}
          { id := 1, cardId := 2, authorId := 1, text, createdAt := ⟨0⟩, isBlocked := true } } }

/-- A request to read, from a browser without a session. -/
def strangerReads (path query : String) : Request :=
  { path, query, visitor := .browser "stranger" }

theorem moderatedSite_differ (title title' : String) (cols cols' : Int) (text text' : String) :
    Action.DifferBy SameButBlocked (moderatedSite title cols text) (moderatedSite title' cols' text') :=
  ⟨{ cards := rfl, walls := rfl, comments := rfl, rest := rfl }, rfl⟩

theorem strangerReads_unprivileged (path query title : String) (cols : Int) (text : String) :
    (Step.request (strangerReads path query)).Unprivileged (strangerReads path query)
      (moderatedSite title cols text) := by
  have nobody : servedAs (strangerReads path query).visitor
      (Step.nextSecond (moderatedSite title cols text)) = none := rfl
  refine ⟨rfl, rfl, fun user served => ?_⟩
  rw [nobody] at served
  cases served

/-- Neither the list nor the page of the blocked card tells the sites apart. -/
theorem answers_agree_iff_told_alike_stranger :
    ((Step.request (strangerReads "/" "")).take (moderatedSite "other" 20 "kind")).1.answer =
        ((Step.request (strangerReads "/" "")).take (moderatedSite "secret" 10 "rude")).1.answer ∧
      ((Step.request (strangerReads "/cards/1/" "")).take (moderatedSite "other" 20 "kind")).1.answer =
        ((Step.request (strangerReads "/cards/1/" "")).take
          (moderatedSite "secret" 10 "rude")).1.answer := by
  have list : addressOf "/" = some .index := by decide +kernel
  have page : addressOf "/cards/1/" = some (.card 1) := by decide +kernel
  constructor
  · exact (answers_agree_iff_told_alike (strangerReads_unprivileged _ _ _ _ _) rfl list rfl
      (moderatedSite_differ _ _ _ _ _ _)).mpr fun _ _ => rfl
  · exact (answers_agree_iff_told_alike (strangerReads_unprivileged _ _ _ _ _) rfl page rfl
      (moderatedSite_differ _ _ _ _ _ _)).mpr fun _ _ => rfl

/-- The answers at an address tell sites apart that differ in blocked content only. -/
def DisclosesBlocked (address : Address) : Prop :=
  ∃ r w w', (Step.request r).Unprivileged r w ∧ r.method = "GET" ∧ addressOf r.path = some address ∧
    Action.DifferBy SameButBlocked w w' ∧
    ((Step.request r).take w').1.answer ≠ ((Step.request r).take w).1.answer

/-- An address discloses what is blocked if its answers tell of two sites differently. -/
theorem disclosesBlocked_of_told (path query : String) {address : Address}
    (there : addressOf path = some address) (shows : address.showsCards = true)
    (answered : ((Step.request (strangerReads path query)).take
      (moderatedSite "secret" 10 "rude")).1.answer.isOk = true)
    (differs : told (strangerReads path query) (moderatedSite "other" 20 "kind").database address 1 ≠
      told (strangerReads path query) (moderatedSite "secret" 10 "rude").database address 1) :
    DisclosesBlocked address := by
  have unprivileged := strangerReads_unprivileged path query "secret" 10 "rude"
  have differ := moderatedSite_differ "secret" "other" 10 20 "rude" "kind"
  refine ⟨_, _, _, unprivileged, rfl, there, differ, fun same => differs ?_⟩
  have alike := (answers_of_delivered_eq_iff (fun _ => rfl) unprivileged rfl there shows differ).mp same
  refine alike ?_ 1
  generalize ((Step.request (strangerReads path query)).take
    (moderatedSite "secret" 10 "rude")).1.answer = outcome at answered
  cases outcome with
  | ok answer => exact ⟨answer, rfl⟩
  | error fault => cases answered

/-- The search, the state of a grid and the page of an open card disclose blocked content to
a visitor without a session. -/
theorem stranger_reads_blocked_content :
    DisclosesBlocked .search ∧ DisclosesBlocked (.cardState 1) ∧ DisclosesBlocked (.card 2) := by
  have search : addressOf "/api/search/" = some .search := by decide +kernel
  have state : addressOf "/api/field/1/state/" = some (.cardState 1) := by decide +kernel
  have page : addressOf "/cards/2/" = some (.card 2) := by decide +kernel
  refine ⟨disclosesBlocked_of_told _ "q=secret" search rfl ?_ ?_,
    disclosesBlocked_of_told _ "" state rfl ?_ ?_, disclosesBlocked_of_told _ "" page rfl ?_ ?_⟩
  all_goals decide +kernel

end GridCommons
