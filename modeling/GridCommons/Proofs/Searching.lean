import GridCommons.Proofs.Disclosure
import GridCommons.Proofs.Patterns
import GridCommons.Proofs.Submitting

/-!
Contract: what the search finds.

Owns:
- the cards that mention a text;
- how a search ends, told from its query and the state;
- that it finds the cards that mention its query, each once and by number, whatever marks of
  patterns stand in the query;
- which two queries find the same in every state: letters of other scripts are not compared in
  lower case.
-/

namespace GridCommons.Site

/-- A text stands in the title or in the description of a card, up to the case of plain letters. -/
def Card.Mentions (card : Card) (text : List Char) : Prop :=
  Text.Holds card.title.toList text ∨ Text.Holds card.description.toList text

instance (card : Card) (text : List Char) : Decidable (card.Mentions text) :=
  inferInstanceAs (Decidable (_ ∨ _))

end GridCommons.Site

namespace GridCommons.Web

open Site Text.Pattern

variable {w : World} {query : String} {card : Card}

/-! ## How a search ends -/

/-- The reply that lists cards. -/
def listing (cards : List Card) : Reply :=
  .ofJson (.object [("results", .arr (cards.map fun card => .object
    [("id", .nat card.id), ("title", .text card.title), ("description", .text card.description),
      ("created_at", .text card.createdAt.date.dotted)]))])

/-- The query makes a pattern that is too long. -/
def TooLong (query : String) : Prop :=
  isTooLong (containing query) = true

instance (query : String) : Decidable (TooLong query) :=
  inferInstanceAs (Decidable (_ = true))

/-- How the cards that hold a text are found, or which fault prevents it. -/
def foundBy (query : String) (w : World) : Except Fault (List Card) :=
  if query = "" then .ok []
  else if w.mode = .offline then .error .offline
  else if w.database.cards.rows ≠ [] ∧ TooLong query then .error .patternTooLong
  else .ok (found query w.database.cards.rows)

theorem run_findCards (asked : query ≠ "") (w : World) :
    (findCards query).run w = (foundBy query w, w) := by
  rw [foundBy, if_neg asked, findCards, Action.run_bind]
  by_cases offline : w.mode = .offline
  · rw [if_pos offline, Action.rows, Action.run_bind, Action.run_query, offline]
  · rw [if_neg offline, Action.run_rows offline]
    dsimp only
    have faulty : (!w.database.cards.rows.isEmpty && isTooLong (containing query)) = true ↔
        w.database.cards.rows ≠ [] ∧ TooLong query := by
      simp [TooLong]
    simp only [faulty]
    split <;> rfl

theorem run_searchCards (r : Request) (w : World) :
    (searchCards r).run w = ((foundBy (searched r) w).map listing, w) := by
  rw [searchCards, ← searched]
  by_cases empty : searched r = ""
  · rw [foundBy, if_pos empty, empty]
    rfl
  · rw [if_neg (by simpa using empty), Action.run_bind, run_findCards empty]
    cases foundBy (searched r) w <;> rfl

theorem foundBy_eq_ok (online : w.mode ≠ .offline) (within : ¬TooLong query) :
    foundBy query w = .ok (if query = "" then [] else found query w.database.cards.rows) := by
  unfold foundBy
  by_cases empty : query = ""
  · rw [if_pos empty, if_pos empty]
  · rw [if_neg empty, if_neg empty, if_neg online, if_neg fun faulty => within faulty.2]

/-! ## What is found -/

/-- Without null characters, the pattern for a text accepts exactly the texts that hold it. -/
theorem holds_iff {text part : String} (plain : ¬HasNull part) (shown : ¬HasNull text) :
    holds text part = true ↔ Text.Holds text.toList part.toList := by
  rw [holds, accepts_containing_iff plain, beforeNull_eq shown]

/-- The search finds exactly the cards that mention its query. -/
theorem mem_found_iff {cards : List Card} (plain : ¬HasNull query)
    (shown : ∀ card ∈ cards, ¬HasNull card.title ∧ ¬HasNull card.description) :
    card ∈ found query cards ↔ card ∈ cards ∧ card.Mentions query.toList := by
  rw [found, List.mem_filter]
  refine and_congr_right fun member => ?_
  rw [Bool.or_eq_true, holds_iff plain (shown card member).1, holds_iff plain (shown card member).2]
  rfl

end GridCommons.Web

namespace GridCommons

open Site Web Text.Pattern

variable {step : Step} {r r' arrived : Request} {w : World} {query query' : String}

/-! ## A site with one card -/

def onlyCard (text : String) : Card :=
  { id := 1, userId := 1, title := text, description := text, createdAt := ⟨0⟩, updatedAt := ⟨0⟩ }

def oneCardSite (text : String) : World :=
  { now := ⟨0⟩
    database :=
      { users := Table.put {} { id := 1, username := "ann", dateJoined := ⟨0⟩, password := .plain "" }
        cards := Table.put {} (onlyCard text) } }

theorem oneCardSite_online (text : String) : (oneCardSite text).mode ≠ .offline := by
  intro offline
  cases offline

def strangerSearches (query : String) : Request :=
  strangerReads "/api/search/" query

theorem strangerSearches_arrives (sent : String) (w : World) :
    (Step.request (strangerSearches sent)).Arrives .search w (strangerSearches sent)
      (strangerSearches sent) := by
  have there : addressOf "/api/search/" = some .search := by decide +kernel
  exact { sent := rfl, there, arrives := rfl }

/-! ## The answer to a search -/

theorem foundBy_nextSecond (query : String) (w : World) :
    foundBy query (Step.nextSecond w) = foundBy query w :=
  rfl

theorem Step.Arrives.searched {address : Address} (arrives : step.Arrives address w r arrived) :
    Web.searched arrived = Web.searched r := by
  obtain ⟨body, rfl⟩ := Step.delivered?_eq_some arrives.arrives arrives.sent
  rfl

/-- A search is answered with the cards whose title or description holds its text in one piece, up
to the case of plain letters, each once and by number.  Marks of patterns in the text stand for
themselves, and a blank text finds nothing. -/
theorem search_finds_mentions (arrives : step.Arrives .search w r arrived)
    (online : w.mode ≠ .offline) (within : ¬TooLong (searched r)) (plain : ¬HasNull (searched r))
    (shown : ∀ card ∈ w.database.cards.rows, ¬HasNull card.title ∧ ¬HasNull card.description) :
    ∃ cards, (step.take w).1.Tells (listing cards) r.method ∧
      cards.Pairwise (fun earlier later => earlier.id < later.id) ∧
      ∀ card, card ∈ cards ↔
        searched r ≠ "" ∧ card ∈ w.database.cards.rows ∧ card.Mentions (searched r).toList := by
  have ends := run_searchCards arrived (Step.nextSecond w)
  rw [arrives.searched, foundBy_nextSecond, foundBy_eq_ok online within] at ends
  refine ⟨_, (arrives.tells ends).1, ?_, fun card => ?_⟩
  · split
    · exact .nil
    · exact w.database.cards.ascending.filter _
  · by_cases empty : searched r = ""
    · simp [empty]
    · rw [if_neg empty, mem_found_iff plain shown, and_iff_right empty]

/-- A percent sign and a low line find the card in which they stand, not one that would fit them
as marks of a pattern. -/
theorem search_finds_mentions_marks :
    (∃ cards, ((Step.request (strangerSearches "q=%25_O")).take (oneCardSite "50%_off")).1.Tells
        (listing cards) "GET" ∧ onlyCard "50%_off" ∈ cards) ∧
      ∃ cards, ((Step.request (strangerSearches "q=%25_O")).take (oneCardSite "50 off")).1.Tells
        (listing cards) "GET" ∧ onlyCard "50 off" ∉ cards := by
  have asks : searched (strangerSearches "q=%25_O") = "%_O" := by decide +kernel
  have within : ¬TooLong (searched (strangerSearches "q=%25_O")) := by
    rw [asks]
    decide +kernel
  have plain : ¬HasNull (searched (strangerSearches "q=%25_O")) := by
    rw [asks]
    decide +kernel
  have answered := fun text shown => search_finds_mentions
    (strangerSearches_arrives "q=%25_O" (oneCardSite text)) (oneCardSite_online text) within plain
    shown
  constructor
  · obtain ⟨cards, tells, -, exactly⟩ := answered "50%_off" (by decide +kernel)
    refine ⟨cards, tells, (exactly _).mpr ?_⟩
    rw [asks]
    decide +kernel
  · obtain ⟨cards, tells, -, exactly⟩ := answered "50 off" (by decide +kernel)
    refine ⟨cards, tells, fun member => ?_⟩
    have mentions := ((exactly _).mp member).2.2
    rw [asks] at mentions
    exact absurd mentions (by decide +kernel)

/-! ## Queries that find the same -/

/-- A request to read what a query finds. -/
structure SearchesFor (r : Request) (query : String) : Prop where
  there : addressOf r.path = some .search
  reads : r.method = "GET"
  bodiless : r.body = .empty
  asks : searched r = query

/-- What a search is answered with, in every state. -/
theorem SearchesFor.answer (searches : SearchesFor r query) (w : World) :
    ((Step.request r).take w).1.answer = ((foundBy query w).map listing).map .replied := by
  have delivers : (Step.request r).delivered? (Step.nextSecond w) = some r := by
    have kept : { r with body := .empty } = r := by rw [← searches.bodiless]
    rw [Step.delivered?, searches.bodiless]
    exact congrArg some kept
  have ends : (serveAddress r .search).run (Step.nextSecond w) =
      ((foundBy query w).map listing, Step.nextSecond w) := by
    rw [← searches.asks]
    exact run_searchCards r (Step.nextSecond w)
  rw [Step.answer_of_delivered delivers, map_replied_eq_iff,
    outcome_serveBrowser searches.reads searches.there, ends]
  unfold foundBy
  split
  · rfl
  · split
    · rfl
    · split <;> rfl

theorem foundBy_oneCardSite (asked : query ≠ "") (text : String) :
    foundBy query (oneCardSite text) =
      if TooLong query then .error .patternTooLong
      else .ok (if accepts (containing query) text then [onlyCard text] else []) := by
  have rows : (oneCardSite text).database.cards.rows = [onlyCard text] := rfl
  have online := oneCardSite_online text
  by_cases long : TooLong query
  · rw [foundBy, if_neg asked, if_neg online, rows, if_pos ⟨List.cons_ne_nil _ _, long⟩, if_pos long]
  · rw [foundBy_eq_ok online long, if_neg asked, if_neg long, rows, found]
    simp [holds, onlyCard, List.filter_cons]

/-- One card tells queries apart, if only one of them finds it or only one of them is too long. -/
theorem oneCardSite_agree_iff (asked : query ≠ "") (asked' : query' ≠ "") (text : String) :
    (foundBy query (oneCardSite text)).map listing = (foundBy query' (oneCardSite text)).map listing ↔
      (TooLong query ↔ TooLong query') ∧
        (TooLong query ∨ accepts (containing query) text = accepts (containing query') text) := by
  rw [foundBy_oneCardSite asked, foundBy_oneCardSite asked']
  by_cases long : TooLong query <;> by_cases long' : TooLong query'
  · simp [long, long', Except.map]
  · simp [long, long', Except.map]
  · simp [long, long', Except.map]
  · cases accepts (containing query) text <;> cases accepts (containing query') text <;>
      simp [long, long', Except.map, listing, results_reply_eq]

/-- Queries that are alike find the same in every state. -/
theorem foundBy_congr (asked : query ≠ "") (asked' : query' ≠ "")
    (long : TooLong query ↔ TooLong query')
    (alike : TooLong query ∨ ∀ text, accepts (containing query) text = accepts (containing query') text)
    (w : World) : foundBy query w = foundBy query' w := by
  rw [foundBy, foundBy, if_neg asked, if_neg asked']
  simp only [long]
  by_cases empty : w.database.cards.rows = []
  · simp [empty, found]
  · rcases alike with tooLong | alike
    · simp [empty, long.mp tooLong]
    · have same : found query = found query' := by
        funext cards
        simp only [found, holds, alike]
      rw [same]

/-- Two queries are answered alike in every state exactly if they are the same up to the case of
plain letters, as far as null characters let them be seen, or both are too long.  Letters of other
scripts have to be the same in case too. -/
theorem searches_agree_iff (first : SearchesFor r query) (second : SearchesFor r' query')
    (asked : query ≠ "") (asked' : query' ≠ "") :
    (∀ w, ((Step.request r).take w).1.answer = ((Step.request r').take w).1.answer) ↔
      (TooLong query ↔ TooLong query') ∧
        (TooLong query ∨ (HasNull query ↔ HasNull query') ∧
          Text.SameLetters (beforeNull query) (beforeNull query')) := by
  simp only [first.answer, second.answer, map_replied_eq_iff, ← accepts_containing_eq_iff asked asked']
  constructor
  · intro alike
    have onSites := fun text => (oneCardSite_agree_iff asked asked' text).mp (alike _)
    refine ⟨(onSites "").1, ?_⟩
    by_cases long : TooLong query
    · exact .inl long
    · exact .inr fun text => (onSites text).2.resolve_left long
  · rintro ⟨long, alike⟩ w
    rw [foundBy_congr asked asked' long alike]

theorem strangerSearches_searchesFor {sent : String}
    (asks : searched (strangerSearches sent) = query) :
    SearchesFor (strangerSearches sent) query where
  there := (strangerSearches_arrives sent (oneCardSite "")).there
  reads := rfl
  bodiless := rfl
  asks := asks

/-- Latin letters are found in either case. -/
theorem searches_agree_iff_latin :
    ((Step.request (strangerSearches "q=Maze")).take (oneCardSite "a maze")).1.answer =
      ((Step.request (strangerSearches "q=mAZE")).take (oneCardSite "a maze")).1.answer := by
  have first : SearchesFor (strangerSearches "q=Maze") "Maze" :=
    strangerSearches_searchesFor (by decide +kernel)
  have second : SearchesFor (strangerSearches "q=mAZE") "mAZE" :=
    strangerSearches_searchesFor (by decide +kernel)
  refine (searches_agree_iff first second (by decide) (by decide)).mpr ⟨?_, .inr ⟨?_, ?_⟩⟩ _
  · decide +kernel
  · decide +kernel
  · exact Text.sameLetters_iff.mpr (by decide +kernel)

/-- A Russian letter is searched for in both cases, which lower case makes the same.  Only one
search finds the card. -/
theorem search_heeds_cyrillic_case :
    Text.lower (searched (strangerSearches "q=%D0%AF")).toList =
        Text.lower (searched (strangerSearches "q=%D1%8F")).toList ∧
      ((Step.request (strangerSearches "q=%D0%AF")).take (oneCardSite "Я")).1.answer ≠
        ((Step.request (strangerSearches "q=%D1%8F")).take (oneCardSite "Я")).1.answer := by
  have upper : searched (strangerSearches "q=%D0%AF") = "Я" := by decide +kernel
  have lower : searched (strangerSearches "q=%D1%8F") = "я" := by decide +kernel
  constructor
  · rw [upper, lower]
    decide +kernel
  · rw [(strangerSearches_searchesFor upper).answer, (strangerSearches_searchesFor lower).answer,
      Ne, map_replied_eq_iff, oneCardSite_agree_iff (by decide) (by decide)]
    decide +kernel

end GridCommons
