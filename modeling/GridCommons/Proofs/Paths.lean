import GridCommons.Proofs.Authority

/-!
Contract: paths of profiles.

Owns:
- which texts are words, as patterns read them from a path;
- that the name in the path to the notes on a profile is a word;
- that every word is the name in the path of a profile.

So whoever puts a note on a profile can be sent to its page.
-/

namespace GridCommons.Web

theorem dropFixed_append (front rest : List Char) :
    Segment.dropFixed front (front ++ rest) = some rest := by
  induction front with
  | nil => rfl
  | cons first others inductionHypothesis => simpa [Segment.dropFixed] using inductionHypothesis

theorem matchSegments_fixed (text : String) (segments : List Segment) (s : List Char) :
    matchSegments (.fixed text :: segments) s =
      (Segment.dropFixed text.toList s).bind (matchSegments segments) := by
  rw [matchSegments, Segment.ways]
  cases Segment.dropFixed text.toList s with
  | none => rfl
  | some rest => cases matched : matchSegments segments rest <;> simp [matched]

theorem matchSegments_word (name : String) (segments : List Segment) (s : List Char) :
    matchSegments (.word name :: segments) s =
      if (s.takeWhile fun c => c ≠ '/').isEmpty then none
      else (matchSegments segments (s.drop (s.takeWhile fun c => c ≠ '/').length)).map
        (.word (String.ofList (s.takeWhile fun c => c ≠ '/')) :: ·) := by
  rw [matchSegments, Segment.ways]
  dsimp only
  split
  · rfl
  · generalize s.takeWhile (fun c => c ≠ '/') = word
    cases matched : matchSegments segments (s.drop word.length) <;> simp [matched]

/-- A word of a path: it is not empty and has no slash. -/
def IsWord (s : String) : Prop :=
  s.toList ≠ [] ∧ '/' ∉ s.toList

/-- The word that a route takes from a path is not empty and has no slash. -/
theorem isWord_of_match {name start stop : String} {s : List Char} {word : String}
    (matched : matchSegments [.fixed start, .word name, .fixed stop] s = some [.word word]) :
    IsWord word := by
  rw [matchSegments_fixed] at matched
  obtain ⟨rest, -, matched⟩ := Option.bind_eq_some_iff.mp matched
  rw [matchSegments_word] at matched
  split at matched
  · cases matched
  · rename_i filled
    obtain ⟨params, -, named⟩ := Option.map_eq_some_iff.mp matched
    obtain ⟨rfl⟩ : String.ofList (rest.takeWhile fun c => c ≠ '/') = word := by simpa using (List.cons.inj named).1
    refine ⟨by simpa using filled, fun slash => ?_⟩
    rw [String.toList_ofList] at slash
    simpa using List.all_eq_true.mp List.all_takeWhile _ slash

/-- Of the routes, only one leads to the notes on a profile. -/
theorem pattern_of_addProfileNote {username : String} {params : List Param} :
    ∀ route ∈ Route.table, route.address params = some (.addProfileNote username) →
      route.pattern = [.fixed "profile/", .word "username", .fixed "/comment/"] ∧
        params = [.word username] := by
  simp only [Route.table, Route.administration, Route.ofSection, Route.accounts, Route.panel,
    Route.plain, Route.numbered, Route.worded, Route.content, Route.admin, Route.object,
    List.cons_append, List.nil_append, List.forall_mem_cons, List.not_mem_nil,
    false_implies, implies_true, and_true]
  and_intros
  all_goals
    intro leads
    split at leads <;> first | cases leads; exact ⟨trivial, rfl⟩ | cases leads

theorem isWord_of_addProfileNote {path username : String}
    (there : addressOf path = some (.addProfileNote username)) : IsWord username := by
  rw [addressOf_eq_findSome?] at there
  obtain ⟨route, member, fits⟩ := List.exists_of_findSome?_eq_some there
  obtain ⟨rest, params, -, matched, leads⟩ := Route.address?_eq_some_iff.mp fits
  obtain ⟨pattern, rfl⟩ := pattern_of_addProfileNote route member leads
  rw [pattern] at matched
  exact isWord_of_match matched

theorem profileRoutes :
    (Route.table.filter fun route => route.inAdmin == false && route.name == some "profile_view") =
      [Route.worded "profile/" "username" "/" "profile_view" .profile] :=
  rfl

/-- A word fits between two pieces, if the second starts with a slash. -/
theorem fill_and_match (start stop name : String) {word : String} (isWord : IsWord word) :
    ∃ path, fillSegments [.fixed start, .word name, .fixed ("/" ++ stop)] [word] = some path ∧
      matchSegments [.fixed start, .word name, .fixed ("/" ++ stop)] path.toList = some [.word word] := by
  have taken : ((word.toList ++ '/' :: stop.toList).takeWhile fun c => c ≠ '/') = word.toList := by
    rw [List.takeWhile_append_of_pos]
    · simp
    · intro c member
      simpa using fun slash : c = '/' => isWord.2 (slash ▸ member)
  have rest : (word ++ ("/" ++ stop ++ "")).toList = word.toList ++ '/' :: stop.toList := by simp
  refine ⟨start ++ (word ++ ("/" ++ stop ++ "")), rfl, ?_⟩
  rw [String.toList_append, matchSegments_fixed, dropFixed_append, Option.bind_some,
    matchSegments_word, rest, taken, if_neg (by simpa using isWord.1), List.drop_left,
    matchSegments_fixed]
  have stops : Segment.dropFixed ("/" ++ stop).toList ('/' :: stop.toList) = some [] := by
    simpa using dropFixed_append ("/" ++ stop).toList []
  rw [stops, String.ofList_toList]
  rfl

/-- Every word is the name in the path of a profile. -/
theorem reverse_profile {username : String} (isWord : IsWord username) :
    ∃ path, reverse "profile_view" [.text username] = .ok path := by
  have spaces : splitSpaces "profile_view" = ([], "profile_view") := by decide +kernel
  have arguments : argumentText (.text username) = username := rfl
  obtain ⟨path, filled, matched⟩ := fill_and_match "profile/" "" "username" isWord
  refine ⟨"/" ++ Text.Percent.encode addressSafe path, ?_⟩
  rw [reverse, spaces]
  simp only [reverse.search, profileRoutes, Route.worded, List.map_cons, List.map_nil, arguments]
  rw [String.append_empty] at filled matched
  simp [filled, matched]

end GridCommons.Web
