import GridCommons.Proofs.Drafts
import GridCommons.Web.Request

/-!
Contract: JSON documents that are read with limits on their size and nesting.

Owns:
- `Value.NestsWithin`: how many containers of a value stand one inside another;
- that a limit never changes what is read: a document is read as without one, and what is
  read nests within the limit, or it is refused;
- the bodies of requests that are read.
-/

namespace GridCommons.Json

open Site (bind_eq_ok)

/-- At most so many containers of the value stand one inside another. -/
inductive Value.NestsWithin : Nat → Value → Prop where
  | null {room : Nat} : NestsWithin room .null
  | bool {room : Nat} (b : Bool) : NestsWithin room (.bool b)
  | int {room : Nat} (n : Int) : NestsWithin room (.int n)
  | double {room : Nat} (d : Double) : NestsWithin room (.double d)
  | str {room : Nat} (t : Text) : NestsWithin room (.str t)
  | arr {room : Nat} {items : List Value} :
      (∀ item ∈ items, NestsWithin room item) → NestsWithin (room + 1) (.arr items)
  | obj {room : Nat} {entries : List (Text × Value)} :
      (∀ entry ∈ entries, NestsWithin room entry.2) → NestsWithin (room + 1) (.obj entries)

theorem Value.mem_putEntry {key : Text} {value : Value} {entries : List (Text × Value)}
    {entry : Text × Value} (member : entry ∈ putEntry key value entries) :
    entry = (key, value) ∨ entry ∈ entries := by
  induction entries with
  | nil => exact .inl (List.mem_singleton.mp member)
  | cons first rest inductionHypothesis =>
      unfold putEntry at member
      split at member
      · exact (List.mem_cons.mp member).imp_right (List.mem_cons_of_mem _)
      · rcases List.mem_cons.mp member with rfl | later
        · exact .inr List.mem_cons_self
        · exact (inductionHypothesis later).imp_right (List.mem_cons_of_mem _)

namespace Reader

theorem numeral_nestsWithin {room : Nat} {s rest : List Nat} {v : Value}
    (read : numeral s = .ok (v, rest)) : v.NestsWithin room := by
  unfold numeral at read
  dsimp only at read
  repeat' split at read
  all_goals first | cases read; exact .int _ | cases read; exact .double _ | cases read

theorem word?_nestsWithin {room : Nat} {s : List Nat} {found : Value × List Nat}
    (read : word? s = some found) : found.1.NestsWithin room := by
  obtain ⟨entry, isWord, rfl⟩ := Option.map_eq_some_iff.mp read
  have listed := List.mem_of_find?_eq_some isWord
  simp only [words, List.map_cons, List.map_nil, List.mem_cons, List.not_mem_nil, or_false] at listed
  rcases listed with rfl | rfl | rfl | rfl | rfl | rfl <;> constructor

/-- A reader with a limit reads what it reads without one, within the limit. -/
def ValueLimited (bound : Nat) : Prop :=
  ∀ {room s v rest}, value bound (some room) s = .ok (v, rest) →
    value bound none s = .ok (v, rest) ∧ v.NestsWithin room

/-- The same for the rest of an object, whose members so far nest within the limit. -/
def MembersLimited (bound : Nat) : Prop :=
  ∀ {room done s v rest}, members bound (some room) done s = .ok (v, rest) →
    (∀ entry ∈ done, entry.2.NestsWithin room) →
    members bound none done s = .ok (v, rest) ∧ v.NestsWithin (room + 1)

/-- The same for the rest of an array. -/
def ElementsLimited (bound : Nat) : Prop :=
  ∀ {room done s v rest}, elements bound (some room) done s = .ok (v, rest) →
    (∀ item ∈ done, item.NestsWithin room) →
    elements bound none done s = .ok (v, rest) ∧ v.NestsWithin (room + 1)

variable {bound : Nat}

/-- If what a value holds is limited, so is the value. -/
theorem valueLimited_succ (members : MembersLimited bound) (elements : ElementsLimited bound) :
    ValueLimited (bound + 1) := by
  intro room s v rest read
  unfold value at read ⊢
  split at read
  · cases read
  · rename_i after
    obtain ⟨⟨t, left⟩, spelled, read⟩ := bind_eq_ok read
    cases read
    rw [spelled]
    exact ⟨rfl, .str t⟩
  · cases room with
    | zero => cases read
    | succ room =>
        dsimp only [inner?] at read ⊢
        split at read
        · cases read
          exact ⟨rfl, .obj nofun⟩
        · exact members read nofun
  · cases room with
    | zero => cases read
    | succ room =>
        dsimp only [inner?] at read ⊢
        split at read
        · cases read
          exact ⟨rfl, .arr nofun⟩
        · exact elements read nofun
  · refine ⟨read, ?_⟩
    split at read
    · cases read
      exact word?_nestsWithin ‹_›
    · exact numeral_nestsWithin read

theorem membersLimited_succ (value : ValueLimited bound) (members : MembersLimited bound) :
    MembersLimited (bound + 1) := by
  intro room done s v rest read within
  unfold Reader.members at read ⊢
  split at read
  · rename_i afterMark
    obtain ⟨⟨key, afterKey⟩, spelled, read⟩ := bind_eq_ok read
    rw [spelled]
    dsimp only [bind, Except.bind] at read ⊢
    split at read
    · obtain ⟨⟨first, afterValue⟩, part, read⟩ := bind_eq_ok read
      obtain ⟨unlimited, firstWithin⟩ := value part
      rw [unlimited]
      have both : ∀ entry ∈ Value.putEntry key first done, entry.2.NestsWithin room := by
        intro entry member
        rcases Value.mem_putEntry member with rfl | earlier
        · exact firstWithin
        · exact within entry earlier
      dsimp only at read ⊢
      split at read
      · cases read
        exact ⟨rfl, .obj both⟩
      · exact members read both
      · cases read
    · cases read
  · cases read

theorem elementsLimited_succ (value : ValueLimited bound) (elements : ElementsLimited bound) :
    ElementsLimited (bound + 1) := by
  intro room done s v rest read within
  unfold Reader.elements at read ⊢
  obtain ⟨⟨first, afterValue⟩, part, read⟩ := bind_eq_ok read
  obtain ⟨unlimited, firstWithin⟩ := value part
  rw [unlimited]
  have both : ∀ item ∈ first :: done, item.NestsWithin room :=
    List.forall_mem_cons.mpr ⟨firstWithin, within⟩
  dsimp only [bind, Except.bind] at read ⊢
  split at read
  · cases read
    exact ⟨rfl, .arr fun item member => both item (List.mem_reverse.mp member)⟩
  · exact elements read both
  · cases read

/-- The three readers call one another with a smaller bound. -/
theorem limited (bound : Nat) :
    ValueLimited bound ∧ MembersLimited bound ∧ ElementsLimited bound := by
  induction bound with
  | zero => exact ⟨nofun, nofun, nofun⟩
  | succ bound inductionHypothesis =>
      obtain ⟨value, members, elements⟩ := inductionHypothesis
      exact ⟨valueLimited_succ members elements, membersLimited_succ value members,
        elementsLimited_succ value elements⟩

end Reader

/-- Where nesting is limited, the reader gives what it gives without a limit, and no deeper value.
-/
theorem read_limited {room : Nat} {document : List Nat} {v : Value}
    (reads : read (some room) document = .ok v) :
    read none document = .ok v ∧ v.NestsWithin room := by
  unfold read at reads ⊢
  obtain ⟨⟨first, rest⟩, part, reads⟩ := bind_eq_ok reads
  obtain ⟨unlimited, within⟩ := (Reader.limited _).1 part
  rw [unlimited]
  refine ⟨reads, ?_⟩
  dsimp only at reads
  split at reads
  · cases reads
    exact within
  · cases reads

/-- What is read of bytes with a limit nests within it, and is what they hold. -/
theorem readBytes_limited {room : Nat} {bytes : Bytes} {v : Value}
    (reads : readBytes (some room) bytes = .ok v) :
    readBytes none bytes = .ok v ∧ v.NestsWithin room := by
  unfold readBytes at reads ⊢
  split at reads
  · cases reads
  · rename_i document _
    rcases part : read (some room) document with failure | first
    · rw [part] at reads
      cases reads
    · obtain ⟨unlimited, within⟩ := read_limited part
      rw [part] at reads
      cases reads
      rw [unlimited]
      exact ⟨rfl, within⟩

end GridCommons.Json

namespace GridCommons.Web

variable {room : Option Nat} {body : Bytes} {v : Json.Value}

/-- A body is read if it is not too long and holds a document that is read. -/
theorem readDocument_eq_ok_iff :
    readDocument room body = .ok v ↔ body.length ≤ 5242880 ∧ Json.readBytes room body = .ok v := by
  have limit : bodyLimit = 5242880 := rfl
  unfold readDocument
  rw [limit]
  by_cases long : body.length > 5242880
  · rw [if_pos long]
    simp [Nat.not_le.mpr long]
  · rw [if_neg long]
    cases Json.readBytes room body with
    | error fault =>
      constructor
      · intro read
        cases read
      · rintro ⟨-, read⟩
        cases read
    | ok found =>
      constructor
      · intro read
        cases read
        exact ⟨Nat.le_of_not_lt long, rfl⟩
      · rintro ⟨-, read⟩
        cases read
        rfl

/-- The body has at most five megabytes, and it holds an object that nests within the
limit. -/
structure HoldsObject (room : Nat) (body : Bytes) (entries : List (Json.Text × Json.Value)) :
    Prop where
  short : body.length ≤ 5242880
  read : Json.readBytes (some room) body = .ok (.obj entries)
  shallow : (Json.Value.obj entries).NestsWithin room

/-- A body is read as an object exactly if it holds one that is not nested too deeply. -/
theorem readDocument_obj_iff {room : Nat} {entries : List (Json.Text × Json.Value)} :
    readDocument (some room) body = .ok (.obj entries) ↔ HoldsObject room body entries := by
  rw [readDocument_eq_ok_iff]
  constructor
  · rintro ⟨short, read⟩
    exact ⟨short, read, (Json.readBytes_limited read).2⟩
  · rintro ⟨short, read, -⟩
    exact ⟨short, read⟩

end GridCommons.Web
