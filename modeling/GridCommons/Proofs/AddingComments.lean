import GridCommons.Proofs.Faults
import GridCommons.Proofs.Nesting
import GridCommons.Proofs.Stripping
import GridCommons.Proofs.Submitting
import GridCommons.Proofs.Walls

/-!
Contract: requests to add a comment, whatever their bodies hold.

Owns:
- the text that a body submits, and what is left of it without the blanks around it, by
  characters and by code points;
- the comments that may be stored, and the texts that are empty or too long;
- that a request to add a comment is always answered, and that it stores the comment it reports
  or leaves every table alone.

Does not own: which characters are blanks.
-/

namespace GridCommons.Web

open Site Account

variable {room : Nat} {body : Bytes} {text : Json.Text} {d : Database} {comment : Comment} {card : Card}
  {user : User} {id : Nat} {r : Request} {w : World}

/-! ## Submitted texts -/

def isBlankPoint (n : Nat) : Bool :=
  !Json.isSurrogate n && Text.isBlank (Char.ofNat n)

theorem isBlankPoint_toNat (c : Char) : isBlankPoint c.toNat = Text.isBlank c := by
  have whole : Json.isSurrogate c.toNat = false := by
    have valid : c.toNat.isValidChar := c.valid
    simp only [Nat.isValidChar] at valid
    simp only [Json.isSurrogate, Bool.and_eq_false_iff, decide_eq_false_iff_not]
    omega
  rw [isBlankPoint, whole, Char.ofNat_toNat]
  rfl

/-- A text without the blanks around it. -/
def trimmed : Json.Text → Json.Text
  | .whole s => .whole (Text.trim s)
  | .broken points => .broken (trimPoints points)

/-- Trimming takes the blanks off both ends, and nothing else. -/
theorem points_trimmed (t : Json.Text) :
    (trimmed t).points = Text.stripped isBlankPoint t.points := by
  cases t with
  | whole s =>
      simp only [trimmed, Json.Text.points, Text.toList_trim]
      exact (Text.stripped_map isBlankPoint_toNat s.toList).symm
  | broken points => rfl

/-- The body is an object, and the text in it is `t`; the empty text if it has none. -/
def SubmitsText (room : Nat) (body : Bytes) (t : Json.Text) : Prop :=
  ∃ entries, HoldsObject room body entries ∧ memberOr entries "text" (.text "") = .str t

/-- A text is read from a body exactly if the body submits it, up to the blanks around it. -/
theorem commentText_eq_ok_iff :
    commentText (some room) body = .ok text ↔ ∃ t, SubmitsText room body t ∧ trimmed t = text := by
  unfold commentText SubmitsText memberOr
  simp only [← readDocument_obj_iff]
  rcases readDocument (some room) body with fault | v
  · simp
  cases v with
  | obj entries =>
      simp only [Except.ok.injEq, Json.Value.obj.injEq, ↓existsAndEq, true_and]
      rcases ((Json.Value.obj entries).get? "text").getD (.text "") with
        _ | _ | _ | _ | (s | points) | _ | _ <;> simp [trimmed]
  | _ => simp

/-- The text of a body is empty without the blanks around it, or too long. -/
def UnfitText (room : Nat) (body : Bytes) : Prop :=
  ∃ t inner, SubmitsText room body t ∧ Text.Strips isBlankPoint t.points inner ∧
    (inner = [] ∨ commentLimit < inner.length)

/-- A text is unfit exactly if it is empty or too long once the blanks are gone. -/
theorem unfitText_iff :
    UnfitText room body ↔ ∃ text, commentText (some room) body = .ok text ∧
      (text.points = [] ∨ commentLimit < text.points.length) := by
  simp only [UnfitText, commentText_eq_ok_iff, Text.strips_iff]
  constructor
  · rintro ⟨t, inner, submits, rfl, unfit⟩
    rw [← points_trimmed] at unfit
    exact ⟨_, ⟨t, submits, rfl⟩, unfit⟩
  · rintro ⟨text, ⟨t, submits, rfl⟩, unfit⟩
    rw [points_trimmed] at unfit
    exact ⟨t, _, submits, rfl, unfit⟩

theorem fit_iff {s : String} :
    ¬((Json.Text.whole s).points = [] ∨ commentLimit < (Json.Text.whole s).points.length) ↔
      1 ≤ s.length ∧ s.length ≤ commentLimit := by
  have size : (Json.Text.whole s).points.length = s.length := by
    rw [Json.Text.points, List.length_map, String.length_toList]
  rw [not_or, ← List.length_eq_zero_iff, size]
  omega

/-! ## Adding a comment -/

def newComment (user : User) (id : Nat) (text : String) (now : Instant) (number : Nat) : Comment :=
  { id := number, cardId := id, authorId := user.id, text, createdAt := now }

def commentReport (user : User) (comment : Comment) : Json.Value :=
  .object [("success", .bool true), ("comment_id", .nat comment.id),
    ("author", .text user.username), ("text", .text comment.text),
    ("created_at", .text (comment.createdAt.date.toText ++ " " ++ comment.createdAt.hourMinute))]

/-- What is done about a text that is read. -/
def commentOn (user : User) (id : Nat) (text : Json.Text) : Action Reply :=
  if text.points.isEmpty then return .ofError 400 "Comment text cannot be empty"
  else if text.points.length > commentLimit then
    return .ofError 400 "Comment is too long (max 1000 chars)"
  else do
    let card ← Action.load Database.cards (.noMatch .card) id
    match text with
    | .broken _ => Action.fail .wrongType
    | .whole s =>
      let now ← Action.now
      let number ← Action.insert .comment fun number =>
        .comment (newComment user card.id s now number)
      return .ofJson (commentReport user (newComment user card.id s now number))

def commentFault (_ : Fault) : Reply :=
  .ofError 500 "Internal server error"

theorem addComment_eq (r : Request) (user : User) (id : Nat) :
    addComment r user id =
      recovering
        (do
          let platform ← Action.platform
          let text ← Action.ofExcept (commentText (some platform.nesting) r.bytes)
          commentOn user id text)
        commentFault :=
  rfl

/-- A comment that a user may make on a card by a body. -/
structure Postable (user : User) (id room : Nat) (body : Bytes) (d : Database) (now : Instant)
    (comment : Comment) : Prop where
  submitted : ∃ s, SubmitsText room body (.whole s) ∧
    Text.Strips Text.isBlank s.toList comment.text.toList
  length : 1 ≤ comment.text.length ∧ comment.text.length ≤ commentLimit
  onCard : ∃ card, d.cards.find? id = some card
  made : comment = newComment user id comment.text now d.comments.next
  small : inRange id = true ∧ inRange d.comments.next = true

/-- The text is neither empty nor too long, the card is there, and the database takes the
comment. -/
structure Sayable (s : String) (id : Nat) (w : World) : Prop where
  writes : w.mode = .ok
  length : 1 ≤ s.length ∧ s.length ≤ commentLimit
  onCard : ∃ card, w.database.cards.find? id = some card
  small : inRange id = true ∧ inRange w.database.comments.next = true

/-- A comment can be posted exactly if its text can be read, and can be said on the card. -/
theorem postable_iff :
    w.mode = .ok ∧ Postable user id room body w.database w.now comment ↔
      ∃ s, commentText (some room) body = .ok (.whole s) ∧ Sayable s id w ∧
        comment = newComment user id s w.now w.database.comments.next := by
  simp only [commentText_eq_ok_iff]
  constructor
  · rintro ⟨writes, ⟨s, submits, strips⟩, length, onCard, made, small⟩
    refine ⟨comment.text, ⟨.whole s, submits, ?_⟩, ⟨writes, length, onCard, small⟩, made⟩
    rw [Text.strips_iff, ← Text.toList_trim, String.toList_inj] at strips
    rw [trimmed, strips]
  · rintro ⟨text, ⟨t, submits, trims⟩, ⟨writes, length, onCard, small⟩, rfl⟩
    cases t with
    | broken points => cases trims
    | whole s =>
        cases trims
        refine ⟨writes, ⟨s, submits, ?_⟩, length, onCard, rfl, small⟩
        rw [Text.strips_iff, ← Text.toList_trim]
        rfl

/-- Nothing but the lack of a number is in the way of a new comment. -/
theorem violation?_newComment {s : String} {now : Instant}
    (known : w.database.users.find? user.id = some user)
    (found : w.database.cards.find? id = some card) :
    w.database.violation? (.comment (newComment user id s now w.database.comments.next)) = none ↔
      inRange w.database.comments.next = true := by
  have onCard : w.database.has ⟨.card, id⟩ = true := Database.Slot.card.has_of_find? found
  have byUser : w.database.has ⟨.user, user.id⟩ = true := Database.Slot.user.has_of_find? known
  refine Database.violation?_new (Database.has_next w.database .comment) rfl rfl ?_
  simp [Database.linksHold, Row.links, Row.members, newComment, onCard, byUser]

/-- What can be said is stored, and reported. -/
theorem run_commentOn {s : String} (known : w.database.users.find? user.id = some user)
    (sayable : Sayable s id w) :
    (commentOn user id (.whole s)).run w =
      (.ok (.ofJson (commentReport user (newComment user id s w.now w.database.comments.next))),
        { w with database :=
            w.database.put (.comment (newComment user id s w.now w.database.comments.next)) }) := by
  obtain ⟨writes, length, ⟨card, found⟩, small, room⟩ := sayable
  have same : card.id = id := (Table.find?_eq_some_iff.mp found).2
  have loaded : (Action.load Database.cards (.noMatch .card) id).run w = (.ok card, w) :=
    Action.run_load (by simp [writes]) small found
  have inserted := Action.run_insert .comment
    (fun number => .comment (newComment user id s w.now number)) writes
    ((violation?_newComment known found).mpr room)
  obtain ⟨filled, short⟩ := not_or.mp (fit_iff.mpr length)
  rw [commentOn, if_neg (by simpa using filled), if_neg short]
  simp only [Action.run_bind, loaded, Action.run_now, same, inserted, Action.run_pure]
  rfl

theorem commentOn_refuses (user : User) (id : Nat) (w : World)
    (unfit : text.points = [] ∨ commentLimit < text.points.length) :
    ∃ message, (commentOn user id text).run w = (.ok (.ofError 400 message), w) := by
  by_cases empty : text.points = []
  · exact ⟨_, by rw [commentOn, if_pos (by simpa using empty), Action.run_pure]⟩
  · have long : commentLimit < text.points.length := unfit.resolve_left empty
    exact ⟨_, by rw [commentOn, if_neg (by simpa using empty), if_pos long, Action.run_pure]⟩

/-- A text that is neither empty nor too long, but not stored, ends in a fault. -/
theorem commentOn_fails (known : w.database.users.find? user.id = some user)
    (online : w.mode ≠ .offline) (fit : ¬(text.points = [] ∨ commentLimit < text.points.length))
    (refused : ∀ s, text = .whole s → ¬Sayable s id w) :
    ∃ fault, (commentOn user id text).run w = (.error fault, w) := by
  obtain ⟨filled, short⟩ := not_or.mp fit
  rw [commentOn, if_neg (by simpa using filled), if_neg short, Action.run_bind, Action.load,
    Action.run_bind, Action.run_lookup online]
  by_cases small : inRange id = true
  · rw [if_pos small]
    rcases found : w.database.cards.find? id with _ | card
    · exact ⟨_, rfl⟩
    cases text with
    | broken points => exact ⟨_, rfl⟩
    | whole s =>
        have same : card.id = id := (Table.find?_eq_some_iff.mp found).2
        have full : ¬(w.mode = .ok ∧ w.database.violation?
            (.comment (newComment user id s w.now w.database.comments.next)) = none) := by
          rintro ⟨writes, allowed⟩
          exact refused s rfl ⟨writes, fit_iff.mp fit, ⟨card, found⟩, small,
            (violation?_newComment known found).mp allowed⟩
        obtain ⟨fault, fails⟩ := Action.run_insert_refused .comment
          (fun number => .comment (newComment user id s w.now number)) full
        refine ⟨fault, ?_⟩
        simp only [Action.require, Action.run_pure, Action.run_bind, Action.run_now, same, fails]
  · rw [if_neg small]
    exact ⟨_, rfl⟩

/-- A comment that may be made is stored and reported.  Otherwise the reply tells whether its text
was empty or too long. -/
theorem addComment_addsOne (id : Nat) (known : w.database.users.find? user.id = some user)
    (online : w.mode ≠ .offline) :
    AddsOne .comment (commentReport user)
      (fun comment => w.mode = .ok ∧
        Postable user id w.platform.nesting r.bytes w.database w.now comment)
      (UnfitText w.platform.nesting r.bytes) 400 500 (addComment r user id) w := by
  unfold AddsOne
  simp only [postable_iff, unfitText_iff]
  rw [addComment_eq, run_recovering, Action.run_bind, Action.run_platform]
  dsimp only
  rw [Action.run_bind]
  rcases read : commentText (some w.platform.nesting) r.bytes with fault | text
  · exact .inr ⟨500, _, by simp, .inr ⟨rfl, by simp⟩, rfl⟩
  simp only [Action.ofExcept, Action.run_pure]
  by_cases unfit : text.points = [] ∨ commentLimit < text.points.length
  · obtain ⟨message, refuses⟩ := commentOn_refuses user id w unfit
    refine .inr ⟨400, message, ?_, .inl ⟨rfl, text, rfl, unfit⟩, by rw [refuses]⟩
    rintro comment ⟨s, whole, sayable, -⟩
    cases whole
    exact fit_iff.mpr sayable.length unfit
  by_cases sayable : ∃ s, text = .whole s ∧ Sayable s id w
  · obtain ⟨s, rfl, sayable⟩ := sayable
    refine .inl ⟨by simpa using unfit, newComment user id s w.now w.database.comments.next,
      by simp [sayable], ?_⟩
    rw [run_commentOn known sayable]
  · have refused : ∀ s, text = .whole s → ¬Sayable s id w := fun s whole allowed =>
      sayable ⟨s, whole, allowed⟩
    obtain ⟨fault, fails⟩ := commentOn_fails known online unfit refused
    refine .inr ⟨500, "Internal server error", ?_, .inr ⟨rfl, by simpa using unfit⟩, ?_⟩
    · rintro comment ⟨s, whole, sayable, -⟩
      exact refused s (Except.ok.inj whole) sayable
    · rw [fails]
      rfl

end GridCommons.Web

namespace GridCommons

open Site Web

/-- A request of a signed-in user to comment on a card, whatever its body holds, is answered with
JSON.  The status tells of success exactly if one comment came and nothing else changed; then the
card is there, and the comment is the user's, with the text that the body submits without the blanks
around it, and it is reported with its number and its text.  Every other status leaves the tables
alone, and it is 400 exactly if the body submits a text that is empty or too long without the blanks
around it.  A database that can be written takes every comment that may be made.  A body that is too
long or nests too deep submits nothing. -/
theorem addComment_all_or_nothing {step : Step} {id : Nat} {w : World} {r arrived : Request}
    {user : User} (reaches : step.Reaches (.addComment id) w r arrived user)
    (posted : r.method = "POST") :
    let before := w.database
    let after := (step.take w).2.database
    let now := (Step.nextSecond w).now
    let room := w.platform.nesting
    ∃ status value, (step.take w).1.Brings status value ∧
      (status = 200 ↔ ∃ comment, before.Gains after (.comment comment)) ∧
      (∀ comment, before.Gains after (.comment comment) →
        Postable user id room r.bytes before now comment ∧ value = commentReport user comment) ∧
      (status ≠ 200 → after = before ∧ (status = 400 ∨ status = 500)) ∧
      (status = 400 ↔ UnfitText room r.bytes) ∧
      (w.mode = .ok → ∀ comment, Postable user id room r.bytes before now comment →
        before.Gains after (.comment comment)) := by
  intro before after now room
  have adds := addComment_addsOne (r := arrived) (w := Step.nextSecond w) id reaches.known
    reaches.online
  rw [reaches.bytes] at adds
  have new : ∀ comment, w.mode = .ok ∧ Postable user id room r.bytes before now comment →
      before.find? (Row.comment comment).ref = none := by
    rintro comment ⟨-, postable⟩
    rw [postable.made]
    exact Database.find?_next before .comment
  obtain ⟨status, value, brings, success, gains, reports, refuses, unfit⟩ :=
    reaches.brings_of_addsOne posted rfl adds new (fun _ _ => Row.comment.inj) (by decide)
  refine ⟨status, value, brings, success, ?_, refuses, unfit, ?_⟩
  · intro comment gained
    have may := (gains comment).mp gained
    exact ⟨may.2, reports comment may⟩
  · exact fun writes comment postable => (gains comment).mpr ⟨writes, postable⟩

/-- A user comments on the only card, with blanks around the text. -/
def commentsWithBlanks : Step :=
  .request { method := "POST", path := "/cards/1/add-comment/", visitor := .browser "ann"
             body := .bytes (Text.bytesOf "\x7b\"text\": \" \\u00a0a b\\n\"\x7d") }

/-- The comment is stored without them. -/
theorem addComment_all_or_nothing_blanks :
    wallSite.database.Gains (commentsWithBlanks.take wallSite).2.database
        (.comment { id := 1, cardId := 1, authorId := 1, text := "a b", createdAt := ⟨1⟩ }) ∧
      (commentsWithBlanks.take wallSite).1.status? = some 200 := by
  have reaches : commentsWithBlanks.Reaches (.addComment 1) wallSite _ _
      { id := 1, username := "ann", dateJoined := ⟨0⟩, password := .plain "" } :=
    ⟨⟨rfl, by decide +kernel, rfl⟩, rfl, by decide +kernel⟩
  have answered : (commentsWithBlanks.take wallSite).1.status? = some 200 := by decide +kernel
  have rows : (commentsWithBlanks.take wallSite).2.database.comments.rows =
      [{ id := 1, cardId := 1, authorId := 1, text := "a b", createdAt := ⟨1⟩ }] := by
    decide +kernel
  obtain ⟨status, value, brings, success, -⟩ := addComment_all_or_nothing reaches rfl
  obtain ⟨comment, gains⟩ := success.mp (Option.some.inj (brings.status.symm.trans answered))
  have member : comment ∈ (commentsWithBlanks.take wallSite).2.database.comments.rows := by
    rw [gains.stored]
    exact Table.mem_put.mpr (.inl rfl)
  rw [rows, List.mem_singleton] at member
  rw [member] at gains
  exact ⟨gains, answered⟩

/-- An object with an empty text, beside arrays of which a thousand stand one inside another. -/
def deepBody : Bytes :=
  Text.bytesOf "\x7b\"text\": \"\", \"more\": " ++ List.replicate 1000 91 ++ List.replicate 1000 93 ++ [125]

def commentsTooDeep : Step :=
  .request { method := "POST", path := "/cards/1/add-comment/", visitor := .browser "ann"
             body := .bytes deepBody }

/-- The body is an object whose text is empty, and yet the answer is not the one to an empty text. -/
theorem deep_comment_is_no_empty_comment :
    (∃ v, Json.readBytes none deepBody = .ok v ∧ (v.get? "text").bind Json.Value.asString? = some "") ∧
      (commentsTooDeep.take wallSite).1.status? = some 500 := by
  refine ⟨?_, by decide +kernel⟩
  have text : ((Json.readBytes none deepBody).toOption.bind fun v =>
      (v.get? "text").bind Json.Value.asString?) = some "" := by decide +kernel
  obtain ⟨v, read, empty⟩ := Option.bind_eq_some_iff.mp text
  refine ⟨v, ?_, empty⟩
  revert read
  cases Json.readBytes none deepBody with
  | error => simp [Except.toOption]
  | ok => exact fun read => congrArg Except.ok (Option.some.inj read)

end GridCommons
