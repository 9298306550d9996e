import GridCommons.Proofs.Stripping
import GridCommons.Proofs.Submitting
import GridCommons.Proofs.Uploads

/-!
Contract: the texts of notes on profiles.

Owns:
- the form that is declared for notes: no blanks at the ends, not empty, and not too long;
- that no request but one to add a note makes a note or rewrites one;
- the note that a request adds, as a function of the state;
- which runs of requests keep every note in its form.

A request to add a note is not checked for the length of its text.
-/

namespace GridCommons.Site

namespace ProfileNote

/-- The most characters that the text of a note is to have. -/
def limit : Nat := 500

/-- The text of the note has no blanks at its ends, and it is not empty. -/
structure Trimmed (note : ProfileNote) : Prop where
  whole : Text.trim note.text = note.text
  filled : note.text ≠ ""

/-- The text of the note is not too long. -/
def Short (note : ProfileNote) : Prop :=
  note.text.length ≤ limit

instance (note : ProfileNote) : Decidable note.Short :=
  inferInstanceAs (Decidable (_ ≤ _))

end ProfileNote

namespace Database

variable {d d' : Database}

/-- Every note meets a rule. -/
def NotesMeet (rule : ProfileNote → Prop) (d : Database) : Prop :=
  ∀ note ∈ d.profileNotes.rows, rule note

/-- Every note was there before. -/
def NotesKept (d d' : Database) : Prop :=
  d'.profileNotes.rows ⊆ d.profileNotes.rows

theorem NotesKept.of_eq (notes : d'.profileNotes = d.profileNotes) : NotesKept d d' := by
  rw [NotesKept, notes]
  exact List.Subset.refl _

theorem NotesKept.trans {d'' : Database} (first : NotesKept d d') (second : NotesKept d' d'') :
    NotesKept d d'' :=
  List.Subset.trans second first

/-- A rule for notes goes on holding while notes are only kept or removed. -/
theorem NotesMeet.of_kept {rule : ProfileNote → Prop} (meets : d.NotesMeet rule)
    (kept : NotesKept d d') : d'.NotesMeet rule :=
  fun note member => meets note (kept member)

theorem notesMeet_put {rule : ProfileNote → Prop} {note : ProfileNote} (meets : d.NotesMeet rule) :
    (d.put (.profileNote note)).NotesMeet rule ↔ rule note := by
  constructor
  · intro after
    exact after note (Table.mem_put.mpr (.inl rfl))
  · intro new other member
    rcases Table.mem_put.mp member with rfl | ⟨before, -⟩
    · exact new
    · exact meets other before

theorem NotesKept.put_withMembers {relation : Relation} {id : Nat} {row : Row} {members : Members}
    (found : d.find? ⟨relation.kind, id⟩ = some row) :
    NotesKept d (d.put (relation.withMembers members row)) := by
  rcases withMembers_cases members found with ⟨card, _, _, -, stored⟩ | ⟨comment, _, _, -, stored⟩ <;>
    rw [stored] <;> exact .of_eq rfl

theorem NotesKept.delete (d : Database) (roots : List Ref) : NotesKept d (d.delete roots) := by
  intro note member
  obtain ⟨old, foundOld, -, bereft⟩ := Slot.profileNote.mem_delete member
  have same : old = note := Row.profileNote.inj bereft
  subst same
  exact (Table.find?_eq_some_iff.mp foundOld).1

end Database

/-- What follows without a write leaves the database as it is. -/
theorem Action.database_bind_silent {α β : Type} {action : Action α} {next : α → Action β}
    (silent : ∀ a, (next a).Silent) (w : World) :
    ((action >>= next).run w).2.database = (action.run w).2.database := by
  rw [run_bind]
  rcases action.run w with ⟨fault | a, reached⟩
  · rfl
  · exact (silent a).unchanged reached

end GridCommons.Site

namespace GridCommons.Web

open Site Account

variable {r : Request} {w : World}

/-- Only a request to add a note makes one, and no request rewrites any. -/
theorem Deed.notesKept {actor : Option User} {address : Address} {d d' : Database}
    (deed : Deed r actor address d d') (elsewhere : ∀ username, address ≠ .addProfileNote username) :
    d.NotesKept d' := by
  cases deed with
  | registered _ _ _ _ stored | passwordStored _ _ _ stored | profileChanged _ _ stored
  | commented _ _ stored | reported _ _ _ stored | wallAdded _ _ _ _ _ stored | fileStored _ _ stored
  | cardMade _ _ _ stored | cardBlocked _ _ _ _ stored | reportResolved _ _ _ _ _ stored
  | flagStored _ _ _ stored | statusChanged _ _ _ _ _ stored | listEdited _ _ _ _ stored
  | passwordChanged _ _ _ _ _ stored | cardEntered _ _ _ _ _ stored | reportEntered _ _ _ _ _ stored =>
      obtain ⟨-, rfl⟩ := Database.store_eq_ok_iff.mp stored
      exact .of_eq rfl
  | loginNoted | cardUnblocked | commentBlocked | userBanned | cardsOfBanned | commentsOfBanned
  | cardUnblockedByStaff | listSettled => exact .of_eq rfl
  | cellsFilled _ _ _ _ added =>
      rw [Database.eq_of_addAll added]
      exact .of_eq rfl
  | joined _ _ found stored | left _ _ _ found stored =>
      obtain ⟨-, rfl⟩ := Database.store_eq_ok_iff.mp stored
      exact .put_withMembers found
  | wallRemoved | noteRemoved | adminDeleted => exact .delete d _
  | noteAdded => exact absurd rfl (elsewhere _)

/-! ## Adding a note -/

/-- The text of a note that a request submits. -/
def noteText (r : Request) : String :=
  Text.trim ((r.submitted.text? "comment_text").getD "")

/-- The user with a name. -/
def named? (username : String) (d : Database) : Option User :=
  d.users.rows.find? fun user => user.username == username

/-- The note that a user puts on a profile, if the text is not empty and the note can be stored. -/
def noteBy? (author : User) (username text : String) (w : World) : Option ProfileNote := do
  let profile ← named? username w.database
  if text ≠ "" ∧ w.mode = .ok ∧ inRange w.database.profileNotes.next = true then
    some { id := w.database.profileNotes.next, profileId := profile.id, authorId := author.id, text,
           createdAt := w.now }
  else none

/-- The note that a request adds, if it adds one. -/
def addedNote? (r : Request) (w : World) : Option ProfileNote :=
  match addressOf r.path with
  | some (.addProfileNote username) =>
    if r.method = "POST" then
      (servedAs r.visitor w).bind fun author => noteBy? author username (noteText r) w
    else none
  | _ => none

theorem find?_named {username : String} {d : Database} {profile : User}
    (found : named? username d = some profile) : d.users.find? profile.id = some profile :=
  Table.find?_eq_some_iff.mpr ⟨List.mem_of_find?_eq_some found, rfl⟩

/-- A name finds the first user who has it. -/
theorem run_userNamed (online : w.mode ≠ .offline) (username : String) :
    (userNamed username).run w =
      ((named? username w.database).elim (.error (.noMatch .user)) .ok, w) := by
  rw [userNamed, Action.run_bind, Action.run_rows online]
  change (Action.require _ (named? username w.database)).run w = _
  cases named? username w.database <;> rfl

/-- A new note of a user on the profile of a user takes only a number. -/
theorem violation?_note {d : Database} {note : ProfileNote} {profile author : User}
    (new : note.id = d.profileNotes.next) (onProfile : d.users.find? note.profileId = some profile)
    (byUser : d.users.find? note.authorId = some author) :
    d.violation? (.profileNote note) = none ↔ inRange note.id = true := by
  have profile : d.has ⟨.user, note.profileId⟩ = true := Database.Slot.user.has_of_find? onProfile
  have author : d.has ⟨.user, note.authorId⟩ = true := Database.Slot.user.has_of_find? byUser
  have vacant : d.has ⟨.profileNote, note.id⟩ = false := new ▸ Database.has_next d .profileNote
  refine Database.violation?_new vacant rfl rfl ?_
  simp [Database.linksHold, Row.links, Row.members, profile, author]

/-- A note is stored if something is submitted and a number is left for it. -/
theorem database_addNote {author : User} (username : String)
    (known : w.database.users.find? author.id = some author) (online : w.mode ≠ .offline) :
    ((addNote r author username).run w).2.database =
      w.database.putIf
        ((if r.method = "POST" then noteBy? author username (noteText r) w else none).map
          .profileNote) := by
  have goesOn : (Action.ofExcept (reverse "profile_view" [.text username]) >>= fun path =>
      pure (Reply.redirect path)).Silent := redirect_silent
  rw [addNote, Action.run_bind, run_userNamed online]
  unfold noteBy?
  rcases found : named? username w.database with _ | profile
  · simp [Database.putIf]
  dsimp only [Option.elim]
  by_cases posted : r.method = "POST"
  · rw [if_pos posted, if_pos posted, ← noteText]
    rw [Option.bind_eq_bind, Option.bind_some]
    by_cases empty : noteText r = ""
    · rw [if_neg (by simp [empty]), if_neg fun asks => asks.1 empty]
      exact goesOn.unchanged w
    · have thanks := fun _ : Nat =>
        (Action.notify_silent .success "Комментарий добавлен" "").bind fun _ => goesOn
      have free : w.database.violation? (.profileNote
            { id := w.database.next .profileNote, profileId := profile.id, authorId := author.id,
              text := noteText r, createdAt := w.now }) = none ↔
          inRange w.database.profileNotes.next = true := violation?_note rfl (find?_named found) known
      rw [if_pos (by simpa using empty), Action.run_bind, Action.run_now]
      refine (Action.database_bind_silent thanks w).trans ((Action.database_insert _ _ w).trans ?_)
      by_cases stores : w.mode = .ok ∧ inRange w.database.profileNotes.next = true
      · rw [if_pos ⟨stores.1, free.mpr stores.2⟩, if_pos ⟨empty, stores⟩]
        rfl
      · rw [if_neg fun allowed => stores ⟨allowed.1, free.mp allowed.2⟩,
          if_neg fun asks => stores asks.2]
        rfl
  · rw [if_neg posted, if_neg posted]
    exact goesOn.unchanged w

theorem database_serve_addNote {username : String} (client : r.visitor.isClient = true)
    (there : addressOf r.path = some (.addProfileNote username)) :
    ((serve r).run w).2.database = w.database.putIf ((addedNote? r w).map .profileNote) := by
  have chosen : serveAddress r (.addProfileNote username) =
      Guard.signedIn r fun user => addNote r user username := rfl
  rw [database_serve there, chosen, addedNote?, there]
  dsimp only
  cases served : servedAs r.visitor w with
  | none =>
      rw [database_signedIn served]
      split <;> rfl
  | some author =>
      rw [run_signedIn served]
      exact database_addNote username (find?_of_servedAs client served).1
        (online_of_servedAs client served)

/-- A request to another address adds no note. -/
theorem addedNote?_eq_none (elsewhere : ∀ username, addressOf r.path ≠ some (.addProfileNote username)) :
    addedNote? r w = none := by
  unfold addedNote?
  split
  · rename_i username there
    exact absurd there (elsewhere username)
  · rfl

theorem trim_noteText (r : Request) : Text.trim (noteText r) = noteText r := by
  rw [← String.toList_inj, noteText, Text.toList_trim, Text.toList_trim, Text.stripped_stripped]

/-- The note that a request adds is never blank. -/
theorem trimmed_of_addedNote {note : ProfileNote} (added : addedNote? r w = some note) :
    note.Trimmed := by
  unfold addedNote? at added
  split at added
  · split at added
    · obtain ⟨author, -, byAuthor⟩ := Option.bind_eq_some_iff.mp added
      simp only [noteBy?, Option.bind_eq_bind, Option.bind_eq_some_iff] at byAuthor
      obtain ⟨profile, -, stored⟩ := byAuthor
      split at stored
      · rename_i asks
        cases stored
        exact ⟨trim_noteText r, asks.1⟩
      · cases stored
    · cases added
  · cases added

end GridCommons.Web

namespace GridCommons

open Site

namespace Step

variable {step : Step} {w : World}

/-- The note that a step adds, if it sends a request that adds one. -/
def addedNote? : Step → World → Option ProfileNote :=
  effect? Web.addedNote?

/-- A note that the step adds is not too long. -/
def AddsShort (step : Step) (w : World) : Prop :=
  ∀ note ∈ step.addedNote? w, note.Short

/-- A request either adds one note and does nothing else, or it makes no note. -/
theorem notes_take (client : step.FromClient) :
    (∃ note, step.addedNote? w = some note ∧
        (step.take w).2.database = w.database.put (.profileNote note)) ∨
      (step.addedNote? w = none ∧ w.database.NotesKept (step.take w).2.database) := by
  obtain ⟨r, sent, outside⟩ := client
  by_cases there : ∃ username, Web.addressOf r.path = some (.addProfileNote username)
  · obtain ⟨username, there⟩ := there
    have written : (step.take w).2.database =
        w.database.putIf ((step.addedNote? w).map .profileNote) :=
      database_take_putIf sent fun body _ =>
        Web.database_serve_addNote (r := { r with body }) outside there
    rw [written]
    cases step.addedNote? w with
    | none => exact .inr ⟨rfl, .of_eq rfl⟩
    | some note => exact .inl ⟨note, rfl, rfl⟩
  · have elsewhere := not_exists.mp there
    refine .inr ⟨effect?_eq_none sent fun _ _ => Web.addedNote?_eq_none elsewhere, ?_⟩
    refine take_keeps Database.NotesKept (fun _ => .of_eq rfl) .trans sent
      fun body address named d d' deed => deed.notesKept ?_
    rintro username rfl
    exact elsewhere username named

/-- A step leads out of a state in which every note meets a rule exactly if the note that it adds
does not meet it. -/
theorem notesMeet_take_iff {rule : ProfileNote → Prop} (client : step.FromClient)
    (meets : w.database.NotesMeet rule) :
    (step.take w).2.database.NotesMeet rule ↔ ∀ note ∈ step.addedNote? w, rule note := by
  rcases notes_take (w := w) client with ⟨note, added, written⟩ | ⟨nothing, kept⟩
  · rw [added, written, Database.notesMeet_put meets]
    simp
  · rw [nothing]
    exact iff_of_true (meets.of_kept kept) (by simp)

/-- No blanks stand around an added note. -/
theorem trimmed_addedNote {note : ProfileNote} (added : step.addedNote? w = some note) :
    note.Trimmed := by
  obtain ⟨arrived, -, added⟩ := Option.bind_eq_some_iff.mp added
  exact Web.trimmed_of_addedNote added

end Step

/-- No run of requests stores a note that is blank or has blanks at its ends.  From a state in which
every note has the declared form, as one without notes, a run of requests stays among such states
exactly if every note that it adds is short enough: that is not checked when a note is added. -/
theorem notes_keep_form_iff {steps : List Step} {w : World}
    (clients : ∀ step ∈ steps, step.FromClient)
    (trimmed : w.database.NotesMeet ProfileNote.Trimmed)
    (short : w.database.NotesMeet ProfileNote.Short) :
    (runSteps steps w).2.database.NotesMeet ProfileNote.Trimmed ∧
      ((∀ earlier, earlier <+: steps →
          (runSteps earlier w).2.database.NotesMeet ProfileNote.Short) ↔
        EachStep Step.AddsShort steps w) := by
  constructor
  · exact holds_runSteps (fun w => w.database.NotesMeet ProfileNote.Trimmed)
      (fun _ _ client meets => (Step.notesMeet_take_iff client meets).mpr
        fun _ added => Step.trimmed_addedNote added) clients trimmed
  · exact holds_along_iff (fun w => w.database.NotesMeet ProfileNote.Short)
      (fun _ _ client => Step.notesMeet_take_iff client) clients short

/-! ## A short note and a long one -/

def ann : User :=
  { id := 1, username := "ann", dateJoined := ⟨0⟩, password := .plain "" }

def noteRequest (text : String) : Web.Request :=
  { method := "POST", path := "/profile/ann/comment/", visitor := .browser "ann"
    body := .form { texts := [("comment_text", [text])] } [] }

/-- The user puts a note on the own profile. -/
def writesNote (text : String) : Step :=
  .request (noteRequest text)

theorem notesMeet_annSite (rule : ProfileNote → Prop) : annSite.database.NotesMeet rule :=
  List.forall_mem_nil rule

theorem fromClient_writesNote (text : String) : (writesNote text).FromClient :=
  ⟨_, rfl, rfl⟩

theorem addedNote?_writesNote (text : String) :
    (writesNote text).addedNote? annSite =
      if Text.trim text ≠ "" then
        some { id := 1, profileId := 1, authorId := 1, text := Text.trim text, createdAt := ⟨1⟩ }
      else none := by
  have there : Web.addressOf (noteRequest text).path = some (.addProfileNote "ann") := by
    change Web.addressOf "/profile/ann/comment/" = _
    decide +kernel
  have author : Account.servedAs (noteRequest text).visitor (Step.nextSecond annSite) = some ann := by
    change Account.servedAs (.browser "ann") _ = _
    decide +kernel
  have profile : Web.named? "ann" (Step.nextSecond annSite).database = some ann := by
    decide +kernel
  have posted : (noteRequest text).method = "POST" := rfl
  have written : Web.noteText (noteRequest text) = Text.trim text := rfl
  have room : (Step.nextSecond annSite).mode = .ok ∧
      inRange (Step.nextSecond annSite).database.profileNotes.next = true := by
    decide
  have arrives : (writesNote text).addedNote? annSite =
      Web.addedNote? (noteRequest text) (Step.nextSecond annSite) := rfl
  rw [arrives, Web.addedNote?, there]
  dsimp only
  rw [if_pos posted, author, Option.bind_some, written, Web.noteBy?, profile, Option.bind_eq_bind,
    Option.bind_some]
  by_cases filled : Text.trim text ≠ ""
  · rw [if_pos ⟨filled, room⟩, if_pos filled]
    rfl
  · rw [if_neg fun asks => filled asks.1, if_neg filled]

/-- A short note is added without the blanks around it, and notes keep their form. -/
theorem notes_keep_form_iff_short :
    ((writesNote " hello ").addedNote? annSite).map ProfileNote.text = some "hello" ∧
      (runSteps [writesNote " hello "] annSite).2.database.NotesMeet ProfileNote.Short := by
  have hello : Text.trim " hello " = "hello" := by decide +kernel
  have added := addedNote?_writesNote " hello "
  rw [hello, if_pos (by decide)] at added
  have short : EachStep Step.AddsShort [writesNote " hello "] annSite := by
    refine ⟨?_, trivial⟩
    rw [Step.AddsShort, added]
    decide
  have clients : ∀ step ∈ [writesNote " hello "], step.FromClient :=
    List.forall_mem_singleton.mpr (fromClient_writesNote _)
  refine ⟨by rw [added]; rfl, ?_⟩
  exact (notes_keep_form_iff clients (notesMeet_annSite _) (notesMeet_annSite _)).2.mpr short
    [writesNote " hello "] List.prefix_rfl

def longText : String :=
  String.ofList (List.replicate (ProfileNote.limit + 1) 'a')

theorem trim_longText : Text.trim longText = longText := by
  rw [← String.toList_inj, Text.toList_trim, longText, String.toList_ofList]
  have plain : Text.isBlank 'a' = false := by decide
  simp [Text.stripped, List.rdropWhile, plain]

/-- A note may be added that is too long. -/
theorem note_exceeds_limit :
    ∃ step w, Step.FromClient step ∧ w.database.profileNotes.rows = [] ∧
      ∃ note ∈ (step.take w).2.database.profileNotes.rows,
        ProfileNote.limit < note.text.length := by
  have client := fromClient_writesNote longText
  refine ⟨writesNote longText, annSite, client, rfl, ?_⟩
  have added := addedNote?_writesNote longText
  rw [trim_longText, if_pos (by simp [longText, String.ext_iff])] at added
  rcases Step.notes_take client with ⟨note, adds, written⟩ | ⟨nothing, -⟩
  · cases added.symm.trans adds
    rw [written]
    exact ⟨_, Table.mem_put.mpr (.inl rfl), by simp [longText]⟩
  · cases added.symm.trans nothing

end GridCommons
