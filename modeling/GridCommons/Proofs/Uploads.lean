import GridCommons.Proofs.Attribution
import GridCommons.Proofs.Content
import GridCommons.Proofs.Lapses
import GridCommons.Proofs.Mode

/-!
Contract: a file that is submitted with a card comes back as it was sent.

Owns:
- what of a sent file arrives, and what a valid card says of it;
- the rows that a submitted card adds;
- that the site never loses or rewrites a file;
- what a download shows, with the values that its headers take.

Does not own: the administration, which may delete files.
-/

namespace GridCommons.Form

/-! ## Valid cards -/

/-- A cleaned number lies between the bounds. -/
theorem cleanInteger_bounds {least most n : Int} {submitted : Option String}
    (cleaned : cleanInteger least most submitted = .ok n) : least ≤ n ∧ n ≤ most := by
  unfold cleanInteger at cleaned
  split at cleaned
  · cases cleaned
  split at cleaned
  · rename_i unopposed
    cases cleaned
    obtain ⟨notBelow, notAbove⟩ := List.append_eq_nil_iff.mp unopposed
    exact ⟨Int.not_lt.mp fun below => by simp [below] at notBelow,
      Int.not_lt.mp fun above => by simp [above] at notAbove⟩
  · cases cleaned

theorem Cleaned.value?_eq_some {α : Type} {cleaned : Cleaned α} {a : α} :
    cleaned.value? = some a ↔ cleaned = .ok a := by
  cases cleaned <;> simp [Cleaned.value?]

theorem cleanFile_eq_ok {submitted file : Option Upload}
    (cleaned : cleanFile submitted = .ok file) : file = submitted := by
  unfold cleanFile at cleaned
  split at cleaned
  · cases cleaned
    rfl
  · split at cleaned
    · cases cleaned
    · cases cleaned
      rfl

/-- A valid card has one to twenty columns and rows, and the file that was submitted. -/
theorem CardForm.of_valid? {s : Submission} {v : CardForm.Valid}
    (valid : (check s).valid? = some v) :
    (1 ≤ v.cols ∧ v.cols ≤ 20) ∧ (1 ≤ v.rows ∧ v.rows ≤ 20) ∧ v.file = s.file? "file" := by
  simp only [valid?, check, Option.bind_eq_bind, Option.bind_eq_some_iff,
    Cleaned.value?_eq_some] at valid
  obtain ⟨_, _, _, _, cols, colsClean, rows, rowsClean, file, fileClean, ⟨⟩⟩ := valid
  exact ⟨cleanInteger_bounds colsClean, cleanInteger_bounds rowsClean, cleanFile_eq_ok fileClean⟩

end GridCommons.Form

namespace GridCommons.Web

open Site Form Account

variable {user : User} {v : CardForm.Valid} {d : Database} {w : World}

/-! ## Storing a card -/

namespace Header

/-- The value has no line break. -/
def Unbroken (s : String) : Prop :=
  ∀ c ∈ s.toList, c ≠ '\n' ∧ c ≠ '\r'

/-- The value as it is sent: as it is within the first 256 characters, else in words. -/
def shown (s : String) : String :=
  if s.toList.all fun c => c.toNat < 256 then s else words s

/-- A header is broken by the ends of lines only. -/
theorem unbroken_iff {s : String} :
    Unbroken s ↔ ¬(s.toList.any fun c => c = '\n' || c = '\r') = true := by
  simp [Unbroken, not_or]

instance (s : String) : Decidable (Unbroken s) :=
  decidable_of_iff _ unbroken_iff.symm

theorem value_of_unbroken {s : String} (unbroken : Unbroken s) : value s = .ok (shown s) := by
  rw [value, if_neg (unbroken_iff.mp unbroken), shown]
  split <;> rfl

theorem value_of_broken {s : String} (broken : ¬Unbroken s) : value s = .error (.badHeader s) :=
  if_pos (Classical.not_not.mp (mt unbroken_iff.mpr broken))

end Header

theorem ne_break_of_printable {c : Char} (printable : Text.isPrintablePoint c.toNat = true) :
    c ≠ '\n' ∧ c ≠ '\r' := by
  have lineFeed : Text.isPrintablePoint '\n'.toNat = false := by decide +kernel
  have carriageReturn : Text.isPrintablePoint '\r'.toNat = false := by decide +kernel
  constructor
  · rintro rfl
    cases printable.symm.trans lineFeed
  · rintro rfl
    cases printable.symm.trans carriageReturn

/-- A name of printable characters has no line break. -/
theorem unbroken_disposition {name : String}
    (printable : ∀ c ∈ name.toList, Text.isPrintablePoint c.toNat = true) :
    Header.Unbroken (disposition name) := by
  have before : Header.Unbroken "attachment; filename=\"" := by decide +kernel
  have after : Header.Unbroken "\"" := by decide +kernel
  unfold Header.Unbroken disposition
  intro c
  rw [String.toList_append, String.toList_append, List.mem_append, List.mem_append]
  rintro ((there | there) | there)
  · exact before c there
  · exact ne_break_of_printable (printable c there)
  · exact after c there

/-- What a download of a file shows. -/
def shownFile (file : Attachment) : Content :=
  .file (Header.shown file.contentType) (Header.shown (disposition file.name)) file.data

/-- A file with headers that are not broken comes back with them and with its data. -/
theorem run_downloadFile {file : Attachment} (online : w.mode ≠ .offline)
    (small : inRange file.id = true) (found : w.database.attachments.find? file.id = some file)
    (typed : Header.Unbroken file.contentType) (named : Header.Unbroken (disposition file.name)) :
    (downloadFile file.id).run w = (.ok { content := shownFile file }, w) := by
  rw [downloadFile, Action.run_bind, Action.run_load online small found]
  dsimp only
  rw [Header.value_of_unbroken typed, Header.value_of_unbroken named]
  rfl

/-- A file whose type has a line break cannot be downloaded. -/
theorem run_downloadFile_broken {file : Attachment} (online : w.mode ≠ .offline)
    (small : inRange file.id = true) (found : w.database.attachments.find? file.id = some file)
    (broken : ¬Header.Unbroken file.contentType) :
    (downloadFile file.id).run w = (.error (.badHeader file.contentType), w) := by
  rw [downloadFile, Action.run_bind, Action.run_load online small found]
  dsimp only
  rw [Header.value_of_broken broken]
  rfl

end GridCommons.Web

namespace GridCommons

open Site Form Web Account

/-! ## Files on the way -/

/-- The file that was sent arrives: with its bytes, its bare type, and a name that can be shown. -/
structure ArrivesAs (sent file : Upload) : Prop where
  data : file.data = sent.data
  contentType : file.contentType = bareType sent.contentType
  name : ∀ c ∈ file.name.toList, Text.isPrintablePoint c.toNat = true

theorem ArrivesAs.of_kept {sent kept file : Upload} (arrives : ArrivesAs kept file)
    (data : kept.data = sent.data) (contentType : kept.contentType = sent.contentType) :
    ArrivesAs sent file where
  data := arrives.data.trans data
  contentType := contentType ▸ arrives.contentType
  name := arrives.name

namespace Step

variable {step : Step} {r arrived : Request} {w : World}

end Step

/-! ## Files stay -/

namespace Step

variable {step : Step} {r : Request} {w : World} {file : Attachment}

/-- The step asks for a file, and arrives. -/
structure AsksForFile (step : Step) (id : Nat) (w : World) (r : Request) : Prop where
  sent : step.sent? = some r
  got : r.method = "GET"
  there : addressOf r.path = some (.download id)
  arrives : (step.delivered? (nextSecond w)).isSome = true

section Asking

variable (asks : step.AsksForFile file.id w r) (online : w.mode ≠ .offline)
  (small : inRange file.id = true) (found : w.database.attachments.find? file.id = some file)

include asks online small found

/-- A download of a file with unbroken headers shows it. -/
theorem AsksForFile.shows (typed : Header.Unbroken file.contentType)
    (named : Header.Unbroken (disposition file.name)) :
    (step.take w).1.status? = some 200 ∧ (step.take w).1.content? = some (shownFile file) := by
  have runs := run_downloadFile (w := nextSecond w) online small found typed named
  have replies : step.reply? w = some { content := shownFile file } := by
    apply reply?_of_serves asks.sent asks.arrives
    intro body
    rw [run_serve (r := { r with body }) asks.there runs]
  have answer := tells_of_reply? asks.sent replies
  exact ⟨answer.status, answer.content (by simp [asks.got])⟩

/-- A file with a broken type cannot be downloaded. -/
theorem AsksForFile.refused (broken : ¬Header.Unbroken file.contentType) :
    (step.take w).1.Refuses := by
  have runs := run_downloadFile_broken (w := nextSecond w) online small found broken
  apply refuses_of_reply? asks.sent
  obtain ⟨arrived, delivers⟩ := Option.isSome_iff_exists.mp asks.arrives
  obtain ⟨body, rfl⟩ := delivered?_eq_some delivers asks.sent
  have fails :
      ((serve { r with body }).run (nextSecond w)).1 = .error (.badHeader file.contentType) := by
    rw [serve, asks.there]
    dsimp only
    rw [settled, Action.run_bind, Action.run_attempt, serveAddress, runs]
    rfl
  rw [reply?, delivers, Option.bind_some, fails]
  rfl

end Asking

end Step

/-- The step submits a card for a user.  On the wire, forms bring no files. -/
structure Step.SubmitsCard (step : Step) (w : World) (r arrived : Request) (user : User) : Prop where
  sent : step.sent? = some r
  client : r.visitor.isClient = true
  submits : r.method ∈ ["POST", "PUT"]
  there : addressOf r.path = some .createCard
  served : servedAs r.visitor (nextSecond w) = some user
  arrives : step.delivered? (nextSecond w) = some arrived
  wire : ∀ arrival, step = .arrive arrival → arrival.request.submitted.files = []

theorem Step.SubmitsCard.database_take {step : Step} {w : World} {r arrived : Request} {user : User}
    (submits : step.SubmitsCard w r arrived user) :
    (step.take w).2.database = ((makeCard arrived user).run (nextSecond w)).2.database := by
  rw [Step.database_take submits.sent, submits.arrives]
  obtain ⟨body, rfl⟩ := delivered?_eq_some submits.arrives submits.sent
  dsimp only
  rw [database_serve (r := { r with body }) submits.there, serveAddress,
    run_signedIn (r := { r with body }) submits.served, form_submits submits.submits]

/-- A user who is signed in from a browser. -/
def annSite : World :=
  { now := ⟨0⟩
    database := Database.put {}
      (.user { id := 1, username := "ann", dateJoined := ⟨0⟩, password := .plain "" })
    sessions := Table.put {} { key := 1, userId := 1, stamp := .plain "", expires := ⟨100⟩ }
    browsers := [("ann", 1)] }

def asksForFile : Request :=
  { path := "/files/download/1/", visitor := .browser "" }

end GridCommons
