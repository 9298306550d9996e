import GridCommons.Proofs.Uploads

/-!
Contract: the names of downloaded files.

Owns:
- how a quoted text in a header is read: up to the closing quote, after which nothing follows, and
  with a backslash before a character that is taken as it is;
- which texts are read back from between plain quotes;
- which files a download names as they are stored.

A name is put between quotes as it is, so that quotes and backslashes in it are read otherwise.
-/

namespace GridCommons.Web

open Site

namespace Header

/-- The text up to the closing quote. -/
def beforeQuote : List Char → Option (List Char)
  | [] => none
  | c :: rest =>
    if c = '"' then if rest.isEmpty then some [] else none
    else if c = '\\' then
      match rest with
      | [] => none
      | taken :: rest => (beforeQuote rest).map (taken :: ·)
    else (beforeQuote rest).map (c :: ·)

/-- The text that a quoted text stands for. -/
def unquoted? : List Char → Option (List Char)
  | [] => none
  | c :: rest => if c = '"' then beforeQuote rest else none

/-- The text has neither quotes nor backslashes. -/
def Unmarked (text : List Char) : Prop :=
  ∀ c ∈ text, c ≠ '"' ∧ c ≠ '\\'

instance (text : List Char) : Decidable (Unmarked text) :=
  List.decidableBAll (fun c => c ≠ '"' ∧ c ≠ '\\') text

variable {name text : List Char}

theorem beforeQuote_quote (rest : List Char) :
    beforeQuote ('"' :: rest) = if rest.isEmpty then some [] else none := by
  rw [beforeQuote.eq_def]
  exact if_pos rfl

theorem beforeQuote_backslash (c : Char) (rest : List Char) :
    beforeQuote ('\\' :: c :: rest) = (beforeQuote rest).map (c :: ·) := by
  rw [beforeQuote.eq_def]
  rfl

theorem beforeQuote_cons {c : Char} (noQuote : c ≠ '"') (noBackslash : c ≠ '\\') (rest : List Char) :
    beforeQuote (c :: rest) = (beforeQuote rest).map (c :: ·) := by
  rw [beforeQuote.eq_def]
  dsimp only
  rw [if_neg noQuote, if_neg noBackslash]

/-- The closing quote, at least, is left out. -/
theorem length_beforeQuote {s : List Char} (reads : beforeQuote s = some text) :
    text.length < s.length := by
  fun_induction beforeQuote s generalizing text with
  | case1 | case3 | case4 => cases reads
  | case2 =>
      cases reads
      exact Nat.zero_lt_succ _
  | case5 _ _ _ inductionHypothesis | case6 _ _ _ _ inductionHypothesis =>
      obtain ⟨rest, readsRest, rfl⟩ := Option.map_eq_some_iff.mp reads
      have shorter := inductionHypothesis readsRest
      simp only [List.length_cons]
      omega

/-- After a backslash, too little is read. -/
theorem beforeQuote_backslash_ne (name : List Char) :
    beforeQuote ('\\' :: (name ++ ['"'])) ≠ some ('\\' :: name) := by
  intro reads
  cases name with
  | nil => cases reads
  | cons c name =>
      rw [List.cons_append, beforeQuote_backslash] at reads
      obtain ⟨text, readsText, same⟩ := Option.map_eq_some_iff.mp reads
      have shorter := length_beforeQuote readsText
      have sizes := congrArg List.length same
      simp only [List.length_cons, List.length_append, List.length_nil] at shorter sizes
      omega

/-- Between plain quotes a text is read back exactly if it has neither quotes nor backslashes. -/
theorem beforeQuote_append_quote_iff :
    beforeQuote (name ++ ['"']) = some name ↔ Unmarked name := by
  induction name with
  | nil => simp [beforeQuote, Unmarked]
  | cons c name inductionHypothesis =>
      rw [Unmarked, List.forall_mem_cons, ← Unmarked, ← inductionHypothesis, List.cons_append]
      by_cases quote : c = '"'
      · subst quote
        simp [beforeQuote_quote]
      · by_cases backslash : c = '\\'
        · subst backslash
          simp [beforeQuote_backslash_ne]
        · rw [beforeQuote_cons quote backslash]
          simp [quote, backslash]

/-- A name comes back from between quotes exactly if it has no quote and no backslash. -/
theorem unquoted?_between_iff :
    unquoted? ('"' :: (name ++ ['"'])) = some name ↔ Unmarked name := by
  rw [unquoted?, if_pos rfl, beforeQuote_append_quote_iff]

end Header

/-- The text has printable characters of the first 128 only. -/
def IsPlainLine (s : String) : Prop :=
  ∀ c ∈ s.toList, 32 ≤ c.toNat ∧ c.toNat < 127

instance (s : String) : Decidable (IsPlainLine s) :=
  List.decidableBAll (fun c : Char => 32 ≤ c.toNat ∧ c.toNat < 127) s.toList

theorem isPrintablePoint_of_plain {n : Nat} (plain : 32 ≤ n ∧ n < 127) :
    Text.isPrintablePoint n = true := by
  rw [Text.isPrintablePoint, if_pos (by omega)]
  simpa using plain

/-- A header that names a plain file is sent as it is. -/
theorem shown_disposition {name : String} (plain : IsPlainLine name) :
    Header.shown (disposition name) = disposition name := by
  have before : ("attachment; filename=\"".toList.all fun c => c.toNat < 256) = true := by decide +kernel
  have after : ("\"".toList.all fun c => c.toNat < 256) = true := by decide +kernel
  have between : (name.toList.all fun c => c.toNat < 256) = true :=
    List.all_eq_true.mpr fun c member => decide_eq_true (Nat.lt_trans (plain c member).2 (by decide))
  unfold Header.shown disposition
  rw [String.toList_append, String.toList_append, List.all_append, List.all_append, before, between,
    after]
  rfl

/-- A name in plain quotes. -/
def inQuotes (name : String) : String :=
  "\"" ++ (name ++ "\"")

theorem toList_inQuotes (name : String) : (inQuotes name).toList = '"' :: (name.toList ++ ['"']) := by
  have quote : "\"".toList = ['"'] := by decide +kernel
  simp only [inQuotes, String.toList_append, quote, List.singleton_append]

theorem disposition_eq (name : String) :
    disposition name = "attachment; filename=" ++ inQuotes name := by
  have opens : "attachment; filename=\"" = "attachment; filename=" ++ "\"" := by decide +kernel
  unfold disposition inQuotes
  rw [← String.append_assoc, ← String.append_assoc, ← opens]

end GridCommons.Web

namespace GridCommons

open Site Web

variable {step : Step} {r : Request} {w : World} {file : Attachment}

section Asking

variable (asks : step.AsksForFile file.id w r) (online : w.mode ≠ .offline)
  (small : inRange file.id = true) (found : w.database.attachments.find? file.id = some file)
  (typed : Header.Unbroken file.contentType) (plain : IsPlainLine file.name)

include asks online small found typed plain

/-- A plain name is put between quotes as it is. -/
theorem download_shows :
    (step.take w).1.content? =
      some (.file (Header.shown file.contentType) ("attachment; filename=" ++ inQuotes file.name)
        file.data) := by
  have named : Header.Unbroken (disposition file.name) :=
    unbroken_disposition fun c member => isPrintablePoint_of_plain (plain c member)
  have shows := (asks.shows online small found typed named).2
  rwa [shownFile, shown_disposition plain, disposition_eq] at shows

/-- The download of a file with a plain name is answered with a header that names a file in quotes.
What is read from the quotes is the name of the stored file exactly if that has neither quotes nor
backslashes. -/
theorem download_names_file_iff :
    ∃ quoted, (step.take w).1.content? =
        some (.file (Header.shown file.contentType) ("attachment; filename=" ++ quoted) file.data) ∧
      (Header.unquoted? quoted.toList = some file.name.toList ↔ Header.Unmarked file.name.toList) := by
  refine ⟨inQuotes file.name, download_shows asks online small found typed plain, ?_⟩
  rw [toList_inQuotes]
  exact Header.unquoted?_between_iff

end Asking

/-! ## A plain name and one with a quote -/

def namedFile (name : String) : Attachment :=
  { id := 1, name, contentType := "text/plain", data := [], size := 0, createdAt := ⟨0⟩ }

def fileSite (name : String) : World :=
  { now := ⟨0⟩, database := { attachments := Table.put {} (namedFile name) } }

theorem asksForFile_fileSite (name : String) :
    (Step.request asksForFile).AsksForFile (namedFile name).id (fileSite name) asksForFile := by
  have there : addressOf asksForFile.path = some (.download 1) := by decide +kernel
  exact ⟨rfl, rfl, there, rfl⟩

/-- A name with a blank is read back. -/
theorem download_names_file_iff_blank :
    ∃ quoted, ((Step.request asksForFile).take (fileSite "a b.txt")).1.content? =
        some (.file (Header.shown "text/plain") ("attachment; filename=" ++ quoted) []) ∧
      Header.unquoted? quoted.toList = some "a b.txt".toList := by
  obtain ⟨quoted, shows, back⟩ := download_names_file_iff (asksForFile_fileSite "a b.txt") (by decide)
    (by decide) rfl (by decide +kernel) (by decide +kernel)
  exact ⟨quoted, shows, back.mpr (by decide +kernel)⟩

/-- A name with a quote in it is not read back: text follows the quote that closes. -/
theorem download_misnames_quote :
    IsPlainLine "a\"b.txt" ∧
      ∃ quoted, ((Step.request asksForFile).take (fileSite "a\"b.txt")).1.content? =
          some (.file (Header.shown "text/plain") ("attachment; filename=" ++ quoted) []) ∧
        Header.unquoted? quoted.toList = none := by
  have plain : IsPlainLine "a\"b.txt" := by decide +kernel
  have shows := download_shows (asksForFile_fileSite "a\"b.txt") (by decide) (by decide) rfl
    (by decide +kernel) plain
  exact ⟨plain, _, shows, by rw [toList_inQuotes]; decide +kernel⟩

end GridCommons
