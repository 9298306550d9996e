import GridCommons.Proofs.Faults
import GridCommons.Proofs.Submitting
import GridCommons.Proofs.Uploads
import GridCommons.Proofs.Walls

/-!
Contract: the user that a registration adds.

Owns:
- what a valid registration takes from what is submitted, and from whom it differs;
- that the two writes of a registration leave one row, and that a registration for which no number
  is left writes none;
- that a submitted registration adds one user or none, and which fault may end it.

A name is compared with the names of users as it was typed and in the form in which it is stored.
Only the second is kept.
-/

namespace GridCommons.Site.Draft

/-- A draft without a number is not inserted if the table has run out of them. -/
theorem run_insertAs_of_full {draft : Draft} {password : Option Password} {r : Record} {id : Nat}
    {w : World} (writes : w.mode = .ok) (taken : (draft.stamp w.now true).taken = .ok r)
    (numbered : insertId draft.kind r w.database = id) (full : inRange id = false)
    (ranged : (r.any fun entry => entry.2.outOfRange) = false) :
    (draft.insertAs password).run w = (.error (.violation .full), w) := by
  subst numbered
  rw [insertId] at full
  simp only [insertAs, Action.run_bind, Action.now, Action.run_get, Action.run_pure, taken,
    Action.ofExcept, full, ranged, Bool.not_false, Bool.and_self, if_true, Action.run_writable,
    writes, Action.run_fail]

end GridCommons.Site.Draft

namespace GridCommons.Account

open Site

/-- A user who is stored, noted as signed in and stored again is stored once. -/
theorem put_noteLogin_put (d : Database) {first last : User} (same : last.id = first.id)
    (now : Instant) :
    (noteLogin first.id now (d.put (.user first))).put (.user last) = d.put (.user last) := by
  have users : (noteLogin first.id now (d.put (.user first))).users.put last = d.users.put last := by
    apply Table.eq_of_rows_of_next
    · refine Table.rows_eq_of_find?_eq fun id => ?_
      rw [Table.find?_put, Table.find?_put]
      split
      · rfl
      · rename_i elsewhere
        have apart : first.id ≠ id := same ▸ elsewhere
        have before : (d.put (.user first)).users.find? id = d.users.find? id :=
          (Table.find?_put d.users first id).trans (if_neg apart)
        rw [find?_noteLogin, before]
        rcases found : d.users.find? id with _ | user
        · rfl
        · have numbered : user.id = id := (Table.find?_eq_some_iff.mp found).2
          rw [Option.map_some, if_neg (numbered ▸ Ne.symm apart)]
    · have next : max (max d.users.next (first.id + 1)) (last.id + 1) =
          max d.users.next (last.id + 1) := by
        rw [same]
        omega
      exact next
  exact congrArg (fun users : Table User => { d with users }) users

end GridCommons.Account

namespace GridCommons.Form.Registration

open Site Account

variable {platform : Platform} {s : Submission} {users : List User} {v : Valid} {w : World}

theorem value?_of_storable {cleaned : Cleaned String} {name : String}
    (stored : (storable users cleaned).value? = some name) : cleaned.value? = some name := by
  unfold storable at stored
  split at stored
  · split at stored
    · cases stored
    · split at stored
      · cases stored
      · exact stored
  · cases stored

/-- A valid registration takes the first password, and neither its name as it was typed nor its
address is that of a user. -/
theorem of_valid? (valid : (checked platform s users).valid? = some v) :
    (checked platform s users).password1 = .ok v.password ∧
      ∀ user ∈ users, user.username ≠ v.username ∧ user.email ≠ v.email := by
  simp only [valid?, checked, Option.bind_eq_bind, Option.bind_eq_some_iff] at valid
  obtain ⟨name, stored, email, given, password, first, _, _, ⟨⟩⟩ := valid
  refine ⟨Cleaned.value?_eq_some.mp first, fun user member => ⟨?_, ?_⟩⟩
  · have free := (value?_unlessTaken.mp (value?_of_storable stored)).2
    simpa using List.any_eq_false.mp free user member
  · have free := (value?_unlessTaken.mp given).2
    simpa using List.any_eq_false.mp free user member

/-- A registration is checked by the texts that are submitted. -/
theorem checked_congr {other : Submission} (same : ∀ name, other.text? name = s.text? name) :
    checked platform other users = checked platform s users := by
  simp only [checked, same]

/-- Where no number is left for a user, none is stored. -/
theorem run_save_of_full (writes : w.mode = .ok) (full : inRange w.database.users.next = false) :
    (save v).run w = (.error (.violation .full), { w with nextSalt := w.nextSalt + 1 }) := by
  have ranged : (List.any (("id", Datum.null) :: newValues v w.now)
      fun entry => entry.2.outOfRange) = false := by
    simp [Datum.outOfRange, newValues]
  rw [run_save_eq]
  exact Draft.run_insertAs_of_full writes (taken_draft v w.now w.now) rfl full ranged

end GridCommons.Form.Registration

namespace GridCommons.Web

open Site Form Account

variable {r : Request} {name : String} {v : Registration.Valid} {w : World}

/-- The two writes of a registration leave one row. -/
theorem database_afterRegistering :
    (afterRegistering name v w).database = w.database.put (.user (lastStored v w)) := by
  have same : (lastStored v w).id = (firstStored v w).id := rfl
  exact put_noteLogin_put w.database same w.now

/-- A registration that is not valid gets a page, and adds nobody. -/
theorem register_of_invalid (writes : w.mode = .ok)
    (invalid : (Registration.checked w.platform r.submitted w.database.users.rows).valid? = none) :
    ∃ reply reached, (register r).run w = (.ok reply, reached) ∧ reached.database = w.database := by
  obtain ⟨user, reached, asked, -⟩ := currentUser_answers r.visitor writes
  have asked : r.user.run w = (.ok user, reached) := asked
  have shows : ∀ complaints, ∃ reply,
      (registrationPage r (some r.submitted) complaints).run w = (.ok reply, reached) := by
    intro complaints
    rw [registrationPage, Action.run_bind, asked]
    exact ⟨_, rfl⟩
  have same : reached.database = w.database := by
    have silent := (user_silent r).unchanged w
    rwa [asked] at silent
  rw [register, Action.run_bind, Registration.run_check (by simp [writes])]
  dsimp only
  rw [invalid]
  obtain ⟨reply, shown⟩ := shows (Registration.checked w.platform r.submitted w.database.users.rows).complaints
  exact ⟨reply, reached, shown, same⟩

/-- A valid registration without a number left for it is a fault. -/
theorem register_of_full (writes : w.mode = .ok) (full : inRange w.database.users.next = false)
    (valid : (Registration.checked w.platform r.submitted w.database.users.rows).valid? = some v) :
    (register r).run w = (.error (.violation .full), { w with nextSalt := w.nextSalt + 1 }) := by
  rw [register, Action.run_bind, Registration.run_check (by simp [writes])]
  dsimp only
  rw [valid]
  dsimp only
  rw [Action.run_bind, Registration.run_save_of_full writes full]

/-- Where no number is left, the fault is not answered. -/
theorem run_serve_of_full {address : Address} {reached : World}
    (there : addressOf r.path = some address)
    (ends : (serveAddress r address).run w = (.error (.violation .full), reached)) :
    (serve r).run w = (.error (.violation .full), reached) :=
  run_serve_of_fault there ends rfl

end GridCommons.Web

namespace GridCommons

open Site Form Account Web

/-- A submitted registration adds one user or none.  If the form is not valid, nothing changes.  If
it is valid and a number is left, one user comes and nothing else changes: under the stored form of
the typed name and the typed address, which no user had, active, without any privilege, and with the
first password.  If no number is left, nothing changes, and that is the only fault that ever ends a
registration. -/
theorem registration_adds_one_or_none {step : Step} {w : World} {r arrived : Request} {name : String}
    (arrives : step.Arrives .registration w r arrived) (submits : r.method ∈ ["POST", "PUT"])
    (browser : r.visitor = .browser name) (writes : w.mode = .ok) :
    let before := w.database
    let after := (step.take w).2.database
    let outcome := ((serve arrived).run (Step.nextSecond w)).1
    ∃ form, (Registration.check r.submitted).run (Step.nextSecond w) = (.ok form, Step.nextSecond w) ∧
      (form.valid? = none → after = before) ∧
      (∀ v, form.valid? = some v → inRange before.users.next = true →
        (step.take w).1.target? = some loginPath ∧
        ∃ user, before.Gains after (.user user) ∧
          user.username = Username.stored v.username ∧ user.email = v.email ∧
          (∀ other ∈ before.users.rows, other.username ≠ user.username ∧
            other.username ≠ v.username ∧ other.email ≠ user.email) ∧
          user.isActive = true ∧ user.isStaff = false ∧ user.isSuperuser = false ∧
          form.password1 = .ok v.password ∧ user.password.accepts v.password = true) ∧
      (∀ v, form.valid? = some v → inRange before.users.next = false →
        after = before ∧ outcome = .error (.violation .full)) ∧
      (∀ fault, outcome = .error fault →
        fault = .violation .full ∧ inRange before.users.next = false) := by
  intro before after outcome
  have same : Registration.checked w.platform arrived.submitted before.users.rows =
      Registration.checked w.platform r.submitted before.users.rows :=
    Registration.checked_congr arrives.text?
  have checks := Registration.run_check (s := r.submitted) (w := Step.nextSecond w) (by simp [writes])
  refine ⟨Registration.checked w.platform r.submitted before.users.rows, checks, ?_⟩
  obtain ⟨body, rfl⟩ := Step.delivered?_eq_some arrives.arrives arrives.sent
  have behind : serveAddress { r with body } .registration = register { r with body } :=
    form_submits submits
  rcases valid : (Registration.checked w.platform r.submitted before.users.rows).valid? with _ | v
  · obtain ⟨reply, reached, ends, kept⟩ :=
      register_of_invalid (w := Step.nextSecond w) writes ((congrArg _ same).trans valid)
    rw [← behind] at ends
    have replies : outcome = .ok reply :=
      congrArg Prod.fst (run_serve (r := { r with body }) arrives.there ends)
    refine ⟨fun _ => (arrives.tells ends).2.trans kept, by simp, by simp, ?_⟩
    intro fault fails
    cases replies.symm.trans fails
  have accepted := (congrArg Registration.valid? same).trans valid
  rcases room : inRange before.users.next with _ | _
  · have ends := register_of_full (w := Step.nextSecond w) writes room accepted
    rw [← behind] at ends
    have fails : outcome = .error (.violation .full) :=
      congrArg Prod.fst (run_serve_of_full (r := { r with body }) arrives.there ends)
    have written : after = _ := arrives.database_take
    rw [ends] at written
    refine ⟨by simp, by simp, fun _ _ _ => ⟨written, fails⟩, ?_⟩
    intro fault stops
    cases fails.symm.trans stops
    exact ⟨rfl, rfl⟩
  · have ends :=
      run_register (r := { r with body }) (w := Step.nextSecond w) browser writes room accepted
    rw [← behind] at ends
    have replies : outcome = .ok (.redirect loginPath) :=
      congrArg Prod.fst (run_serve (r := { r with body }) arrives.there ends)
    obtain ⟨tells, written⟩ := arrives.tells ends
    have stored : after = before.put (.user (lastStored v (Step.nextSecond w))) :=
      written.trans database_afterRegistering
    refine ⟨by simp, ?_, by simp, ?_⟩
    · rintro _ ⟨⟩ -
      obtain ⟨first, free⟩ := Registration.of_valid? valid
      have unnamed := Registration.username_ne_of_valid? valid
      refine ⟨tells.target, _, .of_next stored rfl, rfl, rfl, ?_, rfl, rfl, rfl, first, ?_⟩
      · intro other member
        exact ⟨unnamed other member, free other member⟩
      · exact beq_self_eq_true v.password
    · intro fault stops
      cases replies.symm.trans stops

theorem arrives_newcomer (w : World) :
    (Step.request newcomerRegisters).Arrives .registration w newcomerRegisters newcomerRegisters where
  sent := rfl
  there := by decide +kernel
  arrives := rfl

/-- The newcomer to a site without users is added. -/
theorem registration_adds_one_or_none_newcomer :
    ∃ user, user.username = "carol" ∧ user.email = "carol@example.com" ∧
      emptySite.database.Gains ((Step.request newcomerRegisters).take emptySite).2.database
        (.user user) := by
  have told : (Registration.checked {} newcomerRegisters.submitted []).valid?.map
      (fun v => (Username.stored v.username, v.email)) = some ("carol", "carol@example.com") := by
    decide +kernel
  obtain ⟨v, valid, stored⟩ := Option.map_eq_some_iff.mp told
  obtain ⟨username, email⟩ := Prod.mk.inj stored
  obtain ⟨form, checks, -, adds, -⟩ :=
    registration_adds_one_or_none (arrives_newcomer emptySite) (by decide) rfl rfl
  rw [Registration.run_check (by decide)] at checks
  cases checks
  obtain ⟨-, user, gains, named, given, -⟩ := adds v valid (by decide)
  exact ⟨user, named.trans username, given.trans email, gains⟩

/-- A site with one user, who has the last number. -/
def fullTable : World :=
  { now := ⟨0⟩
    database := Database.put {} (.user { id := 9223372036854775807, username := "last",
                                         email := "last@example.org", dateJoined := ⟨0⟩,
                                         password := .plain "" }) }

def wideRegisters : Request :=
  { method := "POST", path := "/registration/", visitor := .browser "carol"
    body := .form { texts := [("username", ["Ａ"]), ("email", ["carol@example.com"]),
      ("password1", ["Str0ng-pass"]), ("password2", ["Str0ng-pass"])] } [] }

/-- A valid form may add nobody, and it may add a user under another name than the cleaned one. -/
theorem valid_registration_adds_nobody :
    ((Registration.checked {} newcomerRegisters.submitted fullTable.database.users.rows).valid?.map
        (fun v => v.username) = some "carol" ∧
      ((Step.request newcomerRegisters).take fullTable).2.database.users.rows.map User.username =
        ["last"]) ∧
    (Registration.checked {} wideRegisters.submitted []).valid?.map (fun v => v.username) =
        some "Ａ" ∧
      ((Step.request wideRegisters).take emptySite).2.database.users.rows.map User.username =
        ["A"] := by
  decide +kernel

end GridCommons
