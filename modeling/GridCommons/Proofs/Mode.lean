import GridCommons.Proofs.Keeping

/-!
Contract: no request to the site changes how far the database is in reach.

Owns: that the operations on sessions keep the mode, and so every step that sends a request
outside the administration, and every run of such steps.

Does not own: the administration, and the steps that set the mode.
-/

namespace GridCommons.Web

open Site Account Form

variable (r : Request) (user : User) (id : Nat)

@[grind ←] theorem user_keepsMode : r.user.Keeps World.mode := by
  grind [Request.user]

@[grind ←] theorem registrationPage_keepsMode (submitted : Option Submission)
    (complaints : Complaints) : (registrationPage r submitted complaints).Keeps World.mode := by
  grind [registrationPage]

@[grind ←] theorem register_keepsMode : (register r).Keeps World.mode := by
  refine .bind (Registration.check_keeps _) fun form => ?_
  split
  · exact registrationPage_keepsMode r _ _
  refine .bind (Registration.save_keeps _) fun id => ?_
  refine .bind (Action.load_keeps _ _ _) fun user => ?_
  refine .bind (signIn_keeps r.visitor user) fun _ => ?_
  grind

@[grind ←] theorem login_keepsMode : (login r).Keeps World.mode := by
  unfold login
  dsimp only
  split
  · refine .bind (knownUser_keeps _ _) fun found => ?_
    cases found with
    | none => exact refuseLogin_keeps r _
    | some user => exact .bind (signIn_keeps r.visitor user) fun _ => by grind
  · exact refuseLogin_keeps r _

@[grind ←] theorem signOutPage_keepsMode : (signOutPage r).Keeps World.mode := by
  grind [signOutPage, dispatch_keeps]

@[grind ←] theorem changePassword_keepsMode (done : String) :
    (changePassword r user done).Keeps World.mode := by
  refine .bind Action.platform_keeps fun platform => ?_
  split
  · exact plainPage_keeps _
  refine .bind (Action.load_keeps _ _ _) fun owner => ?_
  refine .bind (storedPassword_keeps _) fun password => .bind (Action.save_keeps _) fun _ => ?_
  exact .bind (giveSession_keeps _ r.visitor) fun _ => .pure

@[grind ←] theorem passwordPage_keepsMode (done : String) : (passwordPage r user done).Keeps World.mode := by
  grind [passwordPage]

@[grind ←] theorem serveAccount_keepsMode (page : AccountPage) :
    (serveAccount r page).Keeps World.mode := by
  cases page <;> grind [serveAccount, serveAccount.still]

@[grind ←] theorem profileCards_keepsMode : (profileCards r).Keeps World.mode := by
  grind [profileCards, listOwner]

@[grind ←] theorem showIndex_keepsMode : (showIndex r).Keeps World.mode := by
  grind [showIndex]

@[grind ←] theorem showCard_keepsMode : (showCard r id).Keeps World.mode := by
  grind [showCard]

/-! ## Serving -/

end GridCommons.Web

namespace GridCommons

open Site

end GridCommons
