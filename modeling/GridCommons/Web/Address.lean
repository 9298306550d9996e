import GridCommons.Web.Route

/-!
Contract: the addresses of the site.

Owns:
- what an address names: a page or operation together with its parameters;
- the table of routes, in which the first route that fits a path counts;
- resolving a path, and the path of a named route, where the last route of a name
  that fits counts.
-/

namespace GridCommons.Web

open GridCommons.Json (Value)

inductive AdminSection where
  | groups
  | cards
  | reports
deriving DecidableEq, Repr

inductive AdminPage where
  | index
  | login
  | logout
  | passwordChange
  | passwordChangeDone
  | autocomplete
  | translations
  | viewOnSite (contentType object : String)
  | list (area : AdminSection)
  | add (area : AdminSection)
  | history (area : AdminSection) (object : String)
  | delete (area : AdminSection) (object : String)
  | change (area : AdminSection) (object : String)
  | object (area : AdminSection) (object : String)
  | applications (label : String)
  | panel
  | changeStatus (report : Nat)
  | unknown (path : String)
deriving DecidableEq, Repr

/-- Pages for the own account that the site takes over as they are. -/
inductive AccountPage where
  | login
  | logout
  | passwordChange
  | passwordChangeDone
  | passwordReset
  | passwordResetDone
  | passwordResetConfirm (user token : String)
  | passwordResetComplete
deriving DecidableEq, Repr

inductive Address where
  | admin (page : AdminPage)
  | index
  | profileUpdate
  | registration
  | login
  | card (id : Nat)
  | toggleLike (id : Nat)
  | toggleFavorite (id : Nat)
  | search
  | reportCard (id : Nat)
  | addComment (id : Nat)
  | toggleCommentLike (id : Nat)
  | reportComment (id : Nat)
  | cardState (id : Nat)
  | addWall
  | removeWall (id : Nat)
  | account (page : AccountPage)
  | logout
  | about
  | goals
  | ownProfile
  | profile (username : String)
  | addProfileNote (username : String)
  | deleteProfileNote (id : Nat)
  | createCard
  | download (id : Nat)
  | moderation
  | resolveCardReport (id : Nat)
  | resolveCommentReport (id : Nat)
  | unblock (content : String) (id : Nat)
  | profileCards
  | docs
  | block (content : String) (id : Nat)
  | unblockAsStaff (content : String) (id : Nat)
deriving DecidableEq, Repr

/-- A route: its pattern, its name, and the address of a path that fits.  A route
without a name is known by its page. -/
structure Route where
  pattern : List Segment
  name : Option String
  address : List Param → Option Address
  inAdmin : Bool := false

namespace Route

def plain (path name : String) (address : Address) : Route :=
  { pattern := [.fixed path], name := some name,
    address := fun | [] => some address | _ => none }

/-- A route with a number between two fixed pieces. -/
def numbered (start parameter stop name : String) (address : Nat → Address) : Route :=
  { pattern := [.fixed start, .number parameter, .fixed stop], name := some name,
    address := fun | [.number n] => some (address n) | _ => none }

/-- A route with a word between two fixed pieces. -/
def worded (start parameter stop name : String) (address : String → Address) : Route :=
  { pattern := [.fixed start, .word parameter, .fixed stop], name := some name,
    address := fun | [.word s] => some (address s) | _ => none }

def content (start name : String) (address : String → Nat → Address) : Route :=
  { pattern := [.fixed start, .word "content_type", .fixed "/", .number "content_id", .fixed "/"],
    name := some name, address := fun | [.word s, .number n] => some (address s n) | _ => none }

def admin (path name : String) (page : AdminPage) : Route :=
  { plain ("admin/" ++ path) name (.admin page) with inAdmin := true }

def sectionPath : AdminSection → String
  | .groups => "auth/group/"
  | .cards => "main_app/field/"
  | .reports => "main_app/fieldreport/"

def sectionName : AdminSection → String
  | .groups => "auth_group"
  | .cards => "main_app_field"
  | .reports => "main_app_fieldreport"

def object (area : AdminSection) (stop : String) (name : Option String)
    (page : String → AdminPage) : Route :=
  { pattern := [.fixed ("admin/" ++ sectionPath area), .path "object_id", .fixed ("/" ++ stop)],
    name, inAdmin := true,
    address := fun | [.word s] => some (.admin (page s)) | _ => none }

def ofSection (area : AdminSection) : List Route :=
  let path := sectionPath area
  let name := sectionName area
  [admin path (name ++ "_changelist") (.list area), admin (path ++ "add/") (name ++ "_add") (.add area),
    object area "history/" (some (name ++ "_history")) (.history area),
    object area "delete/" (some (name ++ "_delete")) (.delete area),
    object area "change/" (some (name ++ "_change")) (.change area),
    object area "" none (.object area)]

def panel : List Route :=
  let path := sectionPath .reports ++ "moderation-panel/"
  [admin path "fieldreport_moderation_panel" .panel,
    { numbered ("admin/" ++ path) "report_id" "/change-status/" "fieldreport_change_status"
        (fun n => .admin (.changeStatus n)) with inAdmin := true }]

def administration : List Route :=
  [admin "" "index" .index, admin "login/" "login" .login, admin "logout/" "logout" .logout,
    admin "password_change/" "password_change" .passwordChange,
    admin "password_change/done/" "password_change_done" .passwordChangeDone,
    admin "autocomplete/" "autocomplete" .autocomplete, admin "jsi18n/" "jsi18n" .translations,
    { pattern := [.fixed "admin/r/", .path "content_type_id", .fixed "/", .path "object_id", .fixed "/"],
      name := some "view_on_site", inAdmin := true,
      address := fun | [.word a, .word b] => some (.admin (.viewOnSite a b)) | _ => none }] ++
    ofSection .groups ++ ofSection .cards ++ panel ++ ofSection .reports ++
    [{ pattern := [.fixed "admin/", .oneOf "app_label" ["auth", "main_app"], .fixed "/"],
       name := some "app_list", inAdmin := true,
       address := fun | [.word s] => some (.admin (.applications s)) | _ => none },
     { pattern := [.fixed "admin/", .remainder "url"], name := none, inAdmin := true,
       address := fun | [.word s] => some (.admin (.unknown s)) | _ => none }]

def accounts : List Route :=
  [plain "accounts/login/" "login" (.account .login),
    plain "accounts/logout/" "logout" (.account .logout),
    plain "accounts/password_change/" "password_change" (.account .passwordChange),
    plain "accounts/password_change/done/" "password_change_done" (.account .passwordChangeDone),
    plain "accounts/password_reset/" "password_reset" (.account .passwordReset),
    plain "accounts/password_reset/done/" "password_reset_done" (.account .passwordResetDone),
    { pattern := [.fixed "accounts/reset/", .word "uidb64", .fixed "/", .word "token", .fixed "/"],
      name := some "password_reset_confirm",
      address := fun
        | [.word user, .word token] => some (.account (.passwordResetConfirm user token))
        | _ => none },
    plain "accounts/reset/done/" "password_reset_complete" (.account .passwordResetComplete)]

/-- All routes, in the order in which they are tried. -/
def table : List Route :=
  administration ++
  [plain "" "index" .index, plain "profile_update/" "profile_update" .profileUpdate,
    plain "registration/" "registration" .registration, plain "accounts/login/" "login" .login,
    numbered "cards/" "pk" "/" "card-detail" .card,
    numbered "cards/" "pk" "/toggle-like/" "toggle-like" .toggleLike,
    numbered "cards/" "pk" "/toggle-favorite/" "toggle-favorite" .toggleFavorite,
    plain "api/search/" "search_api" .search,
    numbered "cards/" "field_id" "/report/" "report_field" .reportCard,
    numbered "cards/" "pk" "/add-comment/" "add_comment" .addComment,
    numbered "comments/" "pk" "/toggle-like/" "toggle_comment_like" .toggleCommentLike,
    numbered "comments/" "pk" "/report/" "report_comment" .reportComment,
    numbered "field/" "pk" "/" "field_detail" .card,
    numbered "api/field/" "pk" "/toggle-like/" "toggle_like" .toggleLike,
    numbered "api/field/" "pk" "/toggle-favorite/" "toggle_favorite" .toggleFavorite,
    numbered "api/field/" "pk" "/add-comment/" "add_comment" .addComment,
    numbered "api/comment/" "pk" "/toggle-like/" "toggle_comment_like" .toggleCommentLike,
    numbered "api/comment/" "pk" "/report/" "report_comment" .reportComment,
    numbered "api/field/" "pk" "/state/" "field_state" .cardState,
    plain "api/walls/add/" "add_wall" .addWall,
    numbered "api/walls/" "pk" "/remove/" "remove_wall" .removeWall,
    plain "api/search/" "search_fields" .search] ++
  accounts ++
  [plain "logout/" "logout" .logout, plain "about/" "about" .about, plain "goals/" "goals" .goals,
    plain "profile/" "profile" .ownProfile,
    worded "profile/" "username" "/" "profile_view" .profile,
    worded "profile/" "username" "/comment/" "add_profile_comment" .addProfileNote,
    numbered "profile/comment/" "comment_id" "/delete/" "delete_profile_comment" .deleteProfileNote,
    plain "fields/create/" "create_field" .createCard,
    numbered "files/download/" "pk" "/" "download_file" .download,
    plain "moderation/" "moderation_panel" .moderation,
    numbered "moderation/field/" "report_id" "/" "resolve_field_report" .resolveCardReport,
    numbered "moderation/comment/" "report_id" "/" "resolve_comment_report" .resolveCommentReport,
    content "moderation/unblock/" "unblock_content" .unblock,
    plain "api/profile/fields/" "profile_fields_api" .profileCards,
    { plain "docs/" "" .docs with name := none },
    content "moderation/block/" "block_content" .block,
    content "moderation/unblock/" "unblock_content" .unblockAsStaff]

end Route

/-- A path that was resolved: the route, its parameters by name, and the
address. -/
structure Resolved where
  route : Route
  params : List (String × Param)
  address : Address

/-- Resolve the part of a path after its first slash. -/
def resolveIn (routes : List Route) (rest : List Char) : Option Resolved :=
  routes.findSome? fun route =>
    (matchSegments route.pattern rest).bind fun params =>
      (route.address params).map fun address =>
        { route, params := (route.pattern.filterMap Segment.name?).zip params, address }

def resolve (path : String) : Option Resolved :=
  match path.toList with
  | '/' :: rest => resolveIn Route.table rest
  | _ => none

def addressOf (path : String) : Option Address :=
  (resolve path).map Resolved.address

/-- Split a name at its first colons: the spaces it is in, and the name. -/
def splitSpaces (name : String) : List String × String :=
  let parts := (Text.pieces ':' name.toList).map String.ofList
  (parts.dropLast, parts.getLast?.getD "")

/-- The path of a named route with arguments. -/
def reverse (name : String) (args : List Value) : Except Fault String :=
  match splitSpaces name with
  | ([], label) => search false label
  | (["admin"], label) => search true label
  | ("admin" :: space :: _, _) => .error (.unknownNamespace space ["admin"])
  | (space :: _, _) => .error (.unknownNamespace space [])
where
  /-- Look for the last fitting route of a name. -/
  search (inAdmin : Bool) (name : String) : Except Fault String :=
    let named := Route.table.filter fun route => route.inAdmin == inAdmin && route.name == some name
    let filled := named.reverse.findSome? fun route => do
      let path ← fillSegments route.pattern (args.map argumentText)
      let _ ← matchSegments route.pattern path.toList
      return "/" ++ Text.Percent.encode addressSafe path
    match filled, named with
    | some path, _ => .ok path
    | none, [] => .error (.unknownRoute name)
    | none, _ =>
      .error (.noRoute name (match args with | [] => .absent | args => .positional args))

end GridCommons.Web
