import GridCommons.Site.Describe
import GridCommons.Site.Moderation

/-!
Contract: the operations of single rows.

Owns: what each operation returns, and which kinds have it.
-/

namespace GridCommons.Site

inductive Operation where
  | describe
  | checkPassword (secret : String)
  | delete
  | toFile
  | block
  | unblock
  | safeBlock
  | safeUnblock
  | safeBan
  | likesCount
  | reportsCount
  | address
  | reasonShown
  | statusShown
deriving DecidableEq, Repr

def Operation.name : Operation → String
  | .describe => "str"
  | .checkPassword _ => "check_password"
  | .delete => "delete"
  | .toFile => "to_file"
  | .block => "block"
  | .unblock => "unblock"
  | .safeBlock => "safe_block"
  | .safeUnblock => "safe_unblock"
  | .safeBan => "safe_ban"
  | .likesCount => "likes_count"
  | .reportsCount => "reports_count"
  | .address => "get_absolute_url"
  | .reasonShown => "get_reason_display"
  | .statusShown => "get_status_display"

inductive CallResult where
  | nothing
  | flag (b : Bool)
  | text (s : String)
  | number (n : Nat)
  | deleted (total : Nat) (counts : List (String × Nat))
  | file (name : String) (data : Bytes)
deriving Repr

/-- The outcome of an operation: what it returned, and the draft as it then
stands. -/
structure CallOutcome where
  result : CallResult
  draft : Draft
deriving Repr

namespace Draft

/-- Set the flag that the row is blocked, and save the row whole. -/
def saveBlocked (flag : Bool) (d : Draft) : Action CallOutcome := do
  let changed := d.set "is_blocked" (.bool flag)
  let id ← changed.save
  return ⟨.nothing, changed.set "id" (.int id)⟩

/-- The number of users in a relation of a comment. -/
def memberCount (relation : Relation) (d : Draft) : Action Nat := do
  match d.id? with
  | some id => return (← Action.members relation id).length
  | none => Action.fail (.unsavedRelation ("<Comment: " ++ (← d.describe) ++ ">"))

def delete (d : Draft) : Action CallResult := do
  match d.id? with
  | none => Action.fail (.unsavedDeletion d.kind)
  | some id =>
    let counts := (← Action.query).deletionCounts [⟨d.kind, id⟩]
    Action.remove ⟨d.kind, id⟩
    let total := counts.foldl (fun total entry => total + entry.2) 0
    return .deleted total (counts.map fun (name, n) => ("main_app." ++ name, n))

def call (d : Draft) (operation : Operation) : Action CallOutcome := do
  let missing : Action CallOutcome := Action.fail (.noMember d.kind.label operation.name)
  match operation, d.kind with
  | .describe, _ => return ⟨.text (← d.describe), d⟩
  | .delete, _ => return ⟨← d.delete, d.set "id" .null⟩
  | .checkPassword secret, .user =>
    match d.id? with
    | some id =>
      match ← Action.lookup Database.users id with
      | some user => return ⟨.flag (user.password.accepts secret), d⟩
      | none => return ⟨.flag false, d⟩
    | none => return ⟨.flag false, d⟩
  | .toFile, .attachment =>
    return ⟨.file (d.column "name").toText ((d.column "data").asBytes?.getD []), d⟩
  | .block, .card | .block, .comment => d.saveBlocked true
  | .unblock, .card | .unblock, .comment => d.saveBlocked false
  | .safeBlock, .comment =>
    return ⟨.flag (← Moderation.safeBlockComment d.id?), d.set "is_blocked" (.bool true)⟩
  | .safeUnblock, .card =>
    return ⟨.flag (← Moderation.safeUnblockCard d.id?), d.set "is_blocked" (.bool false)⟩
  | .safeBan, .user =>
    return ⟨.flag (← Moderation.safeBan d.id?), d.set "is_active" (.bool false)⟩
  | .likesCount, .comment => return ⟨.number (← d.memberCount .commentLikes), d⟩
  | .reportsCount, .comment => return ⟨.number (← d.memberCount .commentReports), d⟩
  | .address, .card =>
    match d.id? with
    | some id => return ⟨.text ("/cards/" ++ toString id ++ "/"), d⟩
    | none => Action.fail (.noRoute "card-detail" (.named [("pk", (d.column "id").toJson)]))
  | .reasonShown, .cardReport => return ⟨.text d.reasonShown, d⟩
  | .statusShown, .cardReport => return ⟨.text d.statusShown, d⟩
  | _, _ => missing

end Draft

end GridCommons.Site
