import GridCommons.Script.BoundedInt
import GridCommons.Script.Grid

/-!
Contract: one run of script primitives over named variables and tokens.

Owns:
- the workspace of variables and tokens, found by the name they were stored under;
- the steps of a run and the answer to each;
- the rule that a refused step stores nothing.
-/

namespace GridCommons.Script

/-- A lexical token: its text and the number of its type. -/
structure Token where
  source : String := ""
  kind : Word := 0
deriving DecidableEq, Repr

structure Workspace where
  bindings : List (String × BoundedInt) := []
  tokens : List (String × Token) := []
deriving Repr

inductive Step where
  | declare (name : String) (value : Word)
  | setBounds (name : String) (lower upper : Word)
  | validate (name : String)
  | can (left : String) (op : Operation) (right : String)
  | update (left : String) (op : Operation) (right : String)
  | combine (target left : String) (op : Operation) (right : String)
  | sameCoord (a b : Coord)
  | coordBefore (a b : Coord)
  | originCoord
  | blankSquare
  | command (c : Command)
  | showToken (name : String)
  | storeToken (name : String) (token : Token)
  | setTokenKind (name : String) (kind : Word)
  | setTokenSource (name : String) (source : String)
deriving Repr

inductive Answer where
  | flag (b : Bool)
  | stored (name : String) (value : Word)
  | coord (c : Coord)
  | square (s : Square)
  | command (c : Command)
  | token (t : Token)
  | refused (cause : Refusal)
  | unbound
deriving DecidableEq, Repr

namespace Workspace

/-- The entry stored under a name. -/
def lookup {α : Type} (name : String) (entries : List (String × α)) : Option α :=
  (entries.find? fun entry => entry.1 == name).map Prod.snd

/-- Store an entry, replacing what stood under its name. -/
def store {α : Type} (name : String) (entry : α) (entries : List (String × α)) :
    List (String × α) :=
  (name, entry) :: entries.filter fun other => other.1 != name

/-- The variable stored under a name. -/
def find? (w : Workspace) (name : String) : Option BoundedInt :=
  lookup name w.bindings

def setVariable (w : Workspace) (name : String) (a : BoundedInt) : Workspace :=
  { w with bindings := store name a w.bindings }

/-- The token stored under a name; a fresh token where there is none. -/
def token (w : Workspace) (name : String) : Token :=
  (lookup name w.tokens).getD {}

def setToken (w : Workspace) (name : String) (t : Token) : Workspace :=
  { w with tokens := store name t w.tokens }

/-- Apply an operation to two stored variables and store the result. -/
def arithmetic (w : Workspace) (target left : String) (op : Operation) (right : String) :
    Answer × Workspace :=
  match w.find? left, w.find? right with
  | some a, some b =>
    match BoundedInt.apply op a b with
    | .ok result => (.stored result.name result.value, w.setVariable target result)
    | .error cause => (.refused cause, w)
  | _, _ => (.unbound, w)

def step (w : Workspace) : Step → Answer × Workspace
  | .declare name value => (.stored name value, w.setVariable name { name, value })
  | .setBounds name lower upper =>
    match w.find? name with
    | some a =>
      let narrowed := { a with lower, upper }
      (.flag narrowed.inBounds, w.setVariable name narrowed)
    | none => (.unbound, w)
  | .validate name =>
    match w.find? name with
    | some a => (.flag a.inBounds, w)
    | none => (.unbound, w)
  | .can left op right =>
    match w.find? left, w.find? right with
    | some a, some b => (.flag (BoundedInt.can op a b).value, w)
    | _, _ => (.unbound, w)
  | .update left op right => w.arithmetic left left op right
  | .combine target left op right => w.arithmetic target left op right
  | .sameCoord a b => (.flag (a == b), w)
  | .coordBefore a b => (.flag (a.before b), w)
  | .originCoord => (.coord {}, w)
  | .blankSquare => (.square {}, w)
  | .command c => (.command c, w)
  | .showToken name => (.token (w.token name), w.setToken name (w.token name))
  | .storeToken name t => (.token t, w.setToken name t)
  | .setTokenKind name kind =>
    let t := { w.token name with kind }
    (.token t, w.setToken name t)
  | .setTokenSource name source =>
    let t := { w.token name with source }
    (.token t, w.setToken name t)

/-- The answers to a list of steps, from an empty workspace. -/
def run (steps : List Step) : List Answer :=
  go {} steps
where
  go (w : Workspace) : List Step → List Answer
    | [] => []
    | s :: rest =>
      let (answer, w') := w.step s
      answer :: go w' rest

end Workspace

end GridCommons.Script
