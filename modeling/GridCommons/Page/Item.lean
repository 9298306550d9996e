import GridCommons.Form.Basic
import GridCommons.Json.Value

/-!
Contract: pages as a visitor reads them.

Owns:
- the items of a page in reading order: texts, links, targets of forms, values of
  inputs, and marks of chosen options;
- a page: its name, what it shows as data, the state of its form, and its items.
-/

namespace GridCommons.Page

open GridCommons.Json (Value)

inductive Item where
  | text (s : String)
  | link (path : String)
  | target (path : String)
  | input (name : Option String) (value : String)
  | chosen
deriving DecidableEq, Repr

/-- A text between two marks, as it stands in the page's source. -/
def say (s : String) : List Item := [.text s]

/-- A link with its text; only a link inside the site shows where it leads. -/
def linkTo (path text : String) : List Item :=
  (if path.toList.head? = some '/' then [.link path] else []) ++ say text

end GridCommons.Page

namespace GridCommons

inductive FormState where
  | unbound
  | bound (complaints : Form.Complaints)
deriving Repr

structure Page where
  name : String
  data : List (String × Json.Value) := []
  form : Option FormState := none
  items : List Page.Item := []
deriving Repr

end GridCommons
