import GridCommons.Web.Reading
import GridCommons.Web.SearchWords

/-!
Contract: the lists of the administration.

Owns:
- a list: its rows in their own order, the texts that a search looks at, the
  filters, and the columns by which the rows can be sorted;
- which rows a query selects, and in which order;
- the list of cards and the list of complaints.

Does not own: what is done with selected rows.
-/

namespace GridCommons.Web

open Site

/-- A list of rows of one kind.  A filter that the list does not know, or a value
that a filter cannot read, is `none`. -/
structure Listing (α : Type) where
  kind : Kind
  rows : List α
  texts : α → List String
  kept : String → String → Option (α → Bool)
  columns : List (α → α → Ordering)

namespace Listing

variable {α : Type}

def otherParameters : List String :=
  ["q", "o", "p", "e", "all", "_facets", "_popup", "_to_field"]

/-- The filters that a query asks for.  Of several values of one parameter each
will do. -/
def filters (l : Listing α) (query : String) : Option (List (α → Bool)) :=
  ((collectPairs (queryPairs query)).filter fun entry => !otherParameters.contains entry.1).mapM
    fun (name, values) => do
      let each ← values.mapM (l.kept name)
      return fun row => each.any fun keeps => keeps row

/-- The rows in which each word of a search stands somewhere, and that all filters
keep. -/
def select (l : Listing α) (words : List String) (keeping : List (α → Bool)) : List α :=
  l.rows.filter fun row =>
    (words.all fun word => (l.texts row).any fun text => holds text word) &&
      keeping.all fun keeps => keeps row

/-- The comparison that one part of an order asks for: the number of a column, after
a dash from the greatest down.  Column zero holds the marks of selected rows. -/
def comparison? (l : Listing α) (part : String) : Option (α → α → Ordering) :=
  let digits := (part.toList.reverse.takeWhile fun c => c ≠ '-').reverse
  let falling := digits.length < part.length
  match Numeral.read digits with
  | .ok (.ofNat (n + 1)) =>
    (l.columns.drop n).head?.map fun compare a b => if falling then compare b a else compare a b
  | _ => none

/-- Rows in the order that is asked for; rows that it does not tell apart keep their
own order. -/
def sort (l : Listing α) (order : String) (rows : List α) : List α :=
  let parts := (Text.pieces '.' order.toList).map String.ofList
  (parts.filterMap l.comparison?).foldr
    (fun compare sorted => sorted.mergeSort fun a b => (compare a b).isLE) rows

def searchText (r : Request) : String :=
  (r.param? "q").getD ""

/-- A search that holds a null character is refused, and nothing is searched for. -/
def searchRefused (r : Request) : Bool :=
  (searchText r).toList.contains '\x00'

def asked? (l : Listing α) (r : Request) : Option (List α) := do
  let keeping ← l.filters r.query
  let words := if searchRefused r then [] else SearchWords.split (searchText r)
  return l.sort ((r.param? "o").getD "") (l.select words keeping)

def pageLength : Nat := 100

def page [Numbered α] (rows : List α) : Reply :=
  .ofPage { name := "admin/change_list.html"
            data := [("cl", Page.numbers ((rows.take pageLength).map Numbered.id))] }

/-- Leave out filters that the list does not have.  A second attempt that fails shows
that the site is set up wrongly. -/
def withoutFilters (r : Request) : Reply :=
  if (r.param? "e").isSome then .ofPage { name := "admin/invalid_setup.html" }
  else .redirect (Text.Percent.encode querySafe (r.path ++ "?e=1"))

end Listing

/-! ## Values of filters -/

/-- A truth value as a filter writes it. -/
def flagOf? : String → Option Bool
  | "1" | "t" | "True" => some true
  | "0" | "f" | "False" => some false
  | _ => none

def numberOf? (s : String) : Option Int :=
  (Numeral.read s.toList).toOption

def instantOf? (s : String) : Option Instant :=
  (Instant.read s.toList).toOption

/-- The filters by an instant: from one on, or before one. -/
def instantFilter {α : Type} (time : α → Instant) (bound value : String) : Option (α → Bool) :=
  match bound with
  | "gte" => (instantOf? value).map fun t row => decide (t.seconds ≤ (time row).seconds)
  | "lt" => (instantOf? value).map fun t row => decide ((time row).seconds < t.seconds)
  | _ => none

/-! ## The lists -/

/-- The filters of cards.  Where there is only one user, nothing is filtered by
users. -/
def cardFilter (users : Nat) (name value : String) : Option (Card → Bool) :=
  match name with
  | "title" | "title__exact" => some fun card => card.title == value
  | "description" | "description__exact" => some fun card => card.description == value
  | "id" | "id__exact" => (numberOf? value).map fun n card => (card.id : Int) == n
  | "user__id__exact" =>
    if users ≤ 1 then some fun _ => true
    else (numberOf? value).map fun n card => (card.userId : Int) == n
  | "user" | "user__exact" | "user__id" =>
    (numberOf? value).map fun n card => (card.userId : Int) == n
  | "created_at__gte" => instantFilter Card.createdAt "gte" value
  | "created_at__lt" => instantFilter Card.createdAt "lt" value
  | "is_blocked" | "is_blocked__exact" => (flagOf? value).map fun flag card => card.isBlocked == flag
  | "cols" | "cols__exact" => (numberOf? value).map fun n card => card.cols == n
  | "rows" | "rows__exact" => (numberOf? value).map fun n card => card.rows == n
  | _ => none

def reportFilter (name value : String) : Option (CardReport → Bool) :=
  match name with
  | "status" | "status__exact" => some fun report => report.status == value
  | "reason" | "reason__exact" => some fun report => report.reason == value
  | "description" | "description__exact" => some fun report => report.description == some value
  | "is_resolved" | "is_resolved__exact" =>
    (flagOf? value).map fun flag report => report.isResolved == flag
  | "id" | "id__exact" => (numberOf? value).map fun n report => (report.id : Int) == n
  | "field" | "field__exact" | "field__id" | "field__id__exact" =>
    (numberOf? value).map fun n report => (report.cardId : Int) == n
  | "user" | "user__exact" | "user__id" | "user__id__exact" =>
    (numberOf? value).map fun n report => report.userId.map Int.ofNat == some n
  | _ => none

/-- The list of cards, the latest number first. -/
def cardListing (d : Database) : Listing Card :=
  { kind := .card
    rows := d.cards.rows.reverse
    texts := fun card => [card.title, card.description]
    kept := cardFilter d.users.rows.length
    columns := [compareOn Card.title, compareOn Card.userId,
      compareOn fun card => card.createdAt.seconds] }

/-- The list of complaints, the newest first. -/
def reportListing (d : Database) : Listing CardReport :=
  { kind := .cardReport
    rows := newestFirst CardReport.createdAt d.cardReports.rows.reverse
    texts := fun report =>
      ((d.cards.find? report.cardId).map Card.title).toList ++
        ((report.userId.bind d.users.find?).map User.username).toList ++ report.description.toList
    kept := reportFilter
    columns := [compareOn CardReport.cardId, compareOn CardReport.userId,
      compareOn CardReport.reason, compareOn CardReport.status,
      compareOn fun report => report.createdAt.seconds,
      compareOn fun report => report.isResolved.toNat] }

end GridCommons.Web
