import GridCommons.Web.Request

/-!
Contract: where a visitor lands after signing in.

Owns: which targets may be followed.  A target stays on the site: it names no
other host, its scheme is one of the web, and it does not start in a way that
browsers read as another host.
-/

namespace GridCommons.Web.Landing

/-- The page without a target that may be followed. -/
def usual : String := "/profile/"

def isSchemeChar (c : Char) : Bool :=
  Text.isPlainLetter c || Text.isPlainDigit c || ['+', '-', '.'].contains c

def splitScheme (s : List Char) : String × List Char :=
  match splitAtFirst [':'] s with
  | (front, some rest) =>
    if front ≠ [] ∧ front.all isSchemeChar then
      (String.ofList (front.map Char.toLower), rest)
    else ("", s)
  | (_, none) => ("", s)

def hostOf : List Char → List Char
  | '/' :: '/' :: rest => rest.takeWhile fun c => !(['/', '?', '#'].contains c)
  | _ => []

/-- Both or none of two brackets stand in a host. -/
def bracketsPair (host : List Char) : Bool :=
  host.contains '[' == host.contains ']'

/-- A target, read in one way, stays on the site. -/
def staysOn (host : String) (target : List Char) : Bool :=
  let (scheme, rest) := splitScheme target
  let named := hostOf rest
  !(['/', '/', '/'].isPrefixOf target) && bracketsPair named && !(named.isEmpty && scheme ≠ "") &&
    !(target.head?.map Text.isControl).getD false &&
    (named.isEmpty || String.ofList named == host) && ["", "http", "https"].contains scheme

/-- A target may be followed.  It is read without blanks around it, and also with
slashes in place of backslashes. -/
def mayFollow (host target : String) : Bool :=
  let stripped := Text.strip target.toList
  let straight := stripped.map fun c => if c = '\\' then '/' else c
  !stripped.isEmpty && staysOn host stripped && staysOn host straight

/-- The target that a request asks for: the submitted one counts before the one of
the query. -/
def asked (r : Request) : String :=
  ((r.submitted.text? "next").or (r.param? "next")).getD ""

/-- Where a visitor lands after a request to sign in. -/
def target (r : Request) : String :=
  if mayFollow r.host (asked r) then asked r else usual

end GridCommons.Web.Landing
