import GridCommons.Form.Basic
import GridCommons.Text.Case
import GridCommons.Text.Entity

/-!
Contract: files as a request brings them.

Owns: the name that a sent file arrives with, and its content type in lower case
and without parameters.
-/

namespace GridCommons.Web

open Form

/-- The name that a sent file arrives with. -/
def arrivedName (name : String) : String :=
  let decoded := Text.Entity.decode name.toList
  let last := lastComponent '\\' (lastComponent '/' decoded)
  String.ofList (last.filter fun c => Text.isPrintablePoint c.toNat)

/-- The characters in front of the first semicolon that is not quoted.  A quotation
mark after a backslash counts as any other character. -/
def beforeParameters (quoted escaped : Bool) : List Char → List Char
  | [] => []
  | c :: rest =>
    if c = ';' ∧ !quoted then []
    else
      c :: beforeParameters (if c = '"' ∧ !escaped then !quoted else quoted) (c = '\\') rest

/-- The content type in front of its parameters, in lower case. -/
def bareType (contentType : String) : String :=
  let value := beforeParameters false false contentType.toList
  Text.trim (String.ofList (Text.lower value))

/-- A sent file as it arrives.  One without a usable name does not. -/
def arrived (upload : Upload) : Option Upload :=
  let name := arrivedName upload.name
  if unusableNames.contains name then none
  else some { upload with name, contentType := bareType upload.contentType }

end GridCommons.Web
