import GridCommons.Json.Value
import GridCommons.Text.Base64
import GridCommons.Time.Reader

/-!
Contract: a single value of a column.

Owns:
- the values that columns hold and that callers hand in for them;
- their JSON form in answers, and the values that JSON hands in.

A run of bytes is an object with one key in JSON.
-/

namespace GridCommons.Site

open GridCommons.Json (Value)

inductive Datum where
  | null
  | bool (b : Bool)
  | int (n : Int)
  | double (d : Double)
  | text (s : String)
  | bytes (data : Bytes)
  | instant (t : Instant)
  | date (d : Date)
  | numbers (ids : List Nat)
deriving Repr

namespace Datum

def shown : Datum → String
  | .null => "None"
  | .bool b => (Value.bool b).shown
  | .int n => (Value.int n).shown
  | .double d => (Value.double d).shown
  | .text s => (Value.text s).shown
  | .bytes data => Base64.toText data
  | .instant t => t.toText
  | .date d => d.toText
  | .numbers ids => (Value.arr (ids.map Value.nat)).shown

def toText : Datum → String
  | .text s => s
  | d => d.shown

def toJson : Datum → Value
  | .null => .null
  | .bool b => .bool b
  | .int n => .int n
  | .double d => .double d
  | .text s => .text s
  | .bytes data => .object [("b64", .text (Base64.toText data))]
  | .instant t => .text t.toText
  | .date d => .text d.toText
  | .numbers ids => .arr (ids.map .nat)

def ofJson : Value → Datum
  | .null => .null
  | .bool b => .bool b
  | .int n => .int n
  | .double d => .double d
  | .str (.whole s) => .text s
  | .str (.broken _) => .null
  | .arr items => .numbers (items.filterMap fun v => v.asInt?.map Int.toNat)
  | v@(.obj _) =>
    match ((v.get? "b64").bind Value.asString?).bind fun s => Base64.decode s.toList with
    | some data => .bytes data
    | none => .null

def ofOption {α : Type} (inject : α → Datum) : Option α → Datum
  | some a => inject a
  | none => .null

def isNull : Datum → Bool
  | .null => true
  | _ => false

def isBlank : Datum → Bool
  | .null => true
  | .text s => s.isEmpty
  | .bytes data => data.isEmpty
  | .numbers ids => ids.isEmpty
  | _ => false

def asInt? : Datum → Option Int
  | .int n => some n
  | .bool b => some (if b then 1 else 0)
  | _ => none

def asId? : Datum → Option Nat
  | .int (.ofNat n) => some n
  | _ => none

def asText? : Datum → Option String
  | .text s => some s
  | _ => none

def asBool? : Datum → Option Bool
  | .bool b => some b
  | _ => none

def asBytes? : Datum → Option Bytes
  | .bytes data => some data
  | _ => none

def asInstant? : Datum → Option Instant
  | .instant t => some t
  | _ => none

def asDate? : Datum → Option Date
  | .date d => some d
  | _ => none

/-- A missing value, or one that a reader takes. -/
def optional? {α : Type} (read : Datum → Option α) : Datum → Option (Option α)
  | .null => some none
  | d => (read d).map some

end Datum

end GridCommons.Site
