import Triage.Number.Quantity
import Triage.Time.Stamp

namespace Triage

/-!
Values as rule files, settings files and stored columns hold them.

Only data from outside is a `Value`.  Each reader turns it into the type of what it reads,
and keeps the value itself only to show it in a complaint.
-/

/-- A value of a data file.  Mappings keep their entries in the order they were written. -/
inductive Value where
  | null
  | bool (b : Bool)
  | number (q : Quantity)
  | text (s : String)
  | bytes (bs : List UInt8)
  | date (d : Time.Date)
  | stamp (s : Stamp)
  | list (items : List Value)
  | pair (first second : Value)
  | set (items : List Value)
  | mapping (entries : List (Value × Value))
deriving Inhabited

namespace Value

def int (n : Int) : Value := .number (.whole n)

/-- A double as a value. -/
def float (x : Float) : Value := .number (.real x)

/-- A mapping with texts as keys. -/
def record (entries : List (String × Value)) : Value :=
  .mapping (entries.map fun entry => (.text entry.1, entry.2))

def texts (items : List String) : Value := .list (items.map .text)

/-- A text or nothing. -/
def textOrNull : Option String -> Value
  | some s => .text s
  | none => .null

def asText? : Value -> Option String
  | .text s => some s
  | _ => none

def asList? : Value -> Option (List Value)
  | .list items => some items
  | _ => none

/-- The quantity behind a number or a truth value, which counts as one or zero. -/
def asQuantity? : Value -> Option Quantity
  | .number q => some q
  | .bool b => some (.whole (if b then 1 else 0))
  | _ => none

/-- Whether a value counts as true: nothing that is empty, zero or absent does. -/
def isTruthy : Value -> Bool
  | .null => false
  | .bool b => b
  | .number q => !q.isZero
  | .text s => !s.isEmpty
  | .bytes bs => !bs.isEmpty
  | .date _ => true
  | .stamp _ => true
  | .list items => !items.isEmpty
  | .pair _ _ => true
  | .set items => !items.isEmpty
  | .mapping entries => !entries.isEmpty

/-- Whether a value may be the key of a mapping or the member of a set. -/
def isKey : Value -> Bool
  | .list _ => false
  | .set _ => false
  | .mapping _ => false
  | .pair first second => first.isKey && second.isKey
  | _ => true

/-- The first part of a value that keeps it from being a key. -/
def keyObstacle : Value -> Value
  | .pair first second => if first.isKey then second.keyObstacle else first.keyObstacle
  | other => other

/-- Whether two keys are the same key; numbers and truth values compare by quantity.  A document has
only one not-a-number, so this is the same key wherever it stands. -/
def sameKey : Value -> Value -> Bool
  | .null, .null => true
  | .text a, .text b => a == b
  | .bytes a, .bytes b => a == b
  | .date a, .date b => a == b
  | .stamp a, .stamp b => a.same b
  | .pair a b, .pair c d => a.sameKey c && b.sameKey d
  | a, b =>
      match a.asQuantity?, b.asQuantity? with
      | some p, some q => p.sameKey q
      | _, _ => false

/-- The value under a text key of a mapping. -/
def get? (key : String) : Value -> Option Value
  | .mapping entries => (entries.find? fun entry => entry.1.sameKey (.text key)).map (·.2)
  | _ => none

/-- Puts an entry into a mapping: a known key keeps its place and takes the new value. -/
def putEntry (entries : List (Value × Value)) (key value : Value) : List (Value × Value) :=
  if entries.any fun entry => entry.1.sameKey key then
    entries.map fun entry => if entry.1.sameKey key then (entry.1, value) else entry
  else entries ++ [(key, value)]

/-- The name of a value's kind. -/
def kindName : Value -> String
  | .null => "NoneType"
  | .bool _ => "bool"
  | .number (.whole _) => "int"
  | .number (.real _) => "float"
  | .text _ => "str"
  | .bytes _ => "bytes"
  | .date _ => "date"
  | .stamp _ => "datetime"
  | .list _ => "list"
  | .pair _ _ => "tuple"
  | .set _ => "set"
  | .mapping _ => "dict"

end Value
end Triage
