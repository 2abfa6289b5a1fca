import Triage.Value.Display
import Triage.Failure
import Triage.Number.Reading

namespace Triage
namespace Value

/-!
Conversions of values that were not checked as fields.

Stored columns and settings are taken more liberally than the fields of records: numbers lose
their fractions, texts are read, and every text is a row of characters.
-/

/-- The name of a value's kind, with the family that days and stamps belong to. -/
def fullKindName : Value -> String
  | .date _ => "datetime.date"
  | .stamp _ => "datetime.datetime"
  | other => other.kindName

/-- The whole number of a value; a fraction is cut off toward zero. -/
def toWhole (value : Value) : Except Failure Int :=
  match value with
  | .bool b => .ok (if b then 1 else 0)
  | .number (.whole n) => .ok n
  | .number (.real x) =>
      match Number.shape x with
      | .finite dyadic => .ok dyadic.scaled.truncate
      | .infinite _ => .error (.outOfRange "cannot convert float infinity to integer")
      | .notANumber => .error (.badValue "cannot convert float NaN to integer")
  | .text s => (Number.readInt s).mapError fun fault => .badValue fault.message
  | other => .error (.wrongType
      ("int() argument must be a string, a bytes-like object or a real number, not '" ++
        other.fullKindName ++ "'"))

/-- The double of a value. -/
def toReal (value : Value) : Except Failure Float :=
  match value with
  | .text s =>
      match Number.readFloat? s with
      | some x => .ok x
      | none => .error (.badValue (Number.floatFaultMessage s))
  | other =>
      match other.asQuantity? with
      | some q =>
          match q.toFloat? with
          | some x => .ok x
          | none => .error (.outOfRange "int too large to convert to float")
      | none => .error (.wrongType
          ("float() argument must be a string or a real number, not '" ++
            other.fullKindName ++ "'"))

/-- The items of a value: the characters of a text, and the keys of a mapping. -/
def toItems (value : Value) : Except Failure (List Value) :=
  match value with
  | .list items => .ok items
  | .pair first second => .ok [first, second]
  | .set items => .ok items
  | .mapping entries => .ok (entries.map Prod.fst)
  | .text s => .ok (s.toList.map fun c => .text c.toString)
  | .bytes bs => .ok (bs.map fun b => .int b.toNat)
  | other => .error (.wrongType ("'" ++ other.fullKindName ++ "' object is not iterable"))

/-- Whether a text is among the items of a value, or within a text. -/
def mentions (word : String) (value : Value) : Except Failure Bool :=
  match value with
  | .text s => .ok ((s.splitOn word).length > 1 || word.isEmpty)
  | other =>
      match other.toItems with
      | .ok items => .ok (items.any fun item => item.sameKey (.text word))
      | .error _ => .error (.wrongType
          ("argument of type '" ++ other.fullKindName ++ "' is not iterable"))

/-- What a value holds under a word. -/
def under (word : String) (value : Value) : Except Failure Value :=
  match value with
  | .mapping _ =>
      match value.get? word with
      | some found => .ok found
      | none => .error (.missingKey word)
  | .text _ => .error (.wrongType "string indices must be integers, not 'str'")
  | .list _ => .error (.wrongType "list indices must be integers or slices, not str")
  | other => .error (.wrongType ("'" ++ other.fullKindName ++ "' object is not subscriptable"))

/-- A member that a value of its kind does not have. -/
def noMember (name : String) (value : Value) : Failure :=
  .plain .missingMember
    ("'" ++ value.fullKindName ++ "' object has no attribute '" ++ name ++ "'")

/-- What a mapping holds under a word, or something else where it holds nothing. -/
def getOr (word : String) (value absent : Value) : Except Failure Value :=
  match value with
  | .mapping _ => .ok ((value.get? word).getD absent)
  | other => .error (other.noMember "get")

/-- The complaint about two values without an order. -/
def noOrder (mark : String) (a b : Value) : Failure :=
  .wrongType ("'" ++ mark ++ "' not supported between instances of '" ++ a.fullKindName ++
    "' and '" ++ b.fullKindName ++ "'")

/-- Whether one value lies strictly below another; only texts and numbers have an order. -/
def isBelow (a b : Value) : Except Failure Bool :=
  match a, b with
  | .text s, .text t => .ok (s < t)
  | _, _ =>
      match a.asQuantity?, b.asQuantity? with
      | some p, some q => .ok (p.lt q)
      | _, _ => .error (noOrder "<" a b)

/-- Whether one value does not lie above another. -/
def isAtMost (a b : Value) : Except Failure Bool :=
  match a, b with
  | .text s, .text t => .ok (s ≤ t)
  | _, _ =>
      match a.asQuantity?, b.asQuantity? with
      | some p, some q => .ok (p.le q)
      | _, _ => .error (noOrder "<=" a b)

/-- The distinct items among values, in the order in which they first occur. -/
def distinct (items : List Value) : Except Failure (List Value) :=
  items.foldlM
    (fun seen item =>
      if !item.isKey then .error (.unusableKey item)
      else .ok (if seen.any (·.sameKey item) then seen else seen ++ [item]))
    []

/-- Puts a value into its place among sorted ones, behind those that are not above it. -/
def insertSorted (value : Value) : List Value -> Except Failure (List Value)
  | [] => .ok [value]
  | first :: rest => do
      if <- value.isBelow first then pure (value :: first :: rest)
      else pure (first :: (<- insertSorted value rest))

/-- Values in ascending order. -/
def sorted (items : List Value) : Except Failure (List Value) :=
  items.foldlM (fun done item => insertSorted item done) []

/-! ## Mappings

A list of pairs makes a mapping as well, and so does anything empty that has items.
-/

/-- The key and the value of one item of what is to become a mapping. -/
def toPair (place : Nat) (item : Value) : Except Failure (Value × Value) :=
  match item.toItems with
  | .error _ => .error (.wrongType
      ("cannot convert dictionary update sequence element #" ++ toString place ++
        " to a sequence"))
  | .ok [key, value] => if key.isKey then .ok (key, value) else .error (.unusableKey key)
  | .ok items => .error (.badValue
      ("dictionary update sequence element #" ++ toString place ++ " has length " ++
        toString items.length ++ "; 2 is required"))

/-- The mapping that a value makes. -/
def toMapping (value : Value) : Except Failure Value :=
  match value with
  | .mapping entries => .ok (.mapping entries)
  | other => do
      let items <- other.toItems
      let pairs <- items.zipIdx.mapM fun item => toPair item.2 item.1
      pure (.mapping (pairs.foldl (fun entries pair => putEntry entries pair.1 pair.2) []))

end Value
end Triage
