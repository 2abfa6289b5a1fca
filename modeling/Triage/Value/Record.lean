import Triage.Value.Display

namespace Triage
namespace Value

/-!
The parts of a record.

A part that is missing, or of another kind than asked for, is read as nothing.
-/

def part (record : Value) (name : String) : Value := (record.get? name).getD .null

def textAt? (record : Value) (name : String) : Option String := (record.part name).asText?

/-- A part that is a text, or the empty text. -/
def textAt (record : Value) (name : String) : String := (record.textAt? name).getD ""

/-- A part that is a whole number. -/
def wholeAt? (record : Value) (name : String) : Option Int :=
  match record.part name with
  | .number (.whole n) => some n
  | _ => none

/-- A part that is a number. -/
def quantityAt (record : Value) (name : String) (absent : Quantity) : Quantity :=
  ((record.part name).asQuantity?).getD absent

/-- Whether a part counts as true. -/
def flagAt (record : Value) (name : String) (absent : Bool) : Bool :=
  ((record.get? name).map isTruthy).getD absent

def itemsAt (record : Value) (name : String) : List Value := ((record.part name).asList?).getD []

/-- The texts among the items of a list. -/
def textItems (value : Value) : List String := ((value.asList?).getD []).filterMap asText?

/-- The texts among the items of a part. -/
def textsAt (record : Value) (name : String) : List String := (record.part name).textItems

/-- The entries of a mapping, with their keys as texts. -/
def namedEntries : Value -> List (String × Value)
  | .mapping entries => entries.map fun entry => (entry.1.display, entry.2)
  | _ => []

/-- The entries of a mapping that are texts. -/
def textEntries (value : Value) : List (String × String) :=
  value.namedEntries.filterMap fun entry => entry.2.asText?.map fun text => (entry.1, text)

end Value
end Triage
