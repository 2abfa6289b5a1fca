import Triage.Database.Cell

namespace Triage
namespace Database

/-!
Statements.

A statement reads or changes the data of one connection.  It either answers or is refused, and
a refused batch keeps what it did before the part that was refused.
-/

/-- Why a statement is refused. -/
inductive Fault where
  | noTable (name : String)
  | repeated (column : String)
  | missing (column : String)
  | closed
  | locked
  | unsupported (position : Nat) (kind : String)
  | tooLarge
deriving DecidableEq, Repr, Inhabited

namespace Fault

/-- The wording of a fault. -/
def message : Fault -> String
  | .noTable name => "no such table: " ++ name
  | .repeated column => "UNIQUE constraint failed: " ++ column
  | .missing column => "NOT NULL constraint failed: " ++ column
  | .closed => "Cannot operate on a closed database."
  | .locked => "database is locked"
  | .unsupported position kind =>
      "Error binding parameter " ++ toString position ++ ": type '" ++ kind ++
        "' is not supported"
  | .tooLarge => "Python int too large to convert to SQLite INTEGER"

end Fault

/-- A whole number as a cell, if it has 64 bits. -/
def Cell.ofInt (n : Int) : Except Fault Cell :=
  if Cell.fits n then .ok (.whole n) else .error .tooLarge

/-- The first rows, and all of them when the limit is negative. -/
def limited {R : Type} (limit : Option Int) (rows : List R) : Except Fault (List R) :=
  match limit with
  | none => .ok rows
  | some limit => do
      let _ <- Cell.ofInt limit
      pure (if limit < 0 then rows else rows.take limit.toNat)

/-- The cell that a value becomes as a parameter, counted from one. -/
def Cell.ofValue (position : Nat) (value : Value) : Except Fault Cell :=
  match value with
  | .null => .ok .null
  | .bool b => .ok (.whole (if b then 1 else 0))
  | .number (.whole n) => Cell.ofInt n
  | .number (.real x) => .ok (if Number.shape x == .notANumber then .null else .real x)
  | .text s => .ok (.text s)
  | .date d => .ok (.text d.text)
  | .stamp s => .ok (.text (s.textWith " "))
  | other => .error (.unsupported position other.kindName)

/-- A statement on data. -/
structure Statement (D A : Type) where
  /-- The wording, for complaints. -/
  text : String
  /-- The number of parts of a batch. -/
  batch : Option Nat
  /-- Whether it changes data like these. -/
  changes : D -> Bool
  run : D -> Except Fault A × D

namespace Statement

variable {D A : Type}

def reading (text : String) (read : D -> Except Fault A) : Statement D A :=
  ⟨text, none, fun _ => false, fun data => (read data, data)⟩

/-- A statement that changes data or leaves them as they are. -/
def changing (text : String) (change : D -> Except Fault (A × D)) : Statement D A where
  text := text
  batch := none
  changes _ := true
  run data :=
    match change data with
    | .ok (answer, after) => (.ok answer, after)
    | .error fault => (.error fault, data)

/-- How much of its wording a complaint shows. -/
def shownLength : Nat := 100

def failure (statement : Statement D A) (fault : Fault) : Failure :=
  let shown := ("query", Value.text (String.ofList (statement.text.toList.take shownLength)))
  match fault, statement.batch with
  | .tooLarge, _ => .outOfRange fault.message
  | _, none =>
      .raised .query ("Query execution failed: " ++ fault.message) (some "DatabaseConnection")
        [shown]
  | _, some size =>
      .raised .query ("Batch query execution failed: " ++ fault.message)
        (some "DatabaseConnection") [shown, ("batch_size", .int size)]

end Statement
end Database
end Triage
