import Triage.Database.Pool
import Triage.Database.Tables

namespace Triage

/-!
The database of the engine: its tables behind a pool of connections.
-/

abbrev Database := Database.Pool Database.Tables

namespace Database

/-- The path of a database that lives in memory and dies with its only connection. -/
def memoryPath : String := ":memory:"

/-- How many connections a database may have: one in memory, else as many as wanted. -/
def capacityFor (path : String) (wanted : Int) : Int := if path == memoryPath then 1 else wanted

/-- A database that cannot be opened. -/
def openFailure (reason : String) : Failure :=
  .raised .database ("Failed to initialize SQLite pool: " ++ reason) none []

def addTables : Statement Tables Unit where
  text := "CREATE TABLE IF NOT EXISTS " ++ Tables.ruleTable
  batch := none
  changes tables := !tables.isComplete
  run tables := (.ok (), tables.completed)

/-- A schema that cannot be set up. -/
def schemaFailure (failure : Failure) : Failure :=
  .of .database "DatabaseManager" ("Failed to initialize database schema: " ++ failure.report)

/-- Makes sure that all tables are there. -/
def ensureSchema : Act Database Unit := (Pool.update addTables).mapFailure schemaFailure

/-- Opens a database on the data that are there already. -/
def openOn (path : String) (connections : Int) (tables : Tables) : Except Failure Database :=
  let (result, database) := ensureSchema.perform (Pool.make (capacityFor path connections) tables)
  result.map fun _ => database

/-- Reads the version of the schema. -/
def selectVersion : Statement Tables Int :=
  .reading "SELECT MAX(version) FROM schema_version" fun tables => do
    let versions <- Tables.rowsOf Tables.versionTable tables.versions
    pure (versions.foldl max 0)

/-- The version of the schema. -/
def version : Act Database Int := Pool.query selectVersion

def countRows (text table : String) : Statement Tables Nat :=
  .reading text fun tables => tables.rowCount table

/-- Takes a table away. -/
def dropTable (name : String) : Statement Tables Unit :=
  .changing ("DROP TABLE " ++ name) fun tables => tables.dropped name

end Database
end Triage
