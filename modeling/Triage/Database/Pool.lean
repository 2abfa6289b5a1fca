import Triage.Act
import Triage.Database.Statement

namespace Triage
namespace Database

/-!
The connection pool.

A number of connections share one set of data.  What a connection changes is its own until it
commits.  Only one connection at a time may have changed something, and a connection may only
change what it still sees as it is.
-/

/-- What a connection has begun and not finished. -/
inductive Work (D : Type) where
  | none
  /-- A transaction that has seen nothing yet. -/
  | begun
  /-- A transaction that goes on seeing the data of some commit. -/
  | reading (view : D) (commit : Nat)
  /-- A transaction with changes, which keep others from changing anything. -/
  | writing (view : D)

/-- Whether the work holds changes. -/
def Work.isWriting {D : Type} : Work D -> Bool
  | .writing _ => true
  | _ => false

structure Connection (D : Type) where
  work : Work D
  /-- Whether its holder said that a transaction is going on. -/
  marked : Bool

/-- A connection without work. -/
def Connection.fresh {D : Type} : Connection D := ⟨.none, false⟩

instance {D : Type} : Inhabited (Connection D) := ⟨.fresh⟩

/-- A pool of connections. -/
structure Pool (D : Type) where
  capacity : Int
  /-- The data as last committed. -/
  data : D
  /-- How often something was committed. -/
  commits : Nat
  connections : List (Connection D)
  /-- The places of connections that nobody holds, the next one first. -/
  idle : List Nat
  isClosed : Bool

namespace Pool

variable {D A : Type}

/-- A pool of idle connections. -/
def make (capacity : Int) (data : D) : Pool D where
  capacity := capacity
  data := data
  commits := 0
  connections := List.replicate capacity.toNat .fresh
  idle := List.range capacity.toNat
  isClosed := false

def connection (pool : Pool D) (place : Nat) : Connection D := pool.connections.getD place .fresh

/-- Replaces the connection at a place. -/
def put (pool : Pool D) (place : Nat) (connection : Connection D) : Pool D :=
  { pool with connections := pool.connections.set place connection }

/-- Replaces the work of a connection. -/
def putWork (pool : Pool D) (place : Nat) (work : Work D) : Pool D :=
  pool.put place { pool.connection place with work }

/-- Whether another connection has changed something. -/
def isLocked (pool : Pool D) (place : Nat) : Bool :=
  pool.connections.zipIdx.any fun entry => entry.2 != place && entry.1.work.isWriting

/-- The data that a connection sees. -/
def seen (pool : Pool D) (place : Nat) : D :=
  match (pool.connection place).work with
  | .none => pool.data
  | .begun => pool.data
  | .reading view _ => view
  | .writing view => view

/-- Whether a connection sees the data as last committed, or its own changes to them. -/
def isCurrent (pool : Pool D) (place : Nat) : Bool :=
  match (pool.connection place).work with
  | .reading _ commit => commit == pool.commits
  | _ => true

/-- The work of a connection after it has read something. -/
def workAfterReading (pool : Pool D) (place : Nat) : Work D :=
  match (pool.connection place).work with
  | .begun => .reading pool.data pool.commits
  | other => other

/-- The work of a connection that may not change anything now. -/
def workAfterWaiting (pool : Pool D) (place : Nat) : Work D :=
  match (pool.connection place).work with
  | .none => .begun
  | other => other

/-! ## Lending -/

/-- The failure of a pool without an idle connection. -/
def exhausted (pool : Pool D) : Failure :=
  .raised .poolExhausted ("Connection pool exhausted (max: " ++ toString pool.capacity ++ ")")
    none []

def closedFailure : Failure := .raised .database "Connection pool is closed" none []

/-- Lends a connection. -/
def take : Act (Pool D) Nat :=
  Act.of fun pool =>
    if pool.isClosed then (.error closedFailure, pool)
    else match pool.idle with
      | [] => (.error pool.exhausted, pool)
      | place :: rest =>
          (.ok place, { pool.put place { pool.connection place with marked := false } with
            idle := rest })

/-- Says that a transaction is going on. -/
def mark (place : Nat) : Act (Pool D) Unit :=
  Act.change fun pool => pool.put place { pool.connection place with marked := true }

/-! ## Work on a connection -/

/-- Carries out a statement that reads. -/
def executeReading (statement : Statement D A) (place : Nat) (pool : Pool D) :
    Except Failure A × Pool D :=
  match (statement.run (pool.seen place)).1 with
  | .ok answer => (.ok answer, pool.putWork place (pool.workAfterReading place))
  | .error fault => (.error (statement.failure fault), pool)

/-- Carries out a statement that changes something. -/
def executeChanging (statement : Statement D A) (place : Nat) (pool : Pool D) :
    Except Failure A × Pool D :=
  if pool.isLocked place || !pool.isCurrent place then
    (.error (statement.failure .locked), pool.putWork place (pool.workAfterWaiting place))
  else
    let (result, view) := statement.run (pool.seen place)
    (result.mapError statement.failure, pool.putWork place (.writing view))

/-- Carries out a statement. -/
def execute (statement : Statement D A) (place : Nat) : Act (Pool D) A :=
  Act.of fun pool =>
    if pool.isClosed then (.error (statement.failure .closed), pool)
    else if statement.changes (pool.seen place) then executeChanging statement place pool
    else executeReading statement place pool

/-- A failure to end a transaction. -/
def endingFailure (what : String) (fault : Fault) : Failure :=
  .of .transaction "DatabaseConnection" ("Transaction " ++ what ++ " failed: " ++ fault.message)

/-- Commits the work of a connection. -/
def commit (place : Nat) : Act (Pool D) Unit :=
  Act.of fun pool =>
    if pool.isClosed then (.error (endingFailure "commit" .closed), pool)
    else match (pool.connection place).work with
      | .writing view =>
          (.ok (), { pool.put place .fresh with data := view, commits := pool.commits + 1 })
      | _ => (.ok (), pool.put place .fresh)

/-- Drops the work of a connection. -/
def rollback (place : Nat) : Act (Pool D) Unit :=
  Act.of fun pool =>
    if pool.isClosed then (.error (endingFailure "rollback" .closed), pool)
    else (.ok (), pool.put place .fresh)

/-- Puts a connection back among the idle ones. -/
def putBack (place : Nat) : Act (Pool D) Unit :=
  Act.change fun pool => if pool.isClosed then pool else { pool with idle := pool.idle ++ [place] }

/-- Gives a connection back; work of a marked transaction is dropped first. -/
def release (place : Nat) : Act (Pool D) Unit := do
  if <- Act.look fun pool : Pool D => (pool.connection place).marked then rollback place
  putBack place

/-- Closes the pool; nothing that was not committed remains. -/
def close : Act (Pool D) Unit :=
  Act.change fun pool =>
    if pool.isClosed then pool
    else
      { pool with
        isClosed := true
        connections := pool.connections.map fun connection => { connection with work := .none } }

/-! ## Scopes -/

/-- Work on a lent connection, which is given back however the work ends. -/
def onConnection (body : Nat -> Act (Pool D) A) : Act (Pool D) A := do
  let place <- take
  let result <- (body place).attempt
  release place
  Act.ofResult result

def transactionFailure (failure : Failure) : Failure :=
  .of .transaction "DatabaseManager" ("Transaction failed: " ++ failure.report)

/-- Work that is committed at its end, unless it has ended the transaction itself. -/
def committed (body : Nat -> Act (Pool D) A) (place : Nat) : Act (Pool D) A := do
  let answer <- body place
  if <- Act.look fun pool : Pool D => (pool.connection place).marked then commit place
  pure answer

/-- Drops the work of a failed transaction; that this may fail too is not reported. -/
def undo (place : Nat) : Act (Pool D) Unit := do
  if <- Act.look fun pool : Pool D => (pool.connection place).marked then
    let _ <- (rollback place).attempt

/-- Work that takes effect as a whole or not at all. -/
def transaction (body : Nat -> Act (Pool D) A) : Act (Pool D) A :=
  onConnection fun place => do
    mark place
    match <- (committed body place).attempt with
    | .ok answer => pure answer
    | .error failure =>
        undo place
        Act.ofResult (.error (transactionFailure failure))

def query (statement : Statement D A) : Act (Pool D) A := onConnection (execute statement)

def update (statement : Statement D A) : Act (Pool D) A := transaction (execute statement)

end Pool
end Database
end Triage
