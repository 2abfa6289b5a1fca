import Triage.Database
import Triage.Rule.File

namespace Triage

/-!
Files and folders.

A disk holds texts and databases in folders.  The folder one stands in, from which relative
paths start, and the root are always there.
-/

/-- A path: its names from the root, or from the folder one stands in. -/
structure Path where
  isAbsolute : Bool
  names : List String
deriving DecidableEq, Repr, Inhabited

namespace Path

/-- The path that a text names; empty names and dots count for nothing. -/
def ofText (text : String) : Path where
  isAbsolute := text.startsWith "/"
  names := (text.splitOn "/").filter fun name => name != "" && name != "."

/-- The written form of a path. -/
def text (path : Path) : String :=
  let joined := String.intercalate "/" path.names
  if path.isAbsolute then "/" ++ joined else if path.names.isEmpty then "." else joined

/-- The folder that a path lies in. -/
def folder (path : Path) : Path := { path with names := path.names.dropLast }

/-- What a text names from a folder. -/
def child (path : Path) (text : String) : Path :=
  let other := ofText text
  if other.isAbsolute then other else { path with names := path.names ++ other.names }

end Path

/-- What a path can lead to. -/
inductive Node where
  | folder
  | text (content : String)
  | database (tables : Database.Tables)

/-- Everything that paths lead to. -/
abbrev Disk := List (Path × Node)

namespace Disk

/-- Why a path leads nowhere. -/
inductive Obstacle where
  | missing
  | notFolder
  | isFolder
  | isThere
  | longName
  | unspeakable
deriving DecidableEq, Repr

def Obstacle.failure (path : Path) (obstacle : Obstacle) : Failure :=
  let numbered (kind : String) (number : Nat) (reason : String) : Failure :=
    .plain (.other kind) ("[Errno " ++ toString number ++ "] " ++ reason ++ ": " ++
      Text.quoted path.text)
  match obstacle with
  | .missing => numbered "FileNotFoundError" 2 "No such file or directory"
  | .notFolder => numbered "NotADirectoryError" 20 "Not a directory"
  | .isFolder => numbered "IsADirectoryError" 21 "Is a directory"
  | .isThere => numbered "FileExistsError" 17 "File exists"
  | .longName => numbered "OSError" 36 "File name too long"
  | .unspeakable => .badValue "embedded null byte"

/-- What is at a place, by names that lead there directly. -/
def at? (disk : Disk) (place : Path) : Option Node :=
  if place.names.isEmpty then some .folder else disk.lookup place

/-- The longest name, in bytes. -/
def longestName : Nat := 255

/-- The place that names lead to from another place; only the last one may lead to nothing. -/
def walk (disk : Disk) : Path -> List String -> Except Obstacle Path
  | place, [] => .ok place
  | place, ".." :: names => walk disk place.folder names
  | place, [name] => if name.utf8ByteSize > longestName then .error .longName else .ok (place.child name)
  | place, name :: names =>
      if name.utf8ByteSize > longestName then .error .longName
      else match at? disk (place.child name) with
        | some .folder => walk disk (place.child name) names
        | some _ => .error .notFolder
        | none => .error .missing

/-- The place that a path leads to. -/
def find (disk : Disk) (path : Path) : Except Obstacle Path :=
  if path.names.any fun name => name.contains '\x00' then .error .unspeakable
  else walk disk { path with names := [] } path.names

/-- What a path leads to. -/
def look? (disk : Disk) (path : Path) : Option Node := (disk.find path).toOption.bind disk.at?

/-- Puts something at a place. -/
def put (disk : Disk) (place : Path) (node : Node) : Disk :=
  if disk.any fun entry => entry.1 == place then
    disk.map fun entry => if entry.1 == place then (place, node) else entry
  else disk ++ [(place, node)]

/-- The folders on the way to a place, and the place itself. -/
def leading (place : Path) : List Path :=
  (List.range (place.names.length + 1)).map fun n => { place with names := place.names.take n }

/-- Makes a folder and the folders on the way to it; one that is there already will do. -/
def makeFolders (disk : Disk) (path : Path) : Except Failure Disk :=
  let ways := leading path
  let isBlocked (way : Path) : Bool := match disk.look? way with
    | some .folder => false
    | some _ => true
    | none => false
  if isBlocked path then .error (Obstacle.isThere.failure path)
  else if ways.any isBlocked then .error (Obstacle.notFolder.failure path)
  else .ok (ways.foldl
    (fun disk way =>
      match disk.look? way, disk.find way with
      | none, .ok place => disk.put place .folder
      | _, _ => disk) disk)

/-- Writes a text. -/
def write (disk : Disk) (path : Path) (content : String) : Except Failure Disk :=
  match disk.find path with
  | .error obstacle => .error (obstacle.failure path)
  | .ok place =>
      match disk.at? place with
      | some .folder => .error (Obstacle.isFolder.failure path)
      | _ => .ok (disk.put place (.text content))

/-- The texts that lie in a folder, by their names. -/
def textsIn (disk : Disk) (path : Path) : Rule.Directory :=
  match disk.find path with
  | .error _ => []
  | .ok place => disk.filterMap fun entry =>
      match entry.2, entry.1.names.getLast? with
      | .text content, some name => if entry.1.folder == place then some (name, content) else none
      | _, _ => none

/-- The files of a folder; there are none in what is no folder, and nothing where nothing is. -/
def directory? (disk : Disk) (path : Path) : Option Rule.Directory :=
  (disk.look? path).map fun _ => disk.textsIn path

/-! ## Databases -/

/-- The failure of a connection that cannot be made. -/
def connectionFailure (reason : String) : Failure :=
  Database.openFailure ("Failed to create SQLite connection: " ++ reason)

/-- The size up to which a text is taken for a database that was just made, in bytes. -/
def blankSize : Nat := 1

/-- The tables of a database; where there is nothing, or next to nothing, there are no tables. -/
def tablesOf : Option Node -> Except Failure Database.Tables
  | none => .ok .none_
  | some (.database tables) => .ok tables
  | some (.text content) =>
      if content.utf8ByteSize > blankSize then
        .error (connectionFailure "file is not a database")
      else .ok .none_
  | some .folder => .error (connectionFailure "unable to open database file")

/-- Reads the tables at a path, and makes the folder that the path lies in. -/
def openTables (disk : Disk) (path : String) : Except Failure Database.Tables × Disk :=
  if path == Database.memoryPath then (.ok .none_, disk)
  else match disk.makeFolders (Path.ofText path).folder with
    | .error failure => (.error (Database.openFailure failure.report), disk)
    | .ok disk => (tablesOf (disk.look? (Path.ofText path)), disk)

/-- Keeps tables at a path, unless they live in memory. -/
def keepTables (disk : Disk) (path : String) (tables : Database.Tables) : Disk :=
  if path == Database.memoryPath then disk
  else match disk.find (Path.ofText path) with
    | .ok place => disk.put place (.database tables)
    | .error _ => disk

end Disk
end Triage
