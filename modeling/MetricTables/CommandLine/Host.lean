import MetricTables.KeyMap
import MetricTables.Store.Database
import MetricTables.Text.Blank

/-!
# What a command can reach

The files, the standard input and the databases that a command works with. The program
gets them from the system; the same command can also work on files that are held in
memory.

## Main definitions

* `Host` — access to files and databases in some monad.
* `Directory` — files and databases in memory, with their `Directory.host`.
-/

namespace MetricTables.CommandLine

/-- What stands at a path. -/
inductive File where
  | absent
  /-- Something that can be opened but holds no text, such as a directory. -/
  | unreadable
  | text (content : String)
  deriving DecidableEq, Repr, Inhabited

/-- Access to files and databases. -/
structure Host (m : Type → Type) where
  file (path : String) : m File
  standardInput : m File
  /-- The database at a path, which may be new; none if there can be none. -/
  openDatabase (path : String) : m (Option Database)
  /-- Keeps a database for later commands. -/
  keepDatabase (path : String) (b : Database) : m PUnit

/-- The database path that means a database without a file. -/
def inMemoryPath : String := ":memory:"

/-- Files and databases in memory, by their names. -/
structure Directory where
  files : KeyMap String String := .empty
  databases : KeyMap String Database := .empty
  standardInput : String := ""
  deriving Inhabited

namespace Directory

/-- The steps of a path; a point stays where it is. -/
def steps (path : String) : List String :=
  ((Text.splitOn '/' path.toList).map String.ofList).filter fun s => !s.isEmpty && s != "."

/-- The name of a file in the directory that a path leads to. -/
def name (path : String) : String := Text.join "/" (steps path)

/-- Whether a path leads to the directory itself. -/
def isRoot (path : String) : Bool := !path.isEmpty && (steps path).isEmpty && path.front != '/'

def file (d : Directory) (path : String) : File :=
  if isRoot path then .unreadable
  else match d.files.find? (name path) with
    | some content => .text content
    | none => if d.databases.contains (name path) then .unreadable else .absent

/-- The database at a path. There is none where a file stands, nor in a directory that
does not exist. -/
def database? (d : Directory) (path : String) : Option Database :=
  if path == inMemoryPath then some .fresh
  else if isRoot path || (steps path).length ≠ 1 then none
  else match d.databases.find? (name path) with
    | some b => some b
    | none => if d.files.contains (name path) then none else some .fresh

/-- Keeps a database that has a file. -/
def keep (d : Directory) (path : String) (b : Database) : Directory :=
  if path == inMemoryPath then d else { d with databases := d.databases.insert (name path) b }

/-- Access to a directory in memory. -/
def host : Host (StateM Directory) where
  file path := return (← get).file path
  standardInput := return .text (← get).standardInput
  openDatabase path := return (← get).database? path
  keepDatabase path b := modify fun d => d.keep path b

end Directory

end MetricTables.CommandLine
