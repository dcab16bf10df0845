import CodeGraph.Files.Tree
import CodeGraph.Graph.Store
import CodeGraph.Hooks.Store

namespace CodeGraph

/-- What a project keeps. -/
structure Database where
  graph : GraphStore := {}
  hooks : HookStore := {}

/-- Why a database cannot be opened. -/
inductive DatabaseFault where
  /-- Its directory cannot be made. -/
  | file (cause : FileError)
  | cannotOpen
  /-- The file holds something else. -/
  | notDatabase
deriving Repr, DecidableEq

def DatabaseFault.message : DatabaseFault → String
  | .file cause => cause.message
  | .cannotOpen => "unable to open database file"
  | .notDatabase => "file is not a database"

/-- The databases in a file tree by the paths of their files. -/
abbrev Databases := List (String × Database)

/-- How many bytes the path of a database may have. -/
def databasePathLimit : Nat := 504

/-- Opens the database in a file, which is made with its directory if it is not there. Gives the path
by which the database is known. -/
def FileTree.openDatabase (tree : FileTree) (known : Databases) (path : String) :
    Except DatabaseFault (String × FileTree) := do
  let tree ← (tree.makeDirectories (Path.parent path)).mapError .file
  if path.toList.contains '\x00' then throw (.file (.nullCharacter none))
  if databasePathLimit < path.utf8ByteSize then throw .cannotOpen
  match tree.placeFor path with
  | .error _ => throw .cannotOpen
  | .ok place =>
    match tree.nodeAt? place with
    | some .directory => throw .cannotOpen
    | some (.file bytes _) =>
      if bytes.isEmpty || (known.lookup place).isSome then return (place, tree) else throw .notDatabase
    | none => return (place, tree.put place (.file .empty false))

/-- Replaces a database. -/
def Databases.set (databases : Databases) (path : String) (database : Database) : Databases :=
  databases.filter (·.1 != path) ++ [(path, database)]

end CodeGraph
