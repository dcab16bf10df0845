import CodeGraph.Config.Settings
import CodeGraph.Text.Case

namespace CodeGraph.Logging

/-- The levels by name. -/
def levels : List (String × Int) :=
  [("CRITICAL", 50), ("FATAL", 50), ("ERROR", 40), ("WARNING", 30), ("WARN", 30), ("INFO", 20),
    ("DEBUG", 10), ("NOTSET", 0)]

/-- The level for how much hooks print. -/
def levelOf : Verbosity → Int
  | .silent => 30
  | .normal => 20
  | .verbose => 10

/-- Why a name gives no level: it stands for a text, or for something that is no level at all. -/
inductive LevelFault where
  | text (value : String)
  | noLevel
deriving Repr, DecidableEq

def LevelFault.message : LevelFault → String
  | .text value => s!"Unknown level: {Json.quoted value}"
  | .noLevel => "Level not an integer or a valid string"

/-- Names that stand for something else than a level. -/
def otherNames : List (String × LevelFault) :=
  [("BASIC_FORMAT", .text "%(levelname)s:%(name)s:%(message)s"), ("_STYLES", .noLevel)]

/-- The level in force: how much hooks print goes before the settings. A name that stands for nothing
gives the level of informative messages. -/
def level (settings : GlobalSettings) (verbosity : Option Verbosity) : Except LevelFault Int :=
  let name := Text.upper settings.logLevel
  match verbosity, otherNames.lookup name with
  | some verbosity, _ => .ok (levelOf verbosity)
  | none, some fault => .error fault
  | none, none => .ok ((levels.lookup name).getD 20)

/-- The log file, if the settings ask for one, in a directory that is made for it. It is opened by its
absolute path. -/
def openFile (settings : GlobalSettings) (tree : FileTree) :
    Except FileError (Option String × FileTree) :=
  if !settings.logToFile then .ok (none, tree)
  else do
    let directory := Path.join settings.configDirectory "logs"
    let file := Path.join directory "repo-graph.log"
    let tree ← tree.makeDirectories directory
    let bytes := (tree.bytes? file).getD .empty
    pure (some file, ← tree.writeBytes (Path.resolve tree.workingDirectory file) bytes)

end CodeGraph.Logging
