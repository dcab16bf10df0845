import CodeGraph.CommandLine.Commands
import CodeGraph.Project.Saved
import Std.Time.Zoned

namespace CodeGraph.Main

/-- Variables of the environment that have a meaning. -/
def variableNames : List String :=
  Defaults.variablePlaces.map (·.1) ++ ((GlobalSettings.schema "").fields.map fun field =>
    GlobalSettings.variablePrefix ++ Text.upper field.name)

/-- Answers a request from where nothing is in reach. -/
def outOfReach : (request : CommandLine.Outside) → Unit → request.Reply × Unit
  | .lookup (.git _), _ => (.notStarted "git is out of reach", ())
  | .lookup (.tool _ _), _ => (.error "the server of tools is out of reach", ())
  | .search _, _ => (.error (.fault "the similarity index is out of reach"), ())
  | .index _, _ => (.error (.fault "the similarity index is out of reach"), ())

/-- The files that a command may read, from a directory and those above it. -/
def candidates (directory : String) (arguments : List String) : List String :=
  let above := directory :: Path.ancestors directory
  let hooks := HookType.all.map fun hook => ".git/hooks/" ++ hook.name
  [".env", configDirectoryName, configDirectoryName ++ "/config.json"] ++ arguments ++
    (".git/HEAD" :: hooks).flatMap fun file => above.map (Path.join · file)

/-- The bytes of a file, if there is one. -/
def read? (path : String) : IO (Option ByteArray) := do
  try
    return some (← IO.FS.readBinFile path)
  catch _ => return none

/-- The tree with those of the files that exist. -/
def readFiles (tree : FileTree) (paths : List String) : IO FileTree :=
  paths.foldlM (fun tree path => do
    return match ← read? path with
      | some bytes => tree.withFile path bytes
      | none => tree) tree

/-- Writes the files that are new or have changed, and removes those that are gone. -/
def writeFiles (before after : FileTree) : IO Unit := do
  for (path, node) in after.nodes do
    if let .file bytes executable := node then
      if before.nodeAt? path != some node then
        IO.FS.createDirAll (Path.parent path)
        IO.FS.writeBinFile path bytes
        if executable then
          let all : IO.AccessRight := { read := true, write := true, execution := true }
          let others : IO.AccessRight := { read := true, execution := true }
          IO.setAccessRights path { user := all, group := others, other := others }
  for (path, _) in before.nodes do
    if (after.nodeAt? path).isNone then IO.FS.removeFile path

/-- The present, as the clock shows it. -/
def clock : IO DateTime := do
  let now ← Std.Time.PlainDateTime.now
  return {
    year := now.year.toInt.toNat, month := now.month.val.toNat, day := now.day.val.toNat
    hour := now.hour.val.toNat, minute := now.minute.val.toNat, second := now.second.val.toNat
    microsecond := now.nanosecond.val.toNat / 1000 }

/-- The lines of a table. -/
def tableLines (table : Table) : List String :=
  table.title.toList ++ (table.columns :: table.rows).map (" | ".intercalate ·)

/-- The lines of an item. -/
def lines : Printed → List String
  | .line text => [text]
  | .table content => tableLines content
  | .panel title content => [title, content]
  | .tablePanel title content => title :: tableLines content

end CodeGraph.Main

open CodeGraph in
def main (arguments : List String) : IO UInt32 := do
  let now ← Main.clock
  let directory := Path.resolve "/" (← IO.currentDir).toString
  let environment ← Main.variableNames.filterMapM fun name => do
    return (← IO.getEnv name).map (name, ·)
  let empty : FileTree := { (FileTree.makeDirectories {} directory).toOption.getD {} with
    workingDirectory := directory }
  let before ← Main.readFiles empty (Main.candidates directory arguments)
  let home := (← IO.getEnv "HOME").getD "/"
  let file := Path.join directory (((environment.lookup "REPO_GRAPH_DATABASE_PATH").getD
    (configDirectoryName ++ "/graph.db")))
  let bytes ← Main.read? file
  let text := bytes.bind String.fromUTF8?
  let databases := (text.bind (Database.ofText? now)).toList.map (file, ·)
  let before := if let some bytes := bytes then before.withFile file bytes else before
  let place : CommandLine.Workplace := { now, home, environment, tree := before, databases }
  let (done, ()) := (CommandLine.run place arguments).run Main.outOfReach ()
  let session := done.session
  let after := session.databases.foldl (fun tree (path, database) =>
    tree.withFile path database.toJson.compact.toUTF8) session.tree
  Main.writeFiles before after
  for line in session.printed.flatMap Main.lines do IO.println line
  if let some fault := done.fault then IO.eprintln fault.message
  if let some value := session.value then IO.println (value.indented true)
  IO.print session.text
  return done.exitCode.toUInt32
