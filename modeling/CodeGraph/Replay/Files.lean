import CodeGraph.Files.Tree
import CodeGraph.Json.Access
import CodeGraph.Json.Writer
import CodeGraph.Text.Utf8

namespace CodeGraph

namespace Replay

/-- A tree with a working directory and what an object puts below it: directories for null, files with
texts, and files with other values as JSON. -/
def tree (directory : String) (files : Members) : FileTree :=
  let start := (FileTree.makeDirectories {} directory).toOption.getD {}
  files.foldl (fun tree (path, content) =>
      match content with
      | .null => (tree.makeDirectories path).toOption.getD tree
      | .str text => tree.withFile path text.toUTF8
      | value => tree.withFile path value.compact.toUTF8)
    { start with workingDirectory := directory }

end Replay

namespace FileTree

/-- Whether a path is that of a database. -/
def isDatabase (path : String) : Bool :=
  ".db".toList.isSuffixOf path.toList

/-- The files below a directory with their texts and execute bits. The contents of databases are left
out. -/
def toJson (tree : FileTree) (directory : String) : Json :=
  .obj ((tree.filesBelow directory).map fun (path, bytes, executable) =>
    (path, if isDatabase path then .str "<database>"
      else .obj [("text", .str (Text.decodeUtf8 bytes.toList)), ("exec", .bool executable)]))

/-- The paths of the files below a directory. -/
def paths (tree : FileTree) (directory : String) : Json :=
  Json.strings ((tree.filesBelow directory).map (·.1))

end FileTree

end CodeGraph
