import CodeGraph.Files.Error
import CodeGraph.Files.Path

namespace CodeGraph

/-- What stands at a path. -/
inductive FileNode where
  | directory
  | file (bytes : ByteArray) (executable : Bool)

instance : DecidableEq FileNode
  | .directory, .directory => .isTrue rfl
  | .directory, .file _ _ => .isFalse FileNode.noConfusion
  | .file _ _, .directory => .isFalse FileNode.noConfusion
  | .file bytes executable, .file bytes' executable' =>
    have := ByteArray.instDecidableEq bytes bytes'
    decidable_of_iff (bytes = bytes' ∧ executable = executable') (FileNode.file.injEq .. ▸ .rfl)

/-- Files and directories by absolute path, in the order in which they came to be. -/
structure FileTree where
  nodes : List (String × FileNode) := []
  workingDirectory : String := "/"

namespace FileTree

/-- The node at a normal absolute path. The root is always a directory. -/
def nodeAt? (tree : FileTree) (path : String) : Option FileNode :=
  if path == "/" then some .directory else tree.nodes.lookup path

/-- The parts of the place that a row of parts leads to, if each part but the last is passed
through an existing directory. -/
def walk? (tree : FileTree) (place : List String) : List String → Option (List String)
  | [] => some place
  | part :: rest =>
    if tree.nodeAt? (Path.build "/" place) == some .directory then
      tree.walk? (Path.climb place part) rest
    else none

/-- The normal absolute path that a path leads to. -/
def locate? (tree : FileTree) (path : String) : Option String :=
  (tree.walk? [] (Path.split (Path.join tree.workingDirectory path)).2).map (Path.build "/")

/-- The node that a path leads to. -/
def find? (tree : FileTree) (path : String) : Option FileNode :=
  (tree.locate? path).bind tree.nodeAt?

def has (tree : FileTree) (path : String) : Bool :=
  (tree.find? path).isSome

def isDirectory (tree : FileTree) (path : String) : Bool :=
  tree.find? path == some .directory

/-- Whether a name that is too long is met on a way, which ends where there is no directory. -/
def meetsLongName (tree : FileTree) (place : List String) : List String → Bool
  | [] => false
  | part :: rest =>
    tree.nodeAt? (Path.build "/" place) == some .directory &&
      (nameLimit < part.utf8ByteSize || tree.meetsLongName (Path.climb place part) rest)

/-- Whether a path, or a name that is met on its way, is too long. -/
def isTooLong (tree : FileTree) (path : String) : Bool :=
  pathLimit < path.utf8ByteSize ||
    tree.meetsLongName [] (Path.split (Path.join tree.workingDirectory path)).2

/-- The node that a path leads to, if the path can be followed. Nothing is at a path with the null
character. -/
def look (tree : FileTree) (path : String) : Except FileError (Option FileNode) :=
  if path.toList.contains '\x00' then .ok none
  else if tree.isTooLong path then .error (.nameTooLong path)
  else .ok (tree.find? path)

/-- The absolute path that a path stands for. -/
def resolve (tree : FileTree) (path : String) : Except FileError String :=
  if path.toList.contains '\x00' then .error (.nullCharacter (some "lstat"))
  else .ok (Path.resolve tree.workingDirectory path)

/-- The first directory among paths that can be followed. -/
def firstDirectory? (tree : FileTree) : List String → Except FileError (Option String)
  | [] => .ok none
  | path :: rest => do
    match ← tree.look path with
    | some .directory => return some path
    | _ => tree.firstDirectory? rest

/-- The bytes of a file. -/
def bytes? (tree : FileTree) (path : String) : Option ByteArray :=
  match tree.find? path with
  | some (.file bytes _) => some bytes
  | _ => none

/-- The text of a file, if its bytes are one. -/
def read? (tree : FileTree) (path : String) : Option String :=
  (tree.bytes? path).bind String.fromUTF8?

/-- Puts a node at a path, in place of what stands there. -/
def put (tree : FileTree) (path : String) (node : FileNode) : FileTree :=
  let nodes := if (tree.nodes.lookup path).isSome
    then tree.nodes.map fun entry => if entry.1 == path then (path, node) else entry
    else tree.nodes ++ [(path, node)]
  { tree with nodes }

/-- Why nothing can be put at a path that leads nowhere. -/
def missingParent (tree : FileTree) (path : String) : FileError :=
  let full := Path.join tree.workingDirectory path
  if tree.isTooLong path then .nameTooLong path
  else if (Path.ancestors full).any fun above =>
      match tree.find? above with
      | some (.file _ _) => true
      | _ => false
  then .notDirectory path else .missing path

/-- The place that a new node at a path gets. -/
def placeFor (tree : FileTree) (path : String) : Except FileError String :=
  match tree.locate? path with
  | some place => if tree.isTooLong path then .error (.nameTooLong path) else .ok place
  | none => .error (tree.missingParent path)

/-- Writes bytes. An existing file keeps its execute bits. -/
def writeBytes (tree : FileTree) (path : String) (bytes : ByteArray) : Except FileError FileTree :=
  if path.toList.contains '\x00' then .error (.nullCharacter none)
  else match tree.placeFor path with
  | .error cause => .error cause
  | .ok place =>
    match tree.nodeAt? place with
    | some .directory => .error (.isDirectory path)
    | some (.file _ executable) => .ok (tree.put place (.file bytes executable))
    | none => .ok (tree.put place (.file bytes false))

/-- Writes a text. -/
def write (tree : FileTree) (path text : String) : Except FileError FileTree :=
  tree.writeBytes path text.toUTF8

/-- Sets the execute bits of a file. -/
def makeExecutable (tree : FileTree) (path : String) : FileTree :=
  match tree.locate? path with
  | none => tree
  | some place =>
    match tree.nodeAt? place with
    | some (.file bytes _) => tree.put place (.file bytes true)
    | _ => tree

/-- Removes a file. -/
def remove (tree : FileTree) (path : String) : FileTree :=
  match tree.locate? path with
  | none => tree
  | some place => { tree with nodes := tree.nodes.filter fun entry => entry.1 != place }

/-- Makes one directory, if it is not there already. -/
def makeDirectory (tree : FileTree) (path : String) : Except FileError FileTree :=
  if path.toList.contains '\x00' then .error (.nullCharacter (some "mkdir"))
  else match tree.placeFor path with
  | .error cause => .error cause
  | .ok place =>
    match tree.nodeAt? place with
    | some .directory => .ok tree
    | some (.file _ _) => .error (.exists_ path)
    | none => .ok (tree.put place .directory)

/-- Makes a directory and the missing ones above it. -/
def makeDirectories (tree : FileTree) (path : String) : Except FileError FileTree :=
  match tree.makeDirectory path with
  | .error (.missing _) =>
    let above := (Path.ancestors (Path.normalize path)).reverse
    (above.filter fun directory => !tree.has directory).foldlM makeDirectory tree >>= fun tree =>
      tree.makeDirectory path
  | result => result

/-- The tree with bytes at a path and directories above it, as far as that can be done. -/
def withFile (tree : FileTree) (path : String) (bytes : ByteArray) : FileTree :=
  let directory := Path.parent (Path.join tree.workingDirectory path)
  let tree := (tree.makeDirectories directory).toOption.getD tree
  (tree.writeBytes path bytes).toOption.getD tree

/-- The files below a directory with their paths from there, sorted by path. -/
def filesBelow (tree : FileTree) (directory : String) : List (String × ByteArray × Bool) :=
  let start := if directory == "/" then "/" else directory ++ "/"
  let found := tree.nodes.filterMap fun (path, node) =>
    match node with
    | .file bytes executable =>
      if start.toList.isPrefixOf path.toList then
        some (String.ofList (path.toList.drop start.length), bytes, executable)
      else none
    | .directory => none
  found.mergeSort fun a b => decide (a.1 ≤ b.1)

end FileTree

end CodeGraph
