import CodeGraph.Text.Search

namespace CodeGraph.Path

/-- The leading slashes that count, and the parts. -/
def split (path : String) : String × List String :=
  let chars := path.toList
  let slashes := (chars.takeWhile (· == '/')).length
  let root := if slashes = 0 then "" else if slashes = 2 then "//" else "/"
  let parts := (Text.splitAt '/' chars).map String.ofList
  (root, parts.filter fun part => part != "" && part != ".")

/-- The text of a path with a root and parts. -/
def build (root : String) (parts : List String) : String :=
  if root == "" && parts.isEmpty then "." else root ++ "/".intercalate parts

/-- The normal form. -/
def normalize (path : String) : String :=
  let (root, parts) := split path
  build root parts

def isAbsolute (path : String) : Bool :=
  path.toList.head? == some '/'

/-- The last part, empty for a root or the empty path. -/
def name (path : String) : String :=
  ((split path).2.getLast?).getD ""

/-- The path without its last part. -/
def parent (path : String) : String :=
  let (root, parts) := split path
  build root parts.dropLast

/-- A path below another one. An absolute path stands for itself. -/
def join (base path : String) : String :=
  if isAbsolute path then normalize path
  else
    let (root, parts) := split base
    build root (parts ++ (split path).2)

/-- What the name ends in from its last dot on. There is none when the dot is the first or the last
character of the name. -/
def suffix (path : String) : String :=
  let chars := (name path).toList
  match Text.findLast? ['.'] chars with
  | some i => if 0 < i ∧ i + 1 < chars.length then String.ofList (chars.drop i) else ""
  | none => ""

/-- One part put after others, where ".." takes the last part away. -/
def climb (parts : List String) (part : String) : List String :=
  if part == ".." then parts.dropLast else parts ++ [part]

/-- The absolute path without "..", for a path seen from a directory. -/
def resolve (directory path : String) : String :=
  let (_, parts) := split (join directory path)
  build "/" (parts.foldl climb [])

/-- All the paths above a path, the nearest first. -/
def ancestors (path : String) : List String :=
  let (root, parts) := split path
  (List.range parts.length).reverse.map fun n => build root (parts.take n)

end CodeGraph.Path
