import CodeGraph.Json.Text

namespace CodeGraph

/-- Why a path could not be used. -/
inductive FileError where
  | missing (path : String)
  | exists_ (path : String)
  | notDirectory (path : String)
  | isDirectory (path : String)
  | nameTooLong (path : String)
  /-- The null character stands in no path. What met it may be known. -/
  | nullCharacter (operation : Option String)
deriving Repr, DecidableEq

/-- The fault with its number, in words. -/
def FileError.message : FileError → String
  | .missing path => s!"[Errno 2] No such file or directory: {Json.quoted path}"
  | .exists_ path => s!"[Errno 17] File exists: {Json.quoted path}"
  | .notDirectory path => s!"[Errno 20] Not a directory: {Json.quoted path}"
  | .isDirectory path => s!"[Errno 21] Is a directory: {Json.quoted path}"
  | .nameTooLong path => s!"[Errno 36] File name too long: {Json.quoted path}"
  | .nullCharacter (some operation) => s!"{operation}: embedded null character in path"
  | .nullCharacter none => "embedded null byte"

/-- How many bytes a path may have. -/
def pathLimit : Nat := 4095

/-- How many bytes one name in a path may have. -/
def nameLimit : Nat := 255

end CodeGraph
