import CodeGraph.Text.Blank
import CodeGraph.Text.Case
import CodeGraph.Text.Search

namespace CodeGraph

/-- The rules for the type annotations of a language. -/
structure TypeTable where
  language : String
  /-- Names that are never used types. -/
  primitives : List String := []
  caseSensitive : Bool := true
  /-- Generics that stand for their first argument. -/
  transparentWrappers : List String := []
  /-- Generics whose arguments are the members of a union. -/
  unionWrappers : List String := []
  nullTypes : List String := []
  genericOpen : String := "<"
  genericClose : String := ">"
  unionSeparators : List String := ["|"]
  intersectionSeparators : List String := ["&"]
  /-- The mark of an array type, empty if there is none. -/
  arraySuffix : String := "[]"
  /-- The mark of an optional type, empty if there is none. -/
  optionalSuffix : String := "?"
  /-- Dotted names are compared by their last part. -/
  matchLastSegment : Bool := false
  /-- A quoted annotation refers to a type that is defined later. -/
  stripQuotes : Bool := false
  functionTypes : List String := ["function", "method", "constructor"]
  importTargetType : String := "file"
  emitTypeUsage : Bool := true

namespace TypeTable

/-- A name as it is compared in a language. -/
def key (table : TypeTable) (name : List Char) : List Char :=
  let trimmed := Text.trimChars Text.isBlank name
  let segment := if table.matchLastSegment then Text.afterLast '.' trimmed else trimmed
  if table.caseSensitive then segment else Text.lowerChars segment

/-- Whether one of the listed names is the given one. -/
def lists (table : TypeTable) (names : List String) (name : List Char) : Bool :=
  names.any fun listed =>
    (if table.caseSensitive then listed.toList else Text.lowerChars listed.toList) ==
      table.key name

def isPrimitive (table : TypeTable) : List Char → Bool :=
  table.lists table.primitives

def isNull (table : TypeTable) : List Char → Bool :=
  table.lists table.nullTypes

def isTransparent (table : TypeTable) : List Char → Bool :=
  table.lists table.transparentWrappers

def isUnionWrapper (table : TypeTable) : List Char → Bool :=
  table.lists table.unionWrappers

end TypeTable

/-- The primitive names of TypeScript and JavaScript. -/
def scriptPrimitives : List String :=
  ["string", "number", "boolean", "void", "null", "undefined",
    "any", "never", "unknown", "object", "symbol", "bigint"]

/-- The generics of TypeScript and JavaScript that stand for their first argument. -/
def scriptWrappers : List String :=
  ["Promise", "PromiseLike", "Awaited",
    "Array", "ReadonlyArray", "Set", "ReadonlySet", "WeakSet",
    "Map", "ReadonlyMap", "WeakMap",
    "Iterable", "AsyncIterable", "Iterator", "AsyncIterator",
    "Partial", "Required", "Readonly", "NonNullable"]

def TypeTable.typescript : TypeTable where
  language := "typescript"
  primitives := scriptPrimitives
  caseSensitive := false
  transparentWrappers := scriptWrappers
  nullTypes := ["null", "undefined"]

/-- Plain JavaScript has no static types to follow. -/
def TypeTable.javascript : TypeTable where
  language := "javascript"
  primitives := scriptPrimitives
  caseSensitive := false
  transparentWrappers := scriptWrappers
  nullTypes := ["null", "undefined"]
  emitTypeUsage := false

def TypeTable.python : TypeTable where
  language := "python"
  primitives :=
    ["str", "int", "float", "bool", "None", "NoneType", "bytes", "bytearray",
      "complex", "list", "dict", "set", "frozenset", "tuple", "type",
      "Any", "object", "List", "Dict", "Set", "FrozenSet", "Tuple",
      "Optional", "Union", "Type", "Callable"]
  transparentWrappers :=
    ["List", "Dict", "Set", "FrozenSet", "Tuple", "Type",
      "list", "dict", "set", "frozenset", "tuple", "type",
      "Sequence", "MutableSequence", "Mapping", "MutableMapping",
      "Iterable", "Iterator", "AsyncIterable", "AsyncIterator",
      "Generator", "AsyncGenerator", "Awaitable",
      "Annotated", "ClassVar", "Final"]
  unionWrappers := ["Optional", "Union"]
  nullTypes := ["None", "NoneType"]
  genericOpen := "["
  genericClose := "]"
  intersectionSeparators := []
  arraySuffix := ""
  optionalSuffix := ""
  matchLastSegment := true
  stripQuotes := true
  importTargetType := "module"

end CodeGraph
