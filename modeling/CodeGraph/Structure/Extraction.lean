import CodeGraph.Graph.Relationship
import CodeGraph.Structure.ParseResult
import CodeGraph.TypeExpr.Normalize

namespace CodeGraph.Structure

def importWeight : Float := 1.0
def referenceWeight : Float := 0.8
def containsWeight : Float := 1.0
def inheritanceWeight : Float := 1.0
def typeUsageWeight : Float := 0.7

/-- The specifier that stands for all names of a module. -/
def wildcard : String := "*"

/-- The relationships of one import: one to what is imported, one to each named specifier. -/
def ofImport (table : TypeTable) (filePath : String) (record : ImportRecord) :
    List ExtractedRelationship :=
  if record.source == "" then []
  else
    let metadata : Members := [("line", .int record.startLine)]
    let named := record.specifiers.filter fun s => s.name != "" && s.name != wildcard
    { source := filePath, sourceType := "file", target := record.source
      targetType := some table.importTargetType, type := .imports, weight := importWeight
      metadata } ::
    named.map fun specifier =>
      { source := filePath, sourceType := "file", target := specifier.name, type := .references
        weight := referenceWeight, metadata }

/-- The relationships of all imports. Without a file path there are none. -/
def imports (table : TypeTable) (result : ParseResult) : List ExtractedRelationship :=
  if result.filePath == "" then []
  else result.imports.flatMap (ofImport table result.filePath)

/-- The type of a symbol, if it has one. -/
def typeOr (fallback type : String) : String :=
  if type == "" then fallback else type

/-- What a symbol contains, extends and implements. -/
def ofSymbol (symbol : Symbol) : List ExtractedRelationship :=
  let parent := symbol.effectiveName
  if parent == "" then []
  else
    let sourceType := typeOr "unknown" symbol.type
    let contained := symbol.children.filter (·.effectiveName != "") |>.map fun child =>
      { source := parent, sourceType, target := child.effectiveName
        targetType := if child.type == "" then none else some child.type
        type := .contains, weight := containsWeight : ExtractedRelationship }
    let extended := (symbol.baseType.filter (· != "")).toList.map fun base =>
      { source := parent, sourceType, target := base
        targetType := some (if symbol.type == "interface" then "interface" else "class")
        type := .extends_, weight := inheritanceWeight : ExtractedRelationship }
    let implemented := symbol.interfaces.filter (· != "") |>.map fun interface =>
      { source := parent, sourceType, target := interface, targetType := some "interface"
        type := .implements, weight := inheritanceWeight : ExtractedRelationship }
    contained ++ extended ++ implemented

/-- Containment and inheritance of all symbols, each before its children. -/
def hierarchy (result : ParseResult) : List ExtractedRelationship :=
  (Symbol.preorderAll result.symbols).flatMap ofSymbol

/-- The types that the signature of a function uses, its result last. -/
def ofSignature (table : TypeTable) (symbol : Symbol) : List ExtractedRelationship :=
  let source := symbol.effectiveName
  if !table.functionTypes.contains symbol.type || source == "" then []
  else
    let types := symbol.parameters.map (·.type) ++ [symbol.returnType]
    types.filterMap fun written =>
      (written.bind table.normalize?).map fun target =>
        { source, sourceType := symbol.type, target, targetType := some "type"
          type := .usesType, weight := typeUsageWeight }

/-- The types used by all signatures, if the language has types to follow. -/
def typeUsage (table : TypeTable) (result : ParseResult) : List ExtractedRelationship :=
  if table.emitTypeUsage then
    (Symbol.preorderAll result.symbols).flatMap (ofSignature table)
  else []

/-- All relationships of a parsed file. -/
def relationships (table : TypeTable) (result : ParseResult) : List ExtractedRelationship :=
  if result.isEmpty then []
  else imports table result ++ hierarchy result ++ typeUsage table result

/-- All relationships of what a parser reports. What is no parse result has none. -/
def extract (table : TypeTable) (data : Json) : List ExtractedRelationship :=
  match ParseResult.schema.read data with
  | .ok result => relationships table result
  | .error _ => []

end CodeGraph.Structure
