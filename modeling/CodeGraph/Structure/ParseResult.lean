import CodeGraph.Schema.Readers

namespace CodeGraph

/-- An object without its null members. -/
def Json.dropNulls : Json → Json
  | .obj members => .obj (members.filter fun member => !member.2.isNull)
  | value => value

/-- How deeply lists and objects are nested in a value. -/
def Json.depth : Json → Nat
  | .arr items => depthItems items + 1
  | .obj members => depthMembers members + 1
  | _ => 0
where
  depthItems : List Json → Nat
    | [] => 0
    | item :: rest => max item.depth (depthItems rest)
  depthMembers : List (String × Json) → Nat
    | [] => 0
    | member :: rest => max member.2.depth (depthMembers rest)

namespace Reader

/-- The items of a list that a reader accepts. What is no list has none. -/
def fitting {α : Type} (read : Reader α) : Reader (List α)
  | .arr items => .ok (items.filterMap fun item => (read item).toOption)
  | _ => .ok []

end Reader

/-- A parameter of a function. -/
structure Parameter where
  name : String := ""
  type : Option String := none
deriving Repr

namespace Parameter

def schema : Schema Parameter where
  title := "Parameter"
  assignment := .never
  initial := {}
  tidy := Json.dropNulls
  fields := [
    .optional "name" Reader.text (·.name) .str fun v p => { p with name := v },
    .optional "type" (Reader.nullable Reader.text) (·.type) Json.ofText?
      fun v p => { p with type := v }]

end Parameter

/-- A symbol with the symbols that it contains. -/
structure Symbol where
  type : String := ""
  name : String := ""
  qualifiedName : String := ""
  parameters : List Parameter := []
  returnType : Option String := none
  startLine : Int := 0
  endLine : Int := 0
  children : List Symbol := []
  baseType : Option String := none
  interfaces : List String := []

namespace Symbol

/-- The fields of a symbol, given a reader for the symbols in it. -/
def fields (child : Reader Symbol) (showChild : Symbol → Json) : List (Field Symbol) := [
  .optional "type" Reader.text (·.type) .str fun v s => { s with type := v },
  .optional "name" Reader.text (·.name) .str fun v s => { s with name := v },
  (Field.optional "qualified_name" Reader.text Symbol.qualifiedName .str
    fun v s => { s with qualifiedName := v }).spelled "qualifiedName",
  .optional "parameters" (Reader.fitting Parameter.schema.read) (·.parameters)
    (fun ps => .arr (ps.map Parameter.schema.toJson)) fun v s => { s with parameters := v },
  (Field.optional "return_type" (Reader.nullable Reader.text) Symbol.returnType Json.ofText?
    fun v s => { s with returnType := v }).spelled "returnType",
  (Field.optional "start_line" Reader.int Symbol.startLine .int
    fun v s => { s with startLine := v }).spelled "startLine",
  (Field.optional "end_line" Reader.int Symbol.endLine .int
    fun v s => { s with endLine := v }).spelled "endLine",
  .optional "children" (Reader.fitting child) (·.children) (fun cs => .arr (cs.map showChild))
    fun v s => { s with children := v },
  .optional "extends" (Reader.nullable Reader.text) (·.baseType) Json.ofText?
    fun v s => { s with baseType := v },
  .optional "implements" (Reader.fitting Reader.text) (·.interfaces) Json.strings
    fun v s => { s with interfaces := v }]

/-- The record type of symbols, given a reader for the symbols in one. -/
def schema (child : Reader Symbol) (showChild : Symbol → Json) : Schema Symbol where
  title := "Symbol"
  assignment := .never
  initial := {}
  tidy := Json.dropNulls
  fields := fields child showChild

/-- A symbol with symbols so many levels deep. -/
def readWithin : Nat → Reader Symbol
  | 0, _ => .issue .modelType
  | levels + 1, value => (schema (readWithin levels) fun _ => .null).read value

def read : Reader Symbol := fun value => readWithin (value.depth + 1) value

mutual

/-- The symbol as an object. -/
def toJson : Symbol → Json
  | .mk type name qualifiedName parameters returnType startLine endLine children baseType
      interfaces =>
    .obj [("type", .str type), ("name", .str name), ("qualified_name", .str qualifiedName),
      ("parameters", .arr (parameters.map Parameter.schema.toJson)),
      ("return_type", Json.ofText? returnType), ("start_line", .int startLine),
      ("end_line", .int endLine), ("children", .arr (toJsonAll children)),
      ("extends", Json.ofText? baseType), ("implements", Json.strings interfaces)]

def toJsonAll : List Symbol → List Json
  | [] => []
  | symbol :: rest => symbol.toJson :: toJsonAll rest

end

mutual

/-- The symbol and all symbols in it, each before its children. -/
def preorder : Symbol → List Symbol
  | symbol@(.mk _ _ _ _ _ _ _ children _ _) => symbol :: preorderAll children

def preorderAll : List Symbol → List Symbol
  | [] => []
  | symbol :: rest => symbol.preorder ++ preorderAll rest

end

/-- The qualified name, or the name if there is none. -/
def effectiveName (symbol : Symbol) : String :=
  if symbol.qualifiedName == "" then symbol.name else symbol.qualifiedName

end Symbol

/-- A name that an import brings in. -/
structure ImportSpecifier where
  name : String := ""
  newName : Option String := none
deriving Repr

namespace ImportSpecifier

/-- The fields of a specifier, which may be given as its name alone. -/
def schema : Schema ImportSpecifier where
  title := "ImportSpecifier"
  assignment := .never
  initial := {}
  tidy := fun
    | .str name => .obj [("name", .str name)]
    | value => value.dropNulls
  fields := [
    .optional "name" Reader.text (·.name) .str fun v s => { s with name := v },
    .optional "alias" (Reader.nullable Reader.text) (·.newName) Json.ofText?
      fun v s => { s with newName := v }]

end ImportSpecifier

/-- An import of a module or file. -/
structure ImportRecord where
  source : String := ""
  specifiers : List ImportSpecifier := []
  startLine : Int := 0
deriving Repr

namespace ImportRecord

def schema : Schema ImportRecord where
  title := "ImportRecord"
  assignment := .never
  initial := {}
  tidy := Json.dropNulls
  fields := [
    .optional "source" Reader.text (·.source) .str fun v r => { r with source := v },
    .optional "specifiers" (Reader.fitting ImportSpecifier.schema.read) (·.specifiers)
      (fun ss => .arr (ss.map ImportSpecifier.schema.toJson)) fun v r => { r with specifiers := v },
    (Field.optional "start_line" Reader.int ImportRecord.startLine .int
      fun v r => { r with startLine := v }).spelled "startLine"]

end ImportRecord

/-- What a parser reports about a file. -/
structure ParseResult where
  filePath : String := ""
  language : String := ""
  symbols : List Symbol := []
  imports : List ImportRecord := []
  exported : List String := []

namespace ParseResult

/-- Whether nothing was found. -/
def isEmpty (result : ParseResult) : Bool :=
  result.symbols.isEmpty && result.imports.isEmpty && result.exported.isEmpty

def schema : Schema ParseResult where
  title := "ParseResult"
  assignment := .never
  initial := {}
  tidy := Json.dropNulls
  derived := [.of "is_empty" (.bool ·.isEmpty)]
  fields := [
    (Field.optional "file_path" Reader.text ParseResult.filePath .str
      fun v r => { r with filePath := v }).spelled "filePath",
    .optional "language" Reader.text (·.language) .str fun v r => { r with language := v },
    .optional "symbols" (Reader.fitting Symbol.read) (·.symbols)
      (fun ss => .arr (ss.map Symbol.toJson)) fun v r => { r with symbols := v },
    .optional "imports" (Reader.fitting ImportRecord.schema.read) (·.imports)
      (fun is => .arr (is.map ImportRecord.schema.toJson)) fun v r => { r with imports := v },
    .optional "exports" (Reader.fitting Reader.text) (·.exported) Json.strings
      fun v r => { r with exported := v }]

end ParseResult

end CodeGraph
