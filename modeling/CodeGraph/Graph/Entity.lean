import CodeGraph.Schema.Readers

namespace CodeGraph

/-- Kinds of entities. -/
inductive EntityType where
  | function
  | class_
  | method
  | property
  | interface
  | type
  | variable_
  | module_
  | file
  | concept
  | technology
  | pattern
  | requirement
  | document
  | section_
  | decision
deriving Repr, DecidableEq, Inhabited

namespace EntityType

def name : EntityType → String
  | .function => "function"
  | .class_ => "class"
  | .method => "method"
  | .property => "property"
  | .interface => "interface"
  | .type => "type"
  | .variable_ => "variable"
  | .module_ => "module"
  | .file => "file"
  | .concept => "concept"
  | .technology => "technology"
  | .pattern => "pattern"
  | .requirement => "requirement"
  | .document => "document"
  | .section_ => "section"
  | .decision => "decision"

def all : List EntityType :=
  [.function, .class_, .method, .property, .interface, .type, .variable_, .module_, .file,
    .concept, .technology, .pattern, .requirement, .document, .section_, .decision]

/-- The kind with a name. -/
def ofName? (s : String) : Option EntityType :=
  all.find? (·.name == s)

theorem ofName?_name (kind : EntityType) : ofName? kind.name = some kind := by
  cases kind <;> decide

end EntityType

/-- A node of the graph. -/
structure Entity where
  id : String
  kind : EntityType
  name : String
  qualifiedName : String
  content : Option String := none
  summary : Option String := none
  filePath : Option String := none
  startLine : Option Int := none
  endLine : Option Int := none
  metadata : Members := []
  createdAt : DateTime
  updatedAt : DateTime

namespace Entity

/-- Identifiers hold something that is not blank. -/
def identifier : Reader String :=
  Reader.refine Reader.trimmed fun s =>
    if Text.allBlank s then .issue (.refused "Entity identifiers cannot be empty") else .ok s

/-- The text by which similar entities are looked for: the summary, else the content, else the
name. -/
def searchText (entity : Entity) : String :=
  match entity.summary.filter (· != ""), entity.content.filter (· != "") with
  | some summary, _ => summary
  | none, some content => content
  | none, none => entity.name

/-- The fields of an entity. Both times are the present if they are not given. -/
def schema (now : DateTime) : Schema Entity where
  title := "Entity"
  assignment := .never
  initial := {
    id := "", kind := .variable_, name := "", qualifiedName := "", createdAt := now, updatedAt := now }
  derived := [.of "search_text" (.str ·.searchText)]
  fields :=
    let text? := Reader.nullable Reader.trimmed
    let line? := Reader.nullable Reader.int
    [.required "id" identifier (·.id) .str fun v e => { e with id := v },
      .required "type" (Reader.named EntityType.ofName?) (·.kind) (.str ·.name)
        fun v e => { e with kind := v },
      .required "name" identifier (·.name) .str fun v e => { e with name := v },
      .required "qualified_name" identifier (·.qualifiedName) .str
        fun v e => { e with qualifiedName := v },
      .optional "content" text? (·.content) Json.ofText? fun v e => { e with content := v },
      .optional "summary" text? (·.summary) Json.ofText? fun v e => { e with summary := v },
      .optional "file_path" text? (·.filePath) Json.ofText? fun v e => { e with filePath := v },
      .optional "start_line" line? (·.startLine) (Json.ofOption .int)
        fun v e => { e with startLine := v },
      .optional "end_line" line? (·.endLine) (Json.ofOption .int) fun v e => { e with endLine := v },
      .optional "metadata" Reader.objectTrimmed (·.metadata) .obj
        fun v e => { e with metadata := v },
      .optional "created_at" Reader.datetime (·.createdAt) (.str ·.text)
        fun v e => { e with createdAt := v },
      .optional "updated_at" Reader.datetime (·.updatedAt) (.str ·.text)
        fun v e => { e with updatedAt := v }]

/-- The entity as an object. -/
def toJson (entity : Entity) : Json :=
  (schema entity.createdAt).toJson entity

end Entity

end CodeGraph
