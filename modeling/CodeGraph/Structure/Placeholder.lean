import CodeGraph.Graph.Entity
import CodeGraph.Hash.Sha256
import CodeGraph.Text.Blank
import CodeGraph.Text.Search

namespace CodeGraph.Placeholder

/-- Kinds of symbols that parsers report and that are kinds of entities under another name. -/
def typeAliases : List (String × EntityType) :=
  [("constructor", .method), ("getter", .property), ("setter", .property), ("field", .property),
    ("attribute", .property), ("enum", .type), ("type_alias", .type), ("struct", .class_),
    ("constant", .variable_)]

/-- The kind that a type tag means. An unknown tag means a variable. -/
def kindOf (tag : Option String) : EntityType :=
  match tag with
  | none => .variable_
  | some tag =>
    match EntityType.ofName? tag with
    | some kind => kind
    | none => (typeAliases.lookup tag).getD .variable_

/-- The id of an entity first seen as an end of a relationship. -/
def id (qualifiedName : String) : String :=
  "ent_" ++ Text.take 24 (Sha256.hex (Sha256.hashText qualifiedName))

/-- What follows the last slash of a file name or the last dot or double colon of another one. -/
def displayName (qualifiedName : String) (kind : EntityType) : String :=
  let last :=
    match kind with
    | .file => Text.afterLast '/' (Text.dropRightWhile (· == '/') qualifiedName.toList)
    | _ => Text.afterLast '.' (Text.replace qualifiedName "::" ".").toList
  if last.isEmpty then qualifiedName else String.ofList last

/-- The entity that stands for a name. -/
def entity (now : DateTime) (qualifiedName : String) (tag filePath : Option String) :
    Except Invalid Entity :=
  let kind := kindOf tag
  let filePath := if tag == some "file" then some qualifiedName else filePath
  (Entity.schema now).validate (.obj [
    ("id", .str (id qualifiedName)), ("type", .str kind.name),
    ("name", .str (displayName qualifiedName kind)), ("qualified_name", .str qualifiedName),
    ("file_path", Json.ofText? filePath), ("metadata", .obj [("placeholder", .bool true)])])

end CodeGraph.Placeholder
