import CodeGraph.Proofs.Schema.Fields
import CodeGraph.Structure.Placeholder

namespace CodeGraph

theorem Reader.nullable_trimmed (s : Option String) :
    Reader.nullable Reader.trimmed (Json.ofText? s) = .ok (s.map Text.trimWhiteSpace) := by
  cases s <;> rfl

theorem Entity.identifier_str (s : String) :
    Entity.identifier (.str s) =
      if Text.allBlank (Text.trimWhiteSpace s) then
        .issue (.refused "Entity identifiers cannot be empty")
      else .ok (Text.trimWhiteSpace s) := by
  simp only [identifier, Reader.refine, Reader.trimmed, bind, Except.bind]

theorem Entity.identifier_of_issues {name s : String} {get : Entity → String} {write : String → Json}
    {set : String → Entity → Entity} {members : Members}
    (given : Members.get? members name = some (.str s))
    (valid : (Field.required name Entity.identifier get write set).issues members = []) :
    Entity.identifier (.str s) = .ok (Text.trimWhiteSpace s) := by
  rw [Field.issues_required, given] at valid
  cases blank : Text.allBlank (Text.trimWhiteSpace s) with
  | false =>
    rw [identifier_str, blank]
    rfl
  | true => simp [identifier_str, blank, Checked.issue] at valid

namespace Placeholder

/-- The members that the entity for a name is read from. -/
def members (name : String) (tag filePath : Option String) : Members :=
  [("id", .str (id name)), ("type", .str (kindOf tag).name),
    ("name", .str (displayName name (kindOf tag))), ("qualified_name", .str name),
    ("file_path", Json.ofText? (if tag == some "file" then some name else filePath)),
    ("metadata", .obj [("placeholder", .bool true)])]

theorem entity_eq_of_ok {now : DateTime} {name : String} {tag filePath : Option String} {e : Entity}
    (made : entity now name tag filePath = .ok e) :
    e = {
      id := Text.trimWhiteSpace (id name)
      kind := kindOf tag
      name := Text.trimWhiteSpace (displayName name (kindOf tag))
      qualifiedName := Text.trimWhiteSpace name
      filePath := (if tag == some "file" then some name else filePath).map Text.trimWhiteSpace
      metadata := [("placeholder", .bool true)]
      createdAt := now
      updatedAt := now } := by
  have read : (Entity.schema now).validate (.obj (members name tag filePath)) = .ok e := made
  have plain : (Entity.schema now).tidy (.obj (members name tag filePath)) =
      .obj (members name tag filePath) := rfl
  obtain ⟨valid, put⟩ := (Schema.read_obj_eq_ok_iff plain).mp (Schema.validate_eq_ok_iff.mp read)
  simp only [Entity.schema, List.forall_mem_cons] at valid
  obtain ⟨idValid, _, nameValid, qualifiedValid, _⟩ := valid
  have atId : Members.get? (members name tag filePath) "id" = some (.str (id name)) := rfl
  have atName : Members.get? (members name tag filePath) "name" =
      some (.str (displayName name (kindOf tag))) := rfl
  have atQualified : Members.get? (members name tag filePath) "qualified_name" = some (.str name) := rfl
  have idRead := Entity.identifier_of_issues atId idValid
  have nameRead := Entity.identifier_of_issues atName nameValid
  have qualifiedRead := Entity.identifier_of_issues atQualified qualifiedValid
  have metadataRead : Reader.objectTrimmed (.obj [("placeholder", .bool true)]) =
      .ok [("placeholder", .bool true)] := rfl
  rw [← put]
  simp [members, Entity.schema, Field.put_optional, Field.put_required, Members.get?,
    List.lookup_cons, idRead, nameRead, qualifiedRead, metadataRead, Reader.named,
    EntityType.ofName?_name, Reader.nullable_trimmed]

end Placeholder

end CodeGraph
