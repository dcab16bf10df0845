import CodeGraph.Json.Access
import CodeGraph.Proofs.Schema.Given
import CodeGraph.Proofs.Schema.Readers
import CodeGraph.Structure.Extraction

namespace CodeGraph

namespace Reader

theorem exists_text_iff {value : Json} : (∃ s, text value = .ok s) ↔ ∃ s, value = .str s := by
  cases value with
  | str s => exact iff_of_true ⟨s, rfl⟩ ⟨s, rfl⟩
  | null | bool | int | float | arr | obj => exact iff_of_false nofun nofun

theorem exists_fitting {α : Type} (read : Reader α) (value : Json) : ∃ found, fitting read value = .ok found := by
  cases value <;> exact ⟨_, rfl⟩

end Reader

namespace Field

variable {α β : Type} {kinds : IssueKind → Prop} {name spelling : String} {read : Reader β} {get : α → β}
  {write : β → Json} {set : β → α → α} {members : Members}

theorem issues_spelled_eq_nil (tells : Reader.Tells kinds read) :
    ((optional name read get write set).spelled spelling).issues members = [] ↔
      ∀ value ∈ (members.get? spelling).or (members.get? name), ∃ b, read value = .ok b := by
  have takes : ((optional name read get write set).spelled spelling).taken members =
      ((members.get? spelling).or (members.get? name)).map fun value => (read value).map set := rfl
  rw [issues_eq_nil_iff, takes]
  cases (members.get? spelling).or (members.get? name) with
  | none => simp [optional, spelled]
  | some value =>
    cases found : read value with
    | ok b => simp [found, Except.map]
    | error issues => simp [found, Except.map, (tells value issues found).1]

/-- Of a list whatever fits is taken, so that nothing is wrong with it. -/
theorem issues_fitting {γ : Type} {read : Reader γ} {get : α → List γ} {write : List γ → Json} {set : List γ → α → α} :
    (optional name (Reader.fitting read) get write set).issues members = [] := by
  rw [issues_optional]
  cases members.get? name with
  | none => rfl
  | some value =>
    obtain ⟨found, reads⟩ := Reader.exists_fitting read value
    dsimp only
    rw [reads]

end Field

namespace ParseResult

/-- A value that gives texts for the file path and the language, where it gives anything but null for them. -/
def NamedByTexts (data : Json) : Prop :=
  ∀ given, data.dropNulls = .obj given →
    (∀ value ∈ (Members.get? given "filePath").or (Members.get? given "file_path"), ∃ s, value = .str s) ∧
      ∀ value ∈ Members.get? given "language", ∃ s, value = .str s

theorem exists_read_iff (members : Members) :
    (∃ result, schema.read (.obj members) = .ok result) ↔ NamedByTexts (.obj members) := by
  have dropped : schema.tidy (.obj members) = .obj (members.filter fun member => !member.2.isNull) := rfl
  rw [Schema.exists_read_iff dropped, NamedByTexts]
  generalize members.filter _ = given at dropped
  simp only [schema, List.forall_mem_cons, Field.issues_spelled_eq_nil Reader.text_tells,
    Field.issues_optional_eq_nil Reader.text_tells, Field.issues_fitting, Reader.exists_text_iff, List.not_mem_nil,
    false_imp_iff, implies_true, and_true]
  constructor
  · intro named given' dropped'
    cases dropped.symm.trans dropped'
    exact named
  · exact fun named => named given dropped

variable {data : Json}

/-- The members of a value that is named by texts are read, and they give the relationships of the value. -/
theorem exists_validate_members (named : NamedByTexts data) (table : TypeTable) :
    ∃ result, schema.validate (.obj data.members) = .ok result ∧
      Structure.relationships table result = Structure.extract table data := by
  cases data with
  | obj members =>
    obtain ⟨result, read⟩ := (exists_read_iff members).mpr named
    refine ⟨result, Schema.validate_eq_ok_iff.mpr read, ?_⟩
    rw [Structure.extract, read]
  | null | bool | int | float | str | arr => exact ⟨{}, rfl, rfl⟩

/-- Any other value has no relationships, and its members are not read. -/
theorem validate_members_refused (unnamed : ¬ NamedByTexts data) (table : TypeTable) :
    (∃ cause, schema.validate (.obj data.members) = .error cause) ∧ Structure.extract table data = [] := by
  cases data with
  | obj members =>
    rw [← exists_read_iff] at unnamed
    cases read : schema.read (.obj members) with
    | ok result => exact absurd ⟨result, read⟩ unnamed
    | error issues =>
      refine ⟨⟨⟨schema.title, issues⟩, ?_⟩, ?_⟩
      · show (schema.read (.obj members)).mapError _ = _
        rw [read, mapError_error]
      · rw [Structure.extract, read]
  | null | bool | int | float | str | arr => exact absurd (fun _ dropped => nomatch dropped) unnamed

end ParseResult

end CodeGraph
