import CodeGraph.Config.Project
import CodeGraph.Proofs.Schema.Readers

namespace CodeGraph

namespace Reader

variable {α : Type} {kinds : IssueKind → Prop}

/-- A test that values pass or not. -/
theorem Tells.refine_if {read : Reader α} (tells : Tells kinds read) {passes : α → Prop}
    [DecidablePred passes] {f : α → α} {kind : IssueKind} (known : kinds kind) :
    Tells kinds (Reader.refine read fun a => if passes a then .ok (f a) else .issue kind) :=
  tells.refine fun a => by
    by_cases pass : passes a
    · exact .inl ⟨f a, if_pos pass⟩
    · exact .inr ⟨kind, known, if_neg pass⟩

theorem address_tells {read : Reader String} (tells : Tells IssueKind.IsLocal read) (reason : String) :
    Tells IssueKind.IsLocal (address read reason) :=
  tells.refine_if nofun

theorem atLeast_tells (least : Int) : Tells IssueKind.IsLocal (Reader.refine int (atLeast least)) :=
  int_tells.refine_if nofun

theorem between_tells (least greatest : Int) :
    Tells IssueKind.IsLocal (Reader.refine int (between least greatest)) :=
  int_tells.refine fun i => by
    unfold between atLeast
    repeat' split
    all_goals first | exact .inl ⟨_, rfl⟩ | exact .inr (issue_known nofun)

theorem unit_tells : Tells IssueKind.IsLocal (Reader.refine float unit) :=
  float_tells.refine fun x => by
    unfold unit
    repeat' split
    all_goals first | exact .inl ⟨_, rfl⟩ | exact .inr (issue_known nofun)

end Reader

namespace Field

variable {α β : Type} {kinds : IssueKind → Prop} {read : Reader β}

/-- A field all of whose issues are of certain kinds. -/
def Tells (kinds : IssueKind → Prop) (field : Field α) : Prop :=
  ∀ members, ∀ issue ∈ field.issues members, kinds issue.kind

variable {name : String} {get : α → β} {write : β → Json} {set : β → α → α}

theorem Tells.optional (tells : Reader.Tells kinds read) :
    Tells kinds (Field.optional name read get write set) :=
  fun _ => issues_optional_known tells

end Field

theorem HookConfig.read_tells : Reader.Tells IssueKind.IsLocal HookConfig.schema.read := by
  have flag := Reader.bool_tells
  have text := Reader.trimmedOrNumber_tells
  have fields : ∀ field ∈ schema.fields, Field.Tells IssueKind.IsLocal field := by
    simp only [schema, List.forall_mem_cons, List.not_mem_nil, false_imp_iff, implies_true, and_true]
    exact ⟨.optional flag, .optional flag, .optional flag, .optional flag, .optional flag,
      .optional flag, .optional flag, .optional flag, .optional (Reader.atLeast_tells 1),
      .optional (Reader.atLeast_tells 100), .optional flag, .optional (Reader.address_tells text _),
      .optional text, .optional (Reader.named_tells _), .optional flag⟩
  exact Schema.read_tells rfl fields nofun

theorem LinkingConfig.read_tells : Reader.Tells IssueKind.IsLocal LinkingConfig.schema.read := by
  have fields : ∀ field ∈ schema.fields, Field.Tells IssueKind.IsLocal field := by
    simp only [schema, List.forall_mem_cons, List.not_mem_nil, false_imp_iff, implies_true, and_true]
    exact ⟨.optional Reader.text_tells, .optional Reader.unit_tells,
      .optional (Reader.between_tells 1 100), .optional Reader.unit_tells,
      .optional (Reader.text_tells.list nofun)⟩
  exact Schema.read_tells rfl fields nofun

theorem QdrantConfig.read_tells : Reader.Tells IssueKind.IsLocal QdrantConfig.schema.read := by
  have text := Reader.trimmed_tells
  have metric : Reader.Tells IssueKind.IsLocal metric := text.refine_if nofun
  have fields : ∀ field ∈ schema.fields, Field.Tells IssueKind.IsLocal field := by
    simp only [schema, List.forall_mem_cons, List.not_mem_nil, false_imp_iff, implies_true, and_true]
    exact ⟨.optional (Reader.address_tells text _), .optional text.nullable,
      .optional Reader.float_tells, .optional text, .optional Reader.int_tells, .optional metric⟩
  exact Schema.read_tells rfl fields nofun

theorem EmbeddingConfig.read_tells : Reader.Tells IssueKind.IsLocal EmbeddingConfig.schema.read := by
  have fields : ∀ field ∈ schema.fields, Field.Tells IssueKind.IsLocal field := by
    simp only [schema, List.forall_mem_cons, List.not_mem_nil, false_imp_iff, implies_true, and_true]
    exact ⟨.optional Reader.trimmed_tells, .optional (Reader.atLeast_tells 1),
      .optional Reader.pathTrimmed_tells.nullable, .optional Reader.trimmed_tells.nullable,
      .optional (Reader.between_tells 1 512), .optional Reader.bool_tells⟩
  exact Schema.read_tells rfl fields nofun

theorem Invalid.fileError?_eq_none {invalid : Invalid}
    (all : ∀ issue ∈ invalid.issues, issue.kind.IsLocal) : invalid.fileError? = none := by
  unfold Invalid.fileError?
  rw [List.findSome?_eq_none_iff]
  intro issue member
  cases kind : issue.kind with
  | unreachable cause => exact absurd kind (all issue member cause)
  | _ => rfl

namespace ProjectConfig

theorem nameReader_tells : Reader.Tells IssueKind.IsLocal nameReader :=
  Reader.trimmed_tells.refine_if nofun

theorem directoryReader_tells (tree : FileTree) {readPath : Reader String}
    (tells : Reader.Tells IssueKind.IsLocal readPath) :
    Reader.Tells (fun _ => True) (directoryReader tree readPath) :=
  (tells.mono fun _ _ => trivial).refine fun path => by
    split
    · exact .inr (Reader.issue_known trivial)
    · exact .inr (Reader.issue_known trivial)
    · exact .inl ⟨_, rfl⟩
    · exact .inr (Reader.issue_known trivial)

/-- With a directory that exists, nothing is left in a configuration that could be out of reach. -/
theorem validate_reaches {tree : FileTree} {readPath : Reader String} {members : Members}
    {value : Json} {place : String} {invalid : Invalid}
    (given : Members.get? members "path" = some value)
    (exists_ : directoryReader tree readPath value = .ok place)
    (refused : (schema tree readPath).validate (.obj members) = .error invalid) :
    invalid.fileError? = none := by
  have fields : ∀ field ∈ (schema tree readPath).fields, ∀ issue ∈ field.issues members,
      issue.kind.IsLocal := by
    simp only [schema, List.forall_mem_cons, List.not_mem_nil, false_imp_iff, implies_true, and_true]
    refine ⟨Field.issues_required_known nameReader_tells nofun, ?_,
      Field.issues_optional_known Reader.pathTrimmed_tells,
      Field.issues_optional_known HookConfig.read_tells,
      Field.issues_optional_known LinkingConfig.read_tells,
      Field.issues_optional_known QdrantConfig.read_tells,
      Field.issues_optional_known EmbeddingConfig.read_tells,
      Field.issues_optional_known Reader.trimmed_tells.nullable,
      Field.issues_optional_known Reader.trimmed_tells⟩
    rw [Field.issues_required, given]
    simp [exists_]
  unfold Schema.validate at refused
  cases read : (schema tree readPath).read (.obj members) with
  | ok config => simp [read, mapError_ok] at refused
  | error issues =>
    rw [read] at refused
    cases refused
    obtain ⟨_, same⟩ := Schema.issues_of_read rfl read
    refine Invalid.fileError?_eq_none fun issue member => ?_
    rw [same] at member
    obtain ⟨field, among, inField⟩ := List.mem_flatMap.mp member
    exact fields field among issue inField

end ProjectConfig

end CodeGraph
