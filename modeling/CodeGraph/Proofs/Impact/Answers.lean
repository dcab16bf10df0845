import CodeGraph.Proofs.Impact.Settling
import CodeGraph.Proofs.Schema.Readers

namespace CodeGraph

namespace Impact

/-- What an object gives under a key, unless it counts as false. -/
def given? (members : Members) (key : String) : Option Json :=
  (Members.get? members key).filter Json.isTruthy

def IsText (value : Json) : Prop :=
  ∃ s, value = .str s

/-- An object that gives no other values than texts under some keys. -/
def GivesTexts (members : Members) (keys : List String) : Prop :=
  ∀ key ∈ keys, ∀ value ∈ given? members key, IsText value

/-- An item that tells of an entity. One without an id may be any object. -/
def TellsEntity (item : Json) : Prop :=
  ∃ members, item = .obj members ∧ ∀ id ∈ given? members "id",
    IsText id ∧ GivesTexts members ["name", "type", "filePath"]

/-- An answer that lists entities. -/
def ListsEntities (answer : Json) : Prop :=
  ∃ members, answer = .obj members ∧ ∀ entities ∈ given? members "entities",
    ∃ items, entities = .arr items ∧ ∀ item ∈ items, TellsEntity item

/-- An answer whose references can be counted. -/
def CountsReferences (answer : Json) : Prop :=
  ∃ members, answer = .obj members ∧ ∀ references ∈ given? members "references",
    references.elements?.isSome

/-- An item that tells of a text for reviewing. -/
def TellsContext (item : Json) : Prop :=
  ∃ members, item = .obj members ∧ GivesTexts members ["name", "summary", "filePath"] ∧
    ∀ score ∈ given? members "relevanceScore", ∃ x, Reader.float score = .ok x

/-- An answer whose first items are texts for reviewing. -/
def ListsContexts (answer : Json) : Prop :=
  ∃ members, answer = .obj members ∧ ∀ contexts ∈ given? members "items",
    ∃ items, contexts = .arr items ∧ ∀ item ∈ items.take maxContextItems, TellsContext item

section

variable {α β : Type} {members : Members} {key : String}

/-- What is asked of a value only if it is given is asked of it if it counts as true. -/
theorem forall_given {wanted : Json → Prop} : (∀ value ∈ given? members key, wanted value) ↔
    (((Members.get? members key).getD .null).isTruthy = true →
      wanted ((Members.get? members key).getD .null)) := by
  unfold given?
  cases found : Members.get? members key with
  | none => simp [Json.isTruthy]
  | some value => cases truthy : value.isTruthy <;> simp [truthy]

theorem given?_eq_some_iff {value : Json} :
    given? members key = some value ↔
      value.isTruthy = true ∧ (Members.get? members key).getD .null = value := by
  unfold given?
  rw [Option.filter_eq_some_iff]
  cases Members.get? members key with
  | none =>
    refine iff_of_false nofun ?_
    rintro ⟨truthy, rfl⟩
    cases truthy
  | some other => simp [and_comm]

theorem given?_eq_none_iff :
    given? members key = none ↔ ((Members.get? members key).getD .null).isTruthy = false := by
  unfold given?
  rw [Option.filter_eq_none_iff]
  cases Members.get? members key with
  | none => exact iff_of_true nofun rfl
  | some other => simp

/-- Only an object can be asked for a member. -/
theorem member_bind_ok {answer : Json} {f : Json → Except Misshape α} :
    (∃ a, (member answer key >>= f) = .ok a) ↔
      ∃ members, answer = .obj members ∧ ∃ a, f ((Members.get? members key).getD .null) = .ok a := by
  cases answer <;> simp [member, bind, Except.bind]

theorem lengthOf_ok {value : Json} :
    (∃ n, lengthOf value = .ok n) ↔ (value.isTruthy = true → value.elements?.isSome = true) := by
  unfold lengthOf
  cases truthy : value.isTruthy <;> cases value <;> simp [Json.elements?, Json.isTruthy] at *

/-- What holds of the value in place of one that is not given holds of the value that is taken if and only
if it holds of the one that is given. -/
theorem orElse_iff (wanted : Json → Prop) {fallback : Json} (holds : wanted fallback) :
    wanted (orElse ((Members.get? members key).getD .null) fallback) ↔
      ∀ value ∈ given? members key, wanted value := by
  rw [forall_given]
  unfold orElse
  split <;> simp_all

end

/-- All that is answered about references can be counted. -/
def ReferencesFit (log : List LookupExchange) : Prop :=
  ∀ answer ∈ answers "entity_references" log, CountsReferences answer

theorem referencesFit_append {log more : List LookupExchange} :
    ReferencesFit (log ++ more) ↔ ReferencesFit log ∧ ReferencesFit more := by
  unfold ReferencesFit
  rw [answers_append, List.forall_mem_append]

theorem referencesFit_tool {name : String} {parameters : Json} {reply : ToolReply}
    {log : List LookupExchange} : ReferencesFit (⟨.tool name parameters, reply⟩ :: log) ↔
      (∀ answer, name = "entity_references" → reply = .ok answer → CountsReferences answer) ∧
        ReferencesFit log := by
  rw [← List.singleton_append, referencesFit_append]
  refine and_congr_left fun _ => ?_
  cases reply with
  | error reason => simp [ReferencesFit, answers]
  | ok answer =>
    rw [ReferencesFit, answers_tool]
    by_cases asked : name = "entity_references" <;> simp [asked]

theorem usageCount_settles (project : String) (id : Json) :
    (usageCount project id).Settles ReferencesFit := by
  refine Analysis.Settles.call fun reply => ?_
  simp only [referencesFit_tool]
  cases reply with
  | error reason => exact .pure 0 ⟨nofun, nofun⟩
  | ok answer =>
    have counted : (∃ n, (member answer "references" >>= lengthOf) = .ok n) ↔ CountsReferences answer := by
      simp only [member_bind_ok, lengthOf_ok, CountsReferences, forall_given]
    dsimp only
    rw [← Analysis.lift_bind]
    refine .lift (counted.trans ?_)
    simp [ReferencesFit, answers]

theorem text_ok {value : Json} : (∃ s, Reader.text value = .ok s) ↔ IsText value := by
  cases value <;> simp [Reader.text, Checked.issue, IsText]

theorem affectedEntity_valid {members : Members} {filePath : String} {change : ChangeType} {id : Json}
    {usages : Nat} :
    (∃ entity, AffectedEntity.schema.validate (.obj [
      ("entity_id", id), ("name", orElse ((Members.get? members "name").getD .null) id),
      ("type", orElse ((Members.get? members "type").getD .null) (.str "unknown")),
      ("file_path", orElse ((Members.get? members "filePath").getD .null) (.str filePath)),
      ("change_type", .str change.name), ("usage_count", .int usages)]) = .ok entity) ↔
      IsText id ∧ GivesTexts members ["name", "type", "filePath"] := by
  have named : ChangeType.ofName? change.name = some change := by cases change <;> decide
  have given (text : IsText id) : IsText (orElse ((Members.get? members "name").getD .null) id) ↔
      ∀ value, given? members "name" = some value → IsText value := orElse_iff IsText text
  rw [Schema.exists_validate_iff rfl]
  simp only [AffectedEntity.schema, List.forall_mem_cons, Field.issues_required_eq_nil Reader.text_tells,
    Field.issues_optional_eq_nil Reader.int_tells,
    Field.issues_optional_eq_nil (Reader.named_tells ChangeType.ofName?), Members.get?_cons]
  simp +contextual [text_ok, GivesTexts, named, Reader.named, Reader.int, orElse_iff IsText ⟨_, rfl⟩, given]

theorem entitiesOf_settles (project filePath : String) (change : ChangeType) (items : List Json) :
    (entitiesOf project filePath change items).Settles fun log =>
      (∀ item ∈ items, TellsEntity item) ∧ ReferencesFit log := by
  induction items with
  | nil => exact .pure [] ⟨nofun, nofun⟩
  | cons item rest ih =>
    simp only [List.forall_mem_cons]
    refine Analysis.Settles.member_bind ?_ fun others fits => ?_
    · rintro members rfl
      have tells : TellsEntity (.obj members) ↔
          (((Members.get? members "id").getD .null).isTruthy = true →
            IsText ((Members.get? members "id").getD .null) ∧
              GivesTexts members ["name", "type", "filePath"]) := by
        simp only [TellsEntity, Json.obj.injEq, exists_eq_left', forall_given]
      simp only [tells]
      split
      · rename_i without
        refine ih.weaken fun log => ?_
        simp_all
      · rename_i named
        have truthy : ((Members.get? members "id").getD .null).isTruthy = true := by simpa using named
        simp only [member, Analysis.lift_ok_bind]
        refine .bind (usageCount_settles project _) (fun usages => .checked_bind affectedEntity_valid
          (fun entity _ => ih.map _) fun log => Iff.rfl) fun log more => ?_
        simp only [truthy, true_imp_iff, referencesFit_append, and_assoc, and_left_comm]
    · obtain ⟨⟨⟨members, same, _⟩, _⟩, _⟩ := fits
      exact others members same

/-- All that is answered about entities is of the right shape. -/
def EntitiesFit (log : List LookupExchange) : Prop :=
  (∀ answer ∈ answers "entity_search" log, ListsEntities answer) ∧ ReferencesFit log

theorem entitiesFit_append {log more : List LookupExchange} :
    EntitiesFit (log ++ more) ↔ EntitiesFit log ∧ EntitiesFit more := by
  unfold EntitiesFit
  rw [answers_append, List.forall_mem_append, referencesFit_append, and_and_and_comm]

theorem toList_of_isTruthy {s : String} (truthy : (Json.str s).isTruthy = true) :
    ∃ c rest, s.toList = c :: rest := by
  cases chars : s.toList with
  | nil => simp [Json.isTruthy, String.toList_eq_nil_iff.mp chars] at truthy
  | cons c rest => exact ⟨c, rest, rfl⟩

/-- The items of a value that is given are all of a shape that texts do not have if and only if it is a
list of such items. -/
theorem forall_itemsOf {tells : Json → Prop} (noTexts : ∀ s, ¬ tells (.str s)) {members : Members}
    {key : String} :
    (∃ items, itemsOf ((Members.get? members key).getD .null) = .ok items ∧ ∀ item ∈ items, tells item) ↔
      ∀ value ∈ given? members key, ∃ items, value = .arr items ∧ ∀ item ∈ items, tells item := by
  rw [forall_given]
  generalize (Members.get? members key).getD .null = value
  unfold itemsOf
  cases truthy : value.isTruthy with
  | false => simp
  | true =>
    cases value with
    | arr items => simp
    | obj members =>
      obtain ⟨member, rest, rfl⟩ : ∃ member rest, members = member :: rest := by
        cases members with
        | nil => simp [Json.isTruthy] at truthy
        | cons member rest => exact ⟨member, rest, rfl⟩
      simp [noTexts]
    | str s =>
      obtain ⟨c, rest, chars⟩ := toList_of_isTruthy truthy
      simp [noTexts, chars]
    | _ => simp

theorem not_tellsEntity_str (s : String) : ¬ TellsEntity (.str s) := by
  rintro ⟨_, ⟨⟩, _⟩

theorem entitiesOfFiles_settles (project : String) (deleted files : List String) :
    (entitiesOfFiles project deleted files).Settles EntitiesFit := by
  induction files with
  | nil => exact .pure _ ⟨nofun, nofun⟩
  | cons file rest ih =>
    refine .call fun reply => ?_
    cases reply with
    | error reason => exact ih.map _
    | ok answer =>
      have search (log : List LookupExchange) (parameters : Json) :
          EntitiesFit (⟨.tool "entity_search" parameters, .ok answer⟩ :: log) ↔
            ListsEntities answer ∧ EntitiesFit log := by
        rw [← List.singleton_append, entitiesFit_append]
        refine and_congr_left fun _ => ?_
        simp [EntitiesFit, ReferencesFit, answers]
      simp only [search]
      refine .member_bind ?_ fun others fits => ?_
      · rintro members rfl
        have lists : ListsEntities (.obj members) ↔
            ∃ items, itemsOf ((Members.get? members "entities").getD .null) = .ok items ∧
              ∀ item ∈ items, TellsEntity item := by
          simp only [ListsEntities, Json.obj.injEq, exists_eq_left', forall_itemsOf not_tellsEntity_str]
        refine .lift_bind (fun items listed => ?_) fun noList fits => ?_
        · have found (change : ChangeType) : (entitiesOf project file change items).Settles fun log =>
              (∀ item ∈ items, TellsEntity item) ∧ EntitiesFit log :=
            (entitiesOf_settles project file change items).spared "entity_search"
              (entitiesOf_spares (by decide) ..) fun log none => by simp [EntitiesFit, none]
          refine .bind (found _) (fun entities => ih.map _) fun log more => ?_
          simp [lists, listed, entitiesFit_append, and_assoc]
        · obtain ⟨items, listed, _⟩ := lists.mp fits.1
          exact noList items listed
      · obtain ⟨⟨members, same, _⟩, _⟩ := fits
        exact others members same

theorem affectedEntities_settles (now : DateTime) (hasTools : Bool) (project : String)
    (files : ChangedFiles) : (affectedEntities now hasTools project files).Settles EntitiesFit := by
  unfold affectedEntities
  split
  · exact .pure _ ⟨nofun, nofun⟩
  · exact (entitiesOfFiles_settles project files.deleted _).map _

/-- All that is answered about texts for reviewing is of the right shape. -/
def ContextsFit (log : List LookupExchange) : Prop :=
  ∀ answer ∈ answers "context_query" log, ListsContexts answer

theorem relatedContext_valid {members : Members} :
    (∃ context, RelatedContext.schema.validate (.obj [
      ("title", orElse ((Members.get? members "name").getD .null) (.str "Unknown")),
      ("summary", orElse ((Members.get? members "summary").getD .null) (.str "")),
      ("relevance_score", orElse ((Members.get? members "relevanceScore").getD .null) (.float 0.0)),
      ("file_paths", .arr (if ((Members.get? members "filePath").getD .null).isTruthy
        then [(Members.get? members "filePath").getD .null] else []))]) = .ok context) ↔
      TellsContext (.obj members) := by
  have path : (∃ paths, Reader.list Reader.text (.arr
      (if ((Members.get? members "filePath").getD .null).isTruthy
        then [(Members.get? members "filePath").getD .null] else [])) = .ok paths) ↔
      ∀ value ∈ given? members "filePath", IsText value := by
    rw [forall_given]
    generalize (Members.get? members "filePath").getD .null = value
    cases truthy : value.isTruthy with
    | false => simp [Reader.list, Reader.items]
    | true =>
      cases value <;>
        simp [Reader.list, Reader.items, Reader.text, Checked.under, Checked.issue, IsText]
  have score : (∃ x, Reader.float
      (orElse ((Members.get? members "relevanceScore").getD .null) (.float 0.0)) = .ok x) ↔
      ∀ score, given? members "relevanceScore" = some score → ∃ x, Reader.float score = .ok x :=
    orElse_iff (fun value => ∃ x, Reader.float value = .ok x) ⟨0.0, rfl⟩
  have tells := Reader.text_tells.list fun _ same => IssueKind.noConfusion same
  rw [Schema.exists_validate_iff rfl]
  simp only [RelatedContext.schema, List.forall_mem_cons,
    Field.issues_required_eq_nil Reader.text_tells, Field.issues_optional_eq_nil Reader.text_tells,
    Field.issues_optional_eq_nil Reader.float_tells, Field.issues_optional_eq_nil tells,
    Members.get?_cons]
  simp [text_ok, orElse_iff IsText ⟨_, rfl⟩, score, TellsContext, GivesTexts, path, and_assoc,
    and_comm, and_left_comm]

theorem contextsOf_settles (items : List Json) :
    (contextsOf items).Settles fun _ => ∀ item ∈ items, TellsContext item := by
  induction items with
  | nil => exact .pure [] nofun
  | cons item rest ih =>
    simp only [List.forall_mem_cons]
    refine .member_bind ?_ fun others fits => ?_
    · rintro members rfl
      exact .checked_bind relatedContext_valid (fun context _ => ih.map _) fun log => Iff.rfl
    · obtain ⟨⟨members, same, _⟩, _⟩ := fits
      exact others members same

theorem not_tellsContext_str (s : String) : ¬ TellsContext (.str s) := by
  rintro ⟨_, ⟨⟩, _⟩

theorem forall_firstOf {tells : Json → Prop} (noTexts : ∀ s, ¬ tells (.str s)) {members : Members}
    {key : String} (count : Nat) :
    (∃ items, firstOf (count + 1) ((Members.get? members key).getD .null) = .ok items ∧
      ∀ item ∈ items, tells item) ↔
      ∀ value ∈ given? members key, ∃ items, value = .arr items ∧
        ∀ item ∈ items.take (count + 1), tells item := by
  rw [forall_given]
  generalize (Members.get? members key).getD .null = value
  unfold firstOf
  cases truthy : value.isTruthy with
  | false => simp
  | true =>
    cases value with
    | arr items => simp
    | str s =>
      obtain ⟨c, rest, chars⟩ := toList_of_isTruthy truthy
      simp [noTexts, chars]
    | _ => simp

theorem relatedContexts_settles (now : DateTime) (hasTools : Bool) (project : String)
    (files : ChangedFiles) : (relatedContexts now hasTools project files).Settles ContextsFit := by
  unfold relatedContexts
  dsimp only
  split
  · exact .pure _ nofun
  · refine .call fun reply => ?_
    cases reply with
    | error reason => exact .pure _ nofun
    | ok answer =>
      have asked (log : List LookupExchange) (parameters : Json) (none : answers "context_query" log = []) :
          ContextsFit (⟨.tool "context_query" parameters, .ok answer⟩ :: log) ↔ ListsContexts answer := by
        rw [← List.singleton_append, ContextsFit, answers_append, none, answers_tool]
        simp
      refine .member_bind ?_ fun others fits => ?_
      · rintro members rfl
        have lists : ListsContexts (.obj members) ↔
            ∃ items, firstOf maxContextItems ((Members.get? members "items").getD .null) = .ok items ∧
              ∀ item ∈ items, TellsContext item := by
          simp only [ListsContexts, Json.obj.injEq, exists_eq_left']
          exact (forall_firstOf not_tellsContext_str 4).symm
        refine .lift_bind (fun items listed => ?_) fun noList fits => ?_
        · refine .map (((contextsOf_settles items).spared "context_query" (contextsOf_spares items)
            fun log none => ?_)) _
          rw [asked log _ none, lists]
          simp [listed]
        · obtain ⟨items, listed, _⟩ := lists.mp ((asked [] _ rfl).mp fits)
          exact noList items listed
      · obtain ⟨members, same, _⟩ := (asked [] _ rfl).mp fits
        exact others members same

end Impact

end CodeGraph
