import CodeGraph.Proofs.Schema.Given
import CodeGraph.Proofs.Structure.Nesting
import CodeGraph.Structure.Extraction
import Mathlib.Logic.Relation

namespace CodeGraph.Structure

/-- The kinds of records in what a parser reports. -/
inductive Kind where
  | result
  | symbol
  | parameter
  | importRecord
  | specifier

def Kind.Record : Kind → Type
  | .result => ParseResult
  | .symbol => Symbol
  | .parameter => Parameter
  | .importRecord => ImportRecord
  | .specifier => ImportSpecifier

def Kind.schema : (kind : Kind) → Schema kind.Record
  | .result => ParseResult.schema
  | .symbol => Symbol.schema Symbol.read fun _ => .null
  | .parameter => Parameter.schema
  | .importRecord => ImportRecord.schema
  | .specifier => ImportSpecifier.schema

/-- What a value in a parse result is taken for: a record, a list of records, a list of texts, or a value that is not
looked into. -/
inductive Place where
  | record (kind : Kind)
  | records (kind : Kind)
  | texts
  | other

/-- The place of the items of a list. -/
def Place.item : Place → Place
  | .records kind => .record kind
  | _ => .other

/-- The place of the value that is given under a name. -/
def Place.under : Place → String → Place
  | .record .result, "symbols" => .records .symbol
  | .record .result, "imports" => .records .importRecord
  | .record .result, "exports" => .texts
  | .record .symbol, "parameters" => .records .parameter
  | .record .symbol, "children" => .records .symbol
  | .record .symbol, "implements" => .texts
  | .record .importRecord, "specifiers" => .records .specifier
  | _, _ => .other

/-- The names of the fields at a place, in both spellings. -/
def Place.names : Place → List (String × String)
  | .record kind => kind.schema.fields.map fun field => (field.label, field.name)
  | _ => []

/-- Whether an item of a list is valid there. -/
def Place.Accepts : Place → Json → Prop
  | .records kind, item => (kind.schema.read item).toOption.isSome = true
  | .texts, item => ∃ s, item = .str s
  | _, _ => True

/-- One edit of a value, at its place in a parse result or at a place within it. -/
inductive Edit : Place → Json → Json → Prop
  | respell {place : Place} {before after : Members} {key spelled : String} {value : Json} :
      (key, spelled) ∈ place.names ∨ (spelled, key) ∈ place.names →
      (∀ member ∈ before ++ after, member.1 ≠ key ∧ member.1 ≠ spelled) →
      Edit place (.obj (before ++ (key, value) :: after)) (.obj (before ++ (spelled, value) :: after))
  | add {place : Place} {before after : Members} {key : String} {value : Json} :
      (∀ member ∈ before ++ after, member.1 ≠ key) →
      (value = .null ∨ ∀ names ∈ place.names, key ≠ names.1 ∧ key ≠ names.2) →
      Edit place (.obj (before ++ after)) (.obj (before ++ (key, value) :: after))
  | insert {place : Place} {front back : List Json} {item : Json} : ¬ place.Accepts item →
      Edit place (.arr (front ++ back)) (.arr (front ++ item :: back))
  | member {place : Place} {before after : Members} {key : String} {value value' : Json} :
      Edit (place.under key) value value' →
      Edit place (.obj (before ++ (key, value) :: after)) (.obj (before ++ (key, value') :: after))
  | item {place : Place} {front back : List Json} {item item' : Json} : Edit place.item item item' →
      Edit place (.arr (front ++ item :: back)) (.arr (front ++ item' :: back))

/-- Two objects, or two lists. -/
inductive SameSort : Json → Json → Prop
  | obj (members members' : Members) : SameSort (.obj members) (.obj members')
  | arr (items items' : List Json) : SameSort (.arr items) (.arr items')

theorem Edit.sameSort {place : Place} {value value' : Json} (edit : Edit place value value') :
    SameSort value value' := by
  cases edit with
  | respell | add | member => exact .obj _ _
  | insert | item => exact .arr _ _

/-- Values that are read alike at a place. -/
def Agrees : Place → Json → Json → Prop
  | .record kind, value, value' => (kind.schema.read value).toOption = (kind.schema.read value').toOption
  | .records kind, value, value' => Reader.fitting kind.schema.read value = Reader.fitting kind.schema.read value'
  | .texts, value, value' => Reader.fitting Reader.text value = Reader.fitting Reader.text value'
  | .other, _, _ => True

/-- A field that takes values alike if they are of one sort and read alike at a place. -/
def Reads {α : Type} (place : Place) (field : Field α) : Prop :=
  ∀ value value', SameSort value value' → Agrees place value value' → field.assign value = field.assign value'

section

variable {α β : Type} {name : String} {read : Reader β} {get : α → β} {write : β → Json} {set : β → α → α}

theorem reads_of_dull (dull : ∀ value value', SameSort value value' → read value = read value') (place : Place) :
    Reads place (Field.optional name read get write set) :=
  fun value value' sort _ => congrArg (Except.map set) (dull value value' sort)

theorem reads_text {get : α → String} {write : String → Json} {set : String → α → α} (place : Place) :
    Reads place (Field.optional name Reader.text get write set) :=
  reads_of_dull (fun _ _ sort => by cases sort <;> rfl) place

theorem reads_text? {get : α → Option String} {write : Option String → Json} {set : Option String → α → α}
    (place : Place) :
    Reads place (Field.optional name (Reader.nullable Reader.text) get write set) :=
  reads_of_dull (fun _ _ sort => by cases sort <;> rfl) place

theorem reads_int {get : α → Int} {write : Int → Json} {set : Int → α → α} (place : Place) :
    Reads place (Field.optional name Reader.int get write set) :=
  reads_of_dull (fun _ _ sort => by cases sort <;> rfl) place

theorem reads_records {kind : Kind} {read : Reader kind.Record} {get : α → List kind.Record}
    {write : List kind.Record → Json} {set : List kind.Record → α → α}
    (same : ∀ value, read value = kind.schema.read value) :
    Reads (.records kind) (Field.optional name (Reader.fitting read) get write set) := by
  obtain rfl : read = kind.schema.read := funext same
  exact fun value value' _ agrees => congrArg (Except.map set) agrees

theorem reads_texts {get : α → List String} {write : List String → Json} {set : List String → α → α} :
    Reads .texts (Field.optional name (Reader.fitting Reader.text) get write set) :=
  fun _ _ _ agrees => congrArg (Except.map set) agrees

end

/-- A field reads its values as the places say that its names have within a record of a kind. -/
def Suits (kind : Kind) (field : Field kind.Record) : Prop :=
  ∀ key ∈ [field.label, field.name], Reads ((Place.record kind).under key) field

theorem Suits.anywhere {kind : Kind} {field : Field kind.Record} (reads : ∀ place, Reads place field) :
    Suits kind field :=
  fun _ _ => reads _

theorem Suits.named {kind : Kind} {field : Field kind.Record} (unspelled : field.label = field.name)
    (reads : Reads ((Place.record kind).under field.name) field) : Suits kind field := by
  intro key among
  rw [unspelled, List.mem_cons, List.mem_singleton, or_self] at among
  exact among ▸ reads

theorem Suits.spelled {kind : Kind} {field : Field kind.Record} (spelling : String)
    (reads : ∀ place, Reads place field) :
    Suits kind (field.spelled spelling) :=
  fun _ _ => reads _

theorem fields_suit (kind : Kind) : ∀ field ∈ kind.schema.fields, Suits kind field := by
  cases kind with
  | result =>
    refine List.forall_mem_cons.mpr ⟨.spelled _ reads_text, List.forall_mem_cons.mpr ⟨.anywhere reads_text,
      List.forall_mem_cons.mpr ⟨.named rfl ?_, List.forall_mem_cons.mpr ⟨.named rfl ?_,
      List.forall_mem_singleton.mpr (.named rfl ?_)⟩⟩⟩⟩
    · exact reads_records Symbol.read_eq
    · exact reads_records fun _ => rfl
    · exact reads_texts
  | symbol =>
    refine List.forall_mem_cons.mpr ⟨.anywhere reads_text, List.forall_mem_cons.mpr ⟨.anywhere reads_text,
      List.forall_mem_cons.mpr ⟨.spelled _ reads_text, List.forall_mem_cons.mpr ⟨.named rfl ?_,
      List.forall_mem_cons.mpr ⟨.spelled _ reads_text?, List.forall_mem_cons.mpr ⟨.spelled _ reads_int,
      List.forall_mem_cons.mpr ⟨.spelled _ reads_int, List.forall_mem_cons.mpr ⟨.named rfl ?_,
      List.forall_mem_cons.mpr ⟨.anywhere reads_text?, List.forall_mem_singleton.mpr (.named rfl ?_)⟩⟩⟩⟩⟩⟩⟩⟩⟩
    · exact reads_records fun _ => rfl
    · exact reads_records Symbol.read_eq
    · exact reads_texts
  | parameter =>
    exact List.forall_mem_cons.mpr ⟨.anywhere reads_text, List.forall_mem_singleton.mpr (.anywhere reads_text?)⟩
  | importRecord =>
    refine List.forall_mem_cons.mpr ⟨.anywhere reads_text, List.forall_mem_cons.mpr ⟨.named rfl ?_,
      List.forall_mem_singleton.mpr (.spelled _ reads_int)⟩⟩
    exact reads_records fun _ => rfl
  | specifier =>
    exact List.forall_mem_cons.mpr ⟨.anywhere reads_text, List.forall_mem_singleton.mpr (.anywhere reads_text?)⟩

theorem names_apart (kind : Kind) : ∀ names ∈ (Place.record kind).names, ∀ others ∈ (Place.record kind).names,
    names = others ∨ names.1 ≠ others.1 ∧ names.1 ≠ others.2 ∧ names.2 ≠ others.1 ∧ names.2 ≠ others.2 := by
  cases kind <;> decide

theorem tidy_obj (kind : Kind) (members : Members) :
    kind.schema.tidy (.obj members) = .obj (members.filter fun member => !member.2.isNull) := by
  cases kind <;> rfl

theorem read_arr (kind : Kind) (items : List Json) : kind.schema.read (.arr items) = .issue .modelType := by
  cases kind <;> rfl

theorem mem_names {kind : Kind} {field : Field kind.Record} (among : field ∈ kind.schema.fields) :
    (field.label, field.name) ∈ (Place.record kind).names :=
  List.mem_map_of_mem among

/-- Two spellings of one name belong to the same fields. -/
theorem spellings_shared {kind : Kind} {field : Field kind.Record} (among : field ∈ kind.schema.fields)
    {key spelled : String}
    (spelling : (key, spelled) ∈ (Place.record kind).names ∨ (spelled, key) ∈ (Place.record kind).names) :
    (field.label = key ∧ field.name = spelled ∨ field.label = spelled ∧ field.name = key) ∨
      field.label ≠ key ∧ field.label ≠ spelled ∧ field.name ≠ key ∧ field.name ≠ spelled := by
  have apart := names_apart kind _ (mem_names among)
  rcases spelling with listed | listed
  · rcases apart _ listed with same | ⟨first, second, third, fourth⟩
    · exact .inl (.inl (Prod.mk.inj same))
    · exact .inr ⟨first, second, third, fourth⟩
  · rcases apart _ listed with same | ⟨first, second, third, fourth⟩
    · exact .inl (.inr (Prod.mk.inj same))
    · exact .inr ⟨second, first, fourth, third⟩

theorem SameSort.not_null {value value' : Json} (sort : SameSort value value') :
    value.isNull = false ∧ value'.isNull = false := by
  cases sort <;> exact ⟨rfl, rfl⟩

section

variable {kind : Kind} {before after : Members} {key spelled : String} {value value' : Json}

/-- A name in its other spelling is the name of the same field, and of no other. -/
theorem agrees_respell
    (spelling : (key, spelled) ∈ (Place.record kind).names ∨ (spelled, key) ∈ (Place.record kind).names)
    (sole : ∀ member ∈ before ++ after, member.1 ≠ key ∧ member.1 ≠ spelled) :
    Agrees (.record kind) (.obj (before ++ (key, value) :: after)) (.obj (before ++ (spelled, value) :: after)) := by
  refine Schema.read_congr (tidy_obj kind _) (tidy_obj kind _) fun field among => ?_
  rw [List.filter_append, List.filter_append, List.filter_cons, List.filter_cons]
  dsimp only
  split
  · have given : ∀ member ∈
        before.filter (fun member => !member.2.isNull) ++ after.filter (fun member => !member.2.isNull),
        member.1 ≠ key ∧ member.1 ≠ spelled := by
      intro member within
      rw [← List.filter_append] at within
      exact sole member (List.mem_of_mem_filter within)
    rcases spellings_shared among spelling with (⟨rfl, rfl⟩ | ⟨rfl, rfl⟩) | ⟨first, second, third, fourth⟩
    · rw [Field.taken_sole given (.inl rfl), Field.taken_sole given (.inr rfl)]
    · rw [Field.taken_sole (fun member within => (given member within).symm) (.inr rfl),
        Field.taken_sole (fun member within => (given member within).symm) (.inl rfl)]
    · rw [Field.taken_insert_of_ne first third, Field.taken_insert_of_ne second fourth]
  · rfl

/-- A member that is null, or that no field is named after, is passed over. -/
theorem agrees_add (blank : value = .null ∨ ∀ names ∈ (Place.record kind).names, key ≠ names.1 ∧ key ≠ names.2) :
    Agrees (.record kind) (.obj (before ++ after)) (.obj (before ++ (key, value) :: after)) := by
  refine Schema.read_congr (tidy_obj kind _) (tidy_obj kind _) fun field among => ?_
  rw [List.filter_append, List.filter_append, List.filter_cons]
  dsimp only
  split
  · rename_i given
    rcases blank with rfl | unknown
    · nomatch given
    · obtain ⟨label, name⟩ := unknown _ (mem_names among)
      rw [Field.taken_insert_of_ne label.symm name.symm]
  · rfl

theorem agrees_member (sort : SameSort value value') (agrees : Agrees ((Place.record kind).under key) value value') :
    Agrees (.record kind) (.obj (before ++ (key, value) :: after)) (.obj (before ++ (key, value') :: after)) := by
  refine Schema.read_congr (tidy_obj kind _) (tidy_obj kind _) fun field among => ?_
  obtain ⟨given, given'⟩ := sort.not_null
  rw [List.filter_append, List.filter_append, List.filter_cons_of_pos (by rw [given]; rfl),
    List.filter_cons_of_pos (by rw [given']; rfl)]
  refine Field.taken_replace fun named => ?_
  refine fields_suit kind field among key ?_ value value' sort agrees
  rwa [List.mem_cons, List.mem_singleton]

end

/-- Items that are accepted alike make lists that are read alike. -/
theorem fitting_item {α : Type} {read : Reader α} {front back : List Json} {item item' : Json}
    (same : (read item).toOption = (read item').toOption) :
    Reader.fitting read (.arr (front ++ item :: back)) = Reader.fitting read (.arr (front ++ item' :: back)) := by
  simp only [Reader.fitting, List.filterMap_append, List.filterMap_cons, same]

theorem fitting_insert {α : Type} {read : Reader α} {front back : List Json} {item : Json}
    (refused : (read item).toOption = none) :
    Reader.fitting read (.arr (front ++ back)) = Reader.fitting read (.arr (front ++ item :: back)) := by
  simp only [Reader.fitting, List.filterMap_append, List.filterMap_cons, refused]

/-- An edit leaves a value as it is read at its place. -/
theorem Edit.agrees {place : Place} {value value' : Json} (edit : Edit place value value') :
    Agrees place value value' := by
  -- at a place where another sort of value is expected, all values of the wrong sort are read alike
  induction edit with
  | @respell place before after key spelled value spelling sole =>
    cases place with
    | record kind => exact agrees_respell spelling sole
    | records | texts => rfl
    | other => trivial
  | @add place before after key value _ blank =>
    cases place with
    | record kind => exact agrees_add blank
    | records | texts => rfl
    | other => trivial
  | @insert place front back item refused =>
    cases place with
    | record kind => exact absurd trivial refused
    | records kind => exact fitting_insert (Option.not_isSome_iff_eq_none.mp refused)
    | texts =>
      refine fitting_insert ?_
      cases item with
      | str s => exact absurd ⟨s, rfl⟩ refused
      | null | bool | int | float | arr | obj => rfl
    | other => trivial
  | @member place before after key value value' edit ih =>
    cases place with
    | record kind => exact agrees_member edit.sameSort ih
    | records | texts => rfl
    | other => trivial
  | @item place front back item item' edit ih =>
    cases place with
    | record kind => exact congrArg Except.toOption ((read_arr kind _).trans (read_arr kind _).symm)
    | records kind => exact fitting_item ih
    | texts => exact fitting_item (by cases edit.sameSort <;> rfl)
    | other => trivial

theorem extract_eq_of_agrees (table : TypeTable) {data data' : Json} (agrees : Agrees (.record .result) data data') :
    extract table data = extract table data' := by
  have same : (ParseResult.schema.read data).toOption = (ParseResult.schema.read data').toOption := agrees
  unfold extract
  cases read : ParseResult.schema.read data with
  | error =>
    cases read' : ParseResult.schema.read data' with
    | error => rfl
    | ok => rw [read, read'] at same; nomatch same
  | ok =>
    cases read' : ParseResult.schema.read data' with
    | error => rw [read, read'] at same; nomatch same
    | ok => rw [read, read'] at same; exact congrArg (relationships table) (Option.some.inj same)

/-- Any number of such edits, at any depth, leaves the relationships as they are. -/
theorem extract_edited (table : TypeTable) {data data' : Json}
    (edits : Relation.ReflTransGen (Edit (.record .result)) data data') : extract table data = extract table data' := by
  induction edits with
  | refl => rfl
  | tail _ edit ih => exact ih.trans (extract_eq_of_agrees table edit.agrees)

/-- A report of a file with a class that has one member. -/
def sampleReport (path : String) (method : Members) (others : List Json) : Json :=
  .obj [(path, "a.ts"), ("symbols", .arr (others ++ [.obj [("name", "C"), ("children", .arr [.obj method])]]))]

/-- The file path in its other spelling, a symbol that is a number, and a null member of a symbol in a symbol. -/
theorem extract_edited_sample :
    extract .typescript (sampleReport "file_path" [("name", "m")] []) =
      extract .typescript (sampleReport "filePath" [("name", "m"), ("returnType", .null)] [.int 5]) := by
  have respelled : Edit (.record .result) (sampleReport "file_path" [("name", "m")] [])
      (sampleReport "filePath" [("name", "m")] []) :=
    @Edit.respell (.record .result) [] _ _ _ _ (.inr (by decide)) (List.forall_mem_singleton.mpr (by decide))
  have inserted : Edit (.record .result) (sampleReport "filePath" [("name", "m")] [])
      (sampleReport "filePath" [("name", "m")] [.int 5]) :=
    @Edit.member (.record .result) [("filePath", "a.ts")] [] "symbols" _ _
      (@Edit.insert (.records .symbol) [] _ (.int 5) nofun)
  have added : Edit (.record .result) (sampleReport "filePath" [("name", "m")] [.int 5])
      (sampleReport "filePath" [("name", "m"), ("returnType", .null)] [.int 5]) :=
    @Edit.member (.record .result) [("filePath", "a.ts")] [] "symbols" _ _ (@Edit.item (.records .symbol) [.int 5] [] _ _
      (@Edit.member (.record .symbol) [("name", "C")] [] "children" _ _ (@Edit.item (.records .symbol) [] [] _ _
        (@Edit.add (.record .symbol) [("name", "m")] [] "returnType" .null (List.forall_mem_singleton.mpr (by decide))
          (.inl rfl)))))
  exact extract_edited .typescript (.tail (.tail (.single respelled) inserted) added)

end CodeGraph.Structure
